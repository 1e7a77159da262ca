import ControlPlane.Text.Composite
import ControlPlane.Text.Mark

/-!
# Composed text

The same text may be written with composites or with what they stand for, and with marks in various orders. `composed` brings
it to one form: everything is taken apart, the marks behind a letter are put in the order of their classes, and then letters
and marks are joined again where there is a composite for them.
-/

namespace ControlPlane.Text

/-- The greatest number of steps in which a composite is taken apart. -/
def mostSteps : Nat := 3

/-- The characters that a character stands for after some steps. Only the first of two parts may have parts again. -/
def apart : Nat → Char → List Char
  | 0, c => [c]
  | steps + 1, c =>
    match parts? c with
    | some (first, second) => apart steps first ++ [second]
    | none => [c]

/-- Puts a character before others. A mark goes behind marks of lower classes. -/
def place (c : Char) : List Char → List Char
  | [] => [c]
  | d :: rest =>
    if 0 < combiningClass d ∧ combiningClass d < combiningClass c then d :: place c rest else c :: d :: rest

/-- Text with the marks behind each other character in the order of their classes. -/
def arranged (s : List Char) : List Char := s.foldr place []

/-- Joins the characters behind a first one to it, one by one. The marks that could not be joined stand between; one of them
keeps marks of its own and of lower classes away from the first. -/
def joinedTo (first : Char) (between : List Char) : List Char → List Char
  | [] => first :: between
  | c :: rest =>
    let free := between.getLast?.all fun d => combiningClass d < combiningClass c
    match if free then joined? first c else none with
    | some composite => joinedTo composite between rest
    | none =>
      if combiningClass c = 0 then first :: between ++ joinedTo c [] rest
      else joinedTo first (between ++ [c]) rest

/-- Joins the characters of a text. Marks at its start have nothing to be joined to. -/
def together : List Char → List Char
  | [] => []
  | c :: rest => if combiningClass c = 0 then joinedTo c [] rest else c :: together rest

/-- Text in composed form. -/
def composed (s : List Char) : List Char := together (arranged (s.flatMap (apart mostSteps)))

end ControlPlane.Text
