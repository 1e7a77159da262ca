import ControlPlane.Text.Hex
import ControlPlane.Text.Split

/-!
# Classes of characters

A class of characters is held as ranges of codes, each with its first and its last code. A long table is written down in
rows of text: its entries stand between blanks, codes have hexadecimal digits, and a dash stands between the ends of a range.
-/

namespace ControlPlane.Text

/-- Ranges of codes. -/
abbrev Ranges := List (Nat × Nat)

/-- Whether the code of a character lies in one of the ranges. -/
def Ranges.holds (ranges : Ranges) (c : Char) : Bool :=
  ranges.any fun (first, last) => first ≤ c.toNat && c.toNat ≤ last

/-! ## Tables -/

/-- The entries in rows of text. -/
def entries (rows : List String) : List (List Char) := rows.flatMap fun row => split (· == ' ') row.toList

/-- A code in hexadecimal digits. -/
def codeOf (digits : List Char) : Nat := digits.foldl (fun n c => n * 16 + (Hex.value? c).getD 0) 0

/-- The parts of an entry before and after a mark, or the entry twice if it has none. -/
def bothSides (mark : Char) (entry : List Char) : List Char × List Char :=
  match entry.span (· ≠ mark) with
  | (before, _ :: after) => (before, after)
  | (whole, []) => (whole, whole)

/-- Ranges from rows of text. -/
def Ranges.ofRows (rows : List String) : Ranges :=
  (entries rows).map fun entry =>
    let (first, last) := bothSides '-' entry
    (codeOf first, codeOf last)

end ControlPlane.Text
