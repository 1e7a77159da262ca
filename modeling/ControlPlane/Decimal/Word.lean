/-!
# Numbers of a fixed width in decimal digits

A number is written in one or more digits, which may have a plus sign before them, and must fit its width.
-/

namespace ControlPlane.Decimal

/-- The number that decimal digits stand for. -/
def ofDigits (digits : List Char) : Nat := digits.foldl (fun n c => n * 10 + (c.toNat - 48)) 0

/-- The number that a text stands for, where it is less than a bound. -/
def below? (bound : Nat) (s : List Char) : Option Nat :=
  let digits := match s with
    | '+' :: rest => rest
    | s => s
  if !digits.isEmpty && digits.all Char.isDigit && ofDigits digits < bound then some (ofDigits digits) else none

/-- A number of 32 bits. -/
def word32? (s : String) : Option UInt32 := (below? UInt32.size s.toList).map Nat.toUInt32

/-- A number of 64 bits. -/
def word64? (s : String) : Option UInt64 := (below? UInt64.size s.toList).map Nat.toUInt64

end ControlPlane.Decimal
