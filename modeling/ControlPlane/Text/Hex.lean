/-!
# Hexadecimal digits

The values from ten to fifteen are letters. They are written small and read in either case; every digit is read as the value
for which it is written.
-/

namespace ControlPlane.Text.Hex

/-- The digit for a value less than sixteen. -/
def digit (n : Nat) : Char := Nat.digitChar n

/-- The value of a digit. -/
def value? (c : Char) : Option Nat :=
  if c.isDigit then some (c.toNat - 48)
  else if 'a' ≤ c ∧ c ≤ 'f' then some (c.toNat - 87)
  else if 'A' ≤ c ∧ c ≤ 'F' then some (c.toNat - 55)
  else none

/-- The value of a digit that is given as an octet. -/
def octetValue? (b : UInt8) : Option Nat := value? (Char.ofNat b.toNat)

theorem value?_digit : ∀ n < 16, value? (digit n) = some n := by decide

theorem value?_toUpper_digit : ∀ n < 16, value? (digit n).toUpper = some n := by decide

end ControlPlane.Text.Hex
