/-!
# The shortest decimal of a double

A finite double stands for every real number that rounds to it. `shortest` gives the decimal with the fewest digits among
those, and of two with equally many digits the nearer one; in an exact tie the even one. All of it is exact arithmetic on
natural numbers.
-/

namespace ControlPlane

/-- The decimal `digits * 10 ^ exponent`. -/
structure Decimal where
  digits : Nat
  exponent : Int
deriving DecidableEq, Repr

namespace Decimal

/-- A positive number as a fraction, with the two ends of the numbers that round to it. All three are over `4 * den`. -/
structure Rounding where
  low : Nat
  value : Nat
  high : Nat
  den : Nat
  /-- Whether the two ends round to the number as well. -/
  ends : Bool

/-- The numbers that round to `m * 2 ^ q`. Below a power of two the doubles lie twice as close. -/
def Rounding.ofBinary (m : Nat) (q : Int) (closeBelow : Bool) : Rounding :=
  let scale := Nat.pow 2 q.toNat
  { low := (4 * m - if closeBelow then 1 else 2) * scale
    value := 4 * m * scale
    high := (4 * m + 2) * scale
    den := 4 * Nat.pow 2 (-q).toNat
    ends := m % 2 == 0 }

/-- Whether `n / den` lies between the ends. -/
def Rounding.holds (r : Rounding) (n : Nat) : Bool :=
  if r.ends then r.low ≤ n && n ≤ r.high else r.low < n && n < r.high

/-- The exponent of the first digit of `num / den`, both positive. -/
def leadingExponent (num den : Nat) : Int :=
  if den ≤ num then ((Nat.toDigits 10 (num / den)).length : Int) - 1
  else -(((List.range 400).find? fun k => den ≤ num * Nat.pow 10 k).getD 400 : Nat)

/-- The best decimal with a last digit at `10 ^ e`, if one rounds to the number. -/
def Rounding.onGrid (r : Rounding) (e : Int) : Option Decimal :=
  -- all numbers are counted in units of `10 ^ e`
  let up := Nat.pow 10 (-e).toNat
  let unit := r.den * Nat.pow 10 e.toNat
  let below := r.value * up / unit
  let scaled : Rounding := { r with low := r.low * up, value := r.value * up, high := r.high * up }
  let fitsBelow := scaled.holds (below * unit)
  let fitsAbove := scaled.holds ((below + 1) * unit)
  let distBelow := r.value * up - below * unit
  let distAbove := (below + 1) * unit - r.value * up
  let preferBelow := distBelow < distAbove || (distBelow == distAbove && below % 2 == 0)
  if fitsBelow && (preferBelow || !fitsAbove) then some ⟨below, e⟩
  else if fitsAbove then some ⟨below + 1, e⟩
  else none

/-- The decimal without the zeros at its end. -/
def trimmed (d : Decimal) : Decimal :=
  let digits := Nat.toDigits 10 d.digits
  let zeros := (digits.reverse.takeWhile (· == '0')).length
  if d.digits = 0 then d else ⟨d.digits / Nat.pow 10 zeros, d.exponent + zeros⟩

/-- The shortest decimal that rounds to the number: seventeen digits always suffice. -/
def Rounding.shortest (r : Rounding) : Decimal :=
  let lead := leadingExponent r.value r.den
  ((List.range 17).findSome? fun n : Nat => r.onGrid (lead - n)).elim ⟨0, 0⟩ trimmed

/-- The digits of a decimal, the first first. -/
def digitList (d : Decimal) : List Char := Nat.toDigits 10 d.digits

/-- The exponent of the first digit. -/
def lead (d : Decimal) : Int := d.exponent + d.digitList.length - 1

end Decimal

end ControlPlane
