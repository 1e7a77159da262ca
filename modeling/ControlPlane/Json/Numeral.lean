import ControlPlane.Json.Fault
import ControlPlane.Json.Value

/-!
# Numbers in a JSON text

A numeral is split into its parts, and the parts are given a value. A whole number that fits in 64 bits is itself. Any other
number is a double, computed from the leading digits that fit in 64 bits and a power of ten; the digits after those count
only for the power.
-/

namespace ControlPlane.Json

/-- A fault, and the number of octets of the text that lie behind its place. -/
structure Mark where
  kind : FaultKind
  left : Nat
deriving DecidableEq, Repr

/-- The octets of a JSON text. -/
abbrev Octets := List UInt8

/-- The digit that an octet stands for. -/
def digit? (b : UInt8) : Option Nat := if 0x30 ≤ b && b ≤ 0x39 then some (b.toNat - 0x30) else none

/-- The digits at the start of a text. -/
def digits : Octets → List Nat
  | [] => []
  | b :: rest =>
    match digit? b with
    | some d => d :: digits rest
    | none => []

/-- The text after the digits at its start. -/
def afterDigits : Octets → Octets
  | [] => []
  | b :: rest => if (digit? b).isSome then afterDigits rest else b :: rest

theorem length_afterDigits_le (s : Octets) : (afterDigits s).length ≤ s.length := by
  induction s with
  | nil => exact Nat.le_refl _
  | cons b rest ih =>
    simp only [afterDigits]
    split
    · exact Nat.le_succ_of_le ih
    · exact Nat.le_refl _

/-- A numeral in its parts. -/
structure Numeral where
  negative : Bool
  whole : List Nat
  fraction : List Nat
  /-- Whether the exponent is negative, and its digits. -/
  exponent : Option (Bool × List Nat)
deriving DecidableEq, Repr

namespace Numeral

/-- Whether another digit still fits in 64 bits. -/
def fits (significand digit : Nat) : Bool := significand * 10 + digit < UInt64.size

/-- The leading digits of the whole part that fit, and the number of digits after them. -/
def leading : Nat → List Nat → Nat × Nat
  | acc, [] => (acc, 0)
  | acc, d :: rest => if fits acc d then leading (acc * 10 + d) rest else (acc, rest.length + 1)

/-- The significand with the digits of the fraction that fit, and the number of those digits. -/
def continuing : Nat → List Nat → Nat × Nat
  | acc, [] => (acc, 0)
  | acc, d :: rest =>
    if fits acc d then
      let (value, count) := continuing (acc * 10 + d) rest
      (value, count + 1)
    else (acc, 0)

/-- The greatest exponent that is counted. -/
def exponentLimit : Nat := 0x7fffffff

/-- The value of the digits of an exponent, or the number of digits that follow the one with which it grows too great. -/
def exponentValue : Nat → List Nat → Except Nat Nat
  | acc, [] => .ok acc
  | acc, d :: rest => if acc * 10 + d ≤ exponentLimit then exponentValue (acc * 10 + d) rest else .error rest.length

/-- A double with a sign. -/
def signed (negative : Bool) (x : Float) : Float := if negative then -x else x

/-- The doubles nearest to the powers of ten up to `10 ^ 308`. -/
def tenPower (n : Nat) : Float := Float.ofScientific 1 false n

/-- The greatest power of ten that is a double. -/
def greatestTenPower : Nat := 308

/-- Divides by powers of ten until the exponent is used up or nothing is left. -/
def shrink (x : Float) (n : Nat) : Float :=
  if n ≤ greatestTenPower then x / tenPower n
  else if x == 0.0 then x
  else shrink (x / tenPower greatestTenPower) (n - greatestTenPower)
termination_by n
decreasing_by simp_all [greatestTenPower]; omega

/-- The double of a significand and a power of ten, unless it is too great. -/
def scaled (significand : Nat) (exponent : Int) : Option Float :=
  let x := significand.toUInt64.toFloat
  if exponent < 0 then some (shrink x exponent.natAbs)
  else if exponent.toNat ≤ greatestTenPower then
    let y := x * tenPower exponent.toNat
    if y.isInf then none else some y
  else if x == 0.0 then some x
  else none

/-- The value of a numeral, or the number of its digits that need not be read to see that it is too great. -/
def value (n : Numeral) : Except Nat Number :=
  let (lead, dropped) := leading 0 n.whole
  if n.fraction = [] ∧ n.exponent = none ∧ dropped = 0 then
    if n.negative then
      if lead = 0 ∨ 0x8000000000000000 < lead then .ok (.double (-lead.toUInt64.toFloat)) else .ok (.integer (-lead))
    else .ok (.integer lead)
  else
    let (significand, shift) := continuing lead n.fraction
    let start : Int := dropped - shift
    match n.exponent with
    | none => finish significand start
    | some (below, ds) =>
      match exponentValue 0 ds with
      | .ok e => finish significand (if below then start - e else start + e)
      | .error unread => if significand ≠ 0 ∧ !below then .error unread else .ok (.double (signed n.negative 0.0))
where
  /-- The number of a significand and a power of ten. -/
  finish (significand : Nat) (exponent : Int) : Except Nat Number :=
    match scaled significand exponent with
    | some x => .ok (.double (signed n.negative x))
    | none => .error 0

end Numeral

end ControlPlane.Json
