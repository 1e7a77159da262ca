/-!
# Lengths of time

A length of time is a number of nanoseconds whose whole seconds fit in 64 bits. It is held as one natural number, so that
doubling, comparing and rounding are the operations of `Nat`; seconds and the rest below a second are read off it.
-/

namespace ControlPlane

/-- A length of time: a whole number of nanoseconds, less than `2 ^ 64` seconds. -/
structure Duration where
  nanos : Nat
  nanos_lt : nanos < 0x10000000000000000 * 1000000000
deriving DecidableEq, Repr

namespace Duration

/-- The number of nanoseconds in a second. -/
def perSecond : Nat := 1000000000

/-- The number of nanoseconds in a millisecond. -/
def perMilli : Nat := 1000000

@[ext] theorem ext {a b : Duration} (h : a.nanos = b.nanos) : a = b := by
  cases a; cases b; cases h; rfl

/-- No time at all. -/
def zero : Duration := ⟨0, by decide⟩

/-- The longest length of time. -/
def longest : Duration := ⟨0x10000000000000000 * 1000000000 - 1, by decide⟩

instance : Inhabited Duration := ⟨zero⟩

/-- A number of nanoseconds, cut to the longest length of time. -/
def clamp (n : Nat) : Duration := ⟨min n longest.nanos, by
  have : longest.nanos < 0x10000000000000000 * 1000000000 := longest.nanos_lt
  omega⟩

/-- A whole number of seconds. -/
def ofSecs (s : UInt64) : Duration := ⟨s.toNat * 1000000000, by
  have := s.toNat_lt
  omega⟩

/-- A whole number of milliseconds. -/
def ofMillis (m : UInt64) : Duration := ⟨m.toNat * 1000000, by
  have := m.toNat_lt
  omega⟩

/-- Seconds and nanoseconds together. Nanoseconds beyond a second carry into the seconds; a sum that leaves the range is
no length of time. -/
def ofParts? (secs : UInt64) (nanos : UInt32) : Option Duration :=
  if h : secs.toNat * 1000000000 + nanos.toNat < 0x10000000000000000 * 1000000000 then some ⟨_, h⟩ else none

/-- The whole seconds. -/
def secs (d : Duration) : Nat := d.nanos / perSecond

/-- The nanoseconds beyond the whole seconds. -/
def subsecNanos (d : Duration) : Nat := d.nanos % perSecond

/-- Twice as long, or the longest length of time where that is less. -/
def double (d : Duration) : Duration := clamp (2 * d.nanos)

/-- The shorter of two. -/
def shorter (a b : Duration) : Duration := if a.nanos ≤ b.nanos then a else b

/-- The whole milliseconds needed to cover a number of nanoseconds. -/
def ceilMillis (nanos : Nat) : Nat := (nanos + (perMilli - 1)) / perMilli

/-! ## Text

A length of time is written in the largest of the units s, ms, µs and ns of which it holds at least one (0 is written in
ns), with as many decimals as it needs. -/

/-- The decimals of `rest / 10 ^ places`, without the zeros at their end. -/
def decimals (rest places : Nat) : String :=
  let digits := (List.range places).map fun i => Nat.digitChar (rest / Nat.pow 10 (places - 1 - i) % 10)
  match (digits.reverse.dropWhile (· == '0')).reverse with
  | [] => ""
  | shown => "." ++ String.ofList shown

/-- A number of nanoseconds in units of `10 ^ places` nanoseconds. -/
def inUnit (nanos places : Nat) (unit : String) : String :=
  toString (nanos / Nat.pow 10 places) ++ decimals (nanos % Nat.pow 10 places) places ++ unit

/-- The text of a length of time, such as `2.5s`, `50ms`, `1.5µs` or `0ns`. -/
def text (d : Duration) : String :=
  if 1000000000 ≤ d.nanos then inUnit d.nanos 9 "s"
  else if 1000000 ≤ d.nanos then inUnit d.nanos 6 "ms"
  else if 1000 ≤ d.nanos then inUnit d.nanos 3 "µs"
  else inUnit d.nanos 0 "ns"

end Duration

end ControlPlane
