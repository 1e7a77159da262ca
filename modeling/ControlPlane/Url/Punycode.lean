/-!
# Labels in ASCII

A label of a domain with characters beyond ASCII is written with ASCII letters and digits: first its ASCII characters, then
for each other character, in the order of their codes, how far to go on from the one before, as a number with digits of
varying base.
-/

namespace ControlPlane.Url.Punycode

/-- The number of digits. -/
def base : Nat := 36

/-- The first character beyond ASCII. -/
def initialCode : Nat := 128

/-- The first bias. -/
def initialBias : Nat := 72

/-- The least value for which a digit at a position is not the last of its number. -/
def threshold (position bias : Nat) : Nat := min (max (position - bias) 1) 26

theorem threshold_pos (position bias : Nat) : 1 ≤ threshold position bias := by
  unfold threshold
  omega

theorem threshold_le (position bias : Nat) : threshold position bias ≤ 26 := Nat.min_le_right _ _

/-- Divides a distance until it is small, and counts the positions. -/
def adaptLoop (delta position : Nat) : Nat :=
  if 455 < delta then adaptLoop (delta / 35) (position + base)
  else position + (base * delta) / (delta + 38)
termination_by delta
decreasing_by exact Nat.div_lt_self (by omega) (by decide)

/-- The bias after a distance, with so many characters in place. -/
def adapt (delta count : Nat) (first : Bool) : Nat :=
  let delta := if first then delta / 700 else delta / 2
  adaptLoop (delta + delta / count) 0

/-- The character of a digit: letters, then decimal digits. -/
def digitChar (d : Nat) : Char := if d < 26 then Char.ofNat (d + 97) else Char.ofNat (d - 26 + 48)

/-- The digit of a character. -/
def digit? (c : Char) : Option Nat :=
  if 'a' ≤ c ∧ c ≤ 'z' then some (c.toNat - 97)
  else if 'A' ≤ c ∧ c ≤ 'Z' then some (c.toNat - 65)
  else if '0' ≤ c ∧ c ≤ '9' then some (c.toNat - 48 + 26)
  else none

/-- A number in digits from a position on. -/
def digitsOf (q position bias : Nat) : List Char :=
  let t := threshold position bias
  if q < t then [digitChar q]
  else digitChar (t + (q - t) % (base - t)) :: digitsOf ((q - t) / (base - t)) (position + base) bias
termination_by q
decreasing_by
  have h1 := threshold_pos position bias
  have h2 := threshold_le position bias
  have : q - threshold position bias < q := by omega
  exact Nat.lt_of_le_of_lt (Nat.div_le_self _ _) this

/-- What has been written: the characters, how many are in place, the bias, and the distance gone since the last one. -/
structure Writing where
  written : List Char
  count : Nat
  bias : Nat
  delta : Nat

/-- Puts in place all characters of one code. -/
def writeCode (codes : List Nat) (basics : Nat) (w : Writing) (code : Nat) : Writing :=
  codes.foldl (fun w c =>
    if c < code then { w with delta := w.delta + 1 }
    else if c = code then
      { written := w.written ++ digitsOf w.delta base w.bias
        count := w.count + 1
        bias := adapt w.delta (w.count + 1) (w.count = basics)
        delta := 0 }
    else w) w

/-- Puts in place the characters of ever greater codes. -/
def writeCodes (codes : List Nat) (basics : Nat) : Nat → List Nat → Writing → Writing
  | _, [], w => w
  | last, code :: rest, w =>
    let w := { w with delta := w.delta + (code - last) * (w.count + 1) }
    let w := writeCode codes basics w code
    writeCodes codes basics (code + 1) rest { w with delta := w.delta + 1 }

/-- The ASCII form of a label, without the mark that tells it from a plain one. -/
def encode (label : List Char) : List Char :=
  let codes := label.map Char.toNat
  let basics := label.filter (·.toNat < initialCode)
  let others := (codes.filter (initialCode ≤ ·)).eraseDups.mergeSort
  let start := if basics.isEmpty then [] else basics ++ ['-']
  (writeCodes codes basics.length initialCode others ⟨start, basics.length, initialBias, 0⟩).written

/-- What has been read: the characters in place, the code and place reached, the bias, and the number being read with the
weight and the position of its next digit. -/
structure Reading where
  placed : List Nat
  code : Nat
  place : Nat
  bias : Nat
  number : Nat
  weight : Nat
  position : Nat

/-- The greatest code of a character. -/
def greatestCode : Nat := 0x10ffff

/-- Reads a digit. The last digit of a number puts a character in its place. A number or a weight of more than 32 bits cannot
be read. -/
def readDigit (r : Reading) (d : Nat) : Option Reading :=
  let number := r.number + d * r.weight
  let t := threshold r.position r.bias
  let weight := r.weight * (base - t)
  if UInt32.size ≤ r.place + number then none
  else if t ≤ d then
    if UInt32.size ≤ weight then none else some { r with number, weight, position := r.position + base }
  else
    let count := r.placed.length + 1
    let total := r.place + number
    let code := r.code + total / count
    let place := total % count
    if greatestCode < code then none
    else
      some
        { placed := r.placed.take place ++ code :: r.placed.drop place
          code
          place := place + 1
          bias := adapt number count (r.place = 0)
          number := 0
          weight := 1
          position := base }

/-- Reads the digits behind the ASCII characters. -/
def readDigits (r : Reading) : List Char → Option Reading
  | [] => some r
  | c :: rest => do
    let d ← digit? c
    let r ← readDigit r d
    readDigits r rest

/-- The label of an ASCII form. The last dash stands between ASCII characters and digits, if there are such characters. -/
def decode (s : List Char) : Option (List Char) := do
  let behind := (s.reverse.takeWhile (· != '-')).reverse
  let basics := s.take (s.length - behind.length - 1)
  let digits := if basics.isEmpty then s else behind
  let r ← readDigits ⟨basics.map Char.toNat, initialCode, 0, initialBias, 0, 1, base⟩ digits
  if r.weight = 1 ∧ r.position = base ∧ r.placed.all fun n => n.isValidChar then some (r.placed.map Char.ofNat) else none

end ControlPlane.Url.Punycode
