/-!
# Characters as octets

`encode` writes characters in UTF-8. `decode` reads any octets: each longest start of a character that comes to nothing is
read as one replacement character.
-/

namespace ControlPlane.Text

/-- Characters in UTF-8. -/
def encode (s : List Char) : List UInt8 := s.flatMap String.utf8EncodeChar

/-- The octets of a text. -/
def octets (s : String) : List UInt8 := encode s.toList

/-- The character read for octets that stand for none. -/
def replacement : Char := '\ufffd'

/-- The octet that may follow as second one, after a first octet of a longer character. -/
def secondRange (first : UInt8) : UInt8 × UInt8 :=
  if first = 0xe0 then (0xa0, 0xbf)
  else if first = 0xed then (0x80, 0x9f)
  else if first = 0xf0 then (0x90, 0xbf)
  else if first = 0xf4 then (0x80, 0x8f)
  else (0x80, 0xbf)

/-- How many octets follow the first octet of a character, and its share of the character. Some octets begin none. -/
def lead? (first : UInt8) : Option (Nat × Nat) :=
  if first < 0x80 then some (0, first.toNat)
  else if 0xc2 ≤ first && first ≤ 0xdf then some (1, first.toNat - 0xc0)
  else if 0xe0 ≤ first && first ≤ 0xef then some (2, first.toNat - 0xe0)
  else if 0xf0 ≤ first && first ≤ 0xf4 then some (3, first.toNat - 0xf0)
  else none

/-- Reads the last octets of a character, so many, with the share of those read so far. -/
def decodeTail : Nat → Nat → UInt8 × UInt8 → List UInt8 → Char × List UInt8
  | 0, code, _, rest => (Char.ofNat code, rest)
  | _ + 1, _, _, [] => (replacement, [])
  | n + 1, code, (low, high), b :: rest =>
    if low ≤ b && b ≤ high then decodeTail n (code * 64 + (b.toNat - 0x80)) (0x80, 0xbf) rest
    else (replacement, b :: rest)

theorem length_decodeTail_le (n code : Nat) (range : UInt8 × UInt8) (s : List UInt8) :
    (decodeTail n code range s).2.length ≤ s.length := by
  induction n generalizing code range s with
  | zero => exact Nat.le_refl _
  | succ n ih =>
    cases s with
    | nil => exact Nat.le_refl _
    | cons b rest =>
      simp only [decodeTail]
      split
      · exact Nat.le_succ_of_le (ih _ _ _)
      · exact Nat.le_refl _

/-- Reads characters from octets. -/
def decode : List UInt8 → List Char
  | [] => []
  | b :: rest =>
    match lead? b with
    | none => replacement :: decode rest
    | some (n, code) =>
      let r := decodeTail n code (secondRange b) rest
      r.1 :: decode r.2
termination_by s => s.length
decreasing_by
  · exact Nat.lt_succ_self _
  · exact Nat.lt_succ_of_le (length_decodeTail_le _ _ _ _)

/-- The text of any octets. -/
def ofOctets (s : List UInt8) : String := String.ofList (decode s)

/-- The text of octets that are UTF-8. -/
def ofUtf8? (s : List UInt8) : Option String := String.fromUTF8? ⟨s.toArray⟩

end ControlPlane.Text
