import ControlPlane.Text.Hex
import ControlPlane.Text.Utf8

/-!
# Percent encoding

An octet that may not stand for itself is written as a percent sign and two hexadecimal digits. Which octets those are
depends on the part of an address that they stand in.
-/

namespace ControlPlane.Url

/-- An octet as a percent sign and two digits. -/
def percentOctet (b : UInt8) : List Char :=
  ['%', (Text.Hex.digit (b.toNat / 16)).toUpper, (Text.Hex.digit (b.toNat % 16)).toUpper]

/-- Octets, those of a set in percent form. -/
def percentEncode (escaped : UInt8 → Bool) (s : List UInt8) : List Char :=
  s.flatMap fun b => if escaped b then percentOctet b else [Char.ofNat b.toNat]

/-- Octets with the percent forms read back. A percent sign without two digits stands for itself. -/
def percentDecode : List UInt8 → List UInt8
  | 0x25 :: h :: l :: rest =>
    match Text.Hex.octetValue? h, Text.Hex.octetValue? l with
    | some high, some low => (high * 16 + low).toUInt8 :: percentDecode rest
    | _, _ => 0x25 :: percentDecode (h :: l :: rest)
  | b :: rest => b :: percentDecode rest
  | [] => []

/-! ## The sets -/

/-- Whether an octet is one of some ASCII characters. -/
def isOneOf (chars : List Char) (b : UInt8) : Bool := chars.any (·.toNat == b.toNat)

/-- Control characters and all octets beyond ASCII. -/
def inControls (b : UInt8) : Bool := b < 0x20 || 0x7e < b

/-- The set for fragments. -/
def inFragment (b : UInt8) : Bool := inControls b || isOneOf [' ', '"', '<', '>', '\x60'] b

/-- The set for queries. -/
def inQuery (b : UInt8) : Bool := inControls b || isOneOf [' ', '"', '#', '<', '>'] b

/-- The set for queries of addresses with a special scheme. -/
def inSpecialQuery (b : UInt8) : Bool := inQuery b || b == 0x27

/-- The set for paths. -/
def inPath (b : UInt8) : Bool := inFragment b || isOneOf ['#', '?', '\x7b', '\x7d'] b

/-- The set for user names and passwords. -/
def inUserInfo (b : UInt8) : Bool :=
  inPath b || isOneOf ['/', ':', ';', '=', '@', '[', '\\', ']', '^', '|'] b

/-- The octets that a segment of a path made from any text leaves as they are: letters, digits and four marks. -/
def isUnreserved (b : UInt8) : Bool :=
  (0x30 ≤ b && b ≤ 0x39) || (0x41 ≤ b && b ≤ 0x5a) || (0x61 ≤ b && b ≤ 0x7a) || isOneOf ['-', '_', '.', '~'] b

/-- Any text as a segment of a path. -/
def segmentText (s : String) : String := String.ofList (percentEncode (!isUnreserved ·) (Text.octets s))

end ControlPlane.Url
