import ControlPlane.Text.Composed
import ControlPlane.Text.Utf8
import ControlPlane.Url.Domain.Character
import ControlPlane.Url.Domain.Direction
import ControlPlane.Url.Domain.Joining
import ControlPlane.Url.Punycode

/-!
# Domains in ASCII

A domain may be given in any script. Its characters are brought to their forms, the text is composed, and each label with
characters beyond ASCII is then written in ASCII. A label that comes in ASCII form must stand for a label that would be
written so.
-/

namespace ControlPlane.Url

namespace Domain

/-- The ASCII characters that no domain holds. -/
def isForbidden (c : Char) : Bool :=
  c.toNat ≤ 0x20 || c.toNat == 0x7f || "%#/:<>?@[\\]^|".toList.contains c

/-- Whether all characters of a text are ASCII. -/
def isAscii (s : List Char) : Bool := s.all (·.toNat < 0x80)

/-- A label: its characters, and how it is written in ASCII. -/
structure Label where
  letters : List Char
  ascii : List Char

namespace Label

/-- The mark of a label in ASCII form. -/
def asciiMark : List Char := ['x', 'n', '-', '-']

/-- The length of the longest label that is written in ASCII form, and of the longest ASCII form that is read. -/
def longest : Nat × Nat := (1000, 2000)

/-- Whether characters make a label: no mark comes first, and joiners have their places. -/
def isSound (letters : List Char) : Bool := !letters.head?.any Text.isMark && joinersFit [] letters

/-- The label in an ASCII form. -/
def ofAsciiForm? (s : List Char) : Option Label := do
  let behind := s.drop asciiMark.length
  if longest.2 < behind.length then none
  let letters ← Punycode.decode behind
  if isAscii s && !isAscii letters && letters.all isForm && Text.composed letters == letters && isSound letters then
    some ⟨letters, s⟩
  else none

/-- The label of composed text. -/
def of? (s : List Char) : Option Label :=
  if asciiMark.isPrefixOf s then ofAsciiForm? s
  else if isAscii s then some ⟨s, s⟩
  else if s.length ≤ longest.1 && isSound s then some ⟨s, asciiMark ++ Punycode.encode s⟩
  else none

/-- The directions of the characters. -/
def directions (l : Label) : List Direction := l.letters.map direction

end Label

/-- Whether labels may stand in one domain: where directions matter, each is read in one way. The directions of ASCII
characters do not matter. -/
def agree (labels : List Label) : Bool :=
  labels.all (isAscii ·.letters) || !labels.any (·.directions.any (·.matters)) || labels.all (inOneWay ·.directions)

/-- A domain in ASCII, from octets that must be UTF-8. -/
def toAscii? (octets : List UInt8) : Option (List Char) := do
  let s ← Text.ofUtf8? octets
  let forms ← s.toList.mapM form?
  let labels ← (Text.split (· == '.') (Text.composed forms.flatten)).mapM Label.of?
  let domain := ['.'].intercalate (labels.map (·.ascii))
  if agree labels && !domain.any isForbidden then some domain else none

end Domain

end ControlPlane.Url
