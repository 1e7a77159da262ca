import ControlPlane.Text.Split
import ControlPlane.Url.Percent

/-!
# Pairs in a query

Pairs of keys and values are written into a query with a space as plus sign, and read back from any query.
-/

namespace ControlPlane.Url.Form

/-- The octets that stand for themselves. -/
def isPlain (b : UInt8) : Bool :=
  (0x30 ≤ b && b ≤ 0x39) || (0x41 ≤ b && b ≤ 0x5a) || (0x61 ≤ b && b ≤ 0x7a) || isOneOf ['*', '-', '.', '_'] b

/-- A key or a value. -/
def encodeText (s : String) : List Char :=
  (Text.octets s).flatMap fun b =>
    if b = 0x20 then ['+'] else if isPlain b then [Char.ofNat b.toNat] else percentOctet b

/-- A pair. -/
def encodePair (pair : String × String) : List Char := encodeText pair.1 ++ '=' :: encodeText pair.2

/-- Pairs behind a query that is already there. -/
def append (query : List Char) (pairs : List (String × String)) : List Char :=
  pairs.foldl (fun q pair => (if q.isEmpty then q else q ++ ['&']) ++ encodePair pair) query

/-- A key or a value read back. -/
def decodeText (s : List UInt8) : String :=
  Text.ofOctets (percentDecode (s.map fun b => if b = 0x2b then 0x20 else b))

/-- The pair that a part stands for: its key ends at the first equals sign. -/
def decodePair (part : List UInt8) : String × String :=
  (decodeText (part.takeWhile (· != 0x3d)), decodeText ((part.dropWhile (· != 0x3d)).drop 1))

/-- The pairs of a query. Empty parts hold none. -/
def decode (query : List UInt8) : List (String × String) :=
  ((Text.split (· == 0x26) query).filter (! ·.isEmpty)).map decodePair

end ControlPlane.Url.Form
