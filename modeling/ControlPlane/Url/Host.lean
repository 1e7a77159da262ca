import ControlPlane.Decimal.Word
import ControlPlane.Url.Domain
import ControlPlane.Url.Fault
import ControlPlane.Url.Percent

/-!
# Hosts

The host of an address is a name or a number. Names of addresses with a special scheme are domains; numbers are written
in the forms of version 4 or, between brackets, of version 6.
-/

namespace ControlPlane.Url

/-- A host. The name may be empty. -/
inductive Host where
  | name (s : String)
  | ipv4 (number : Nat)
  | ipv6 (pieces : List Nat)
deriving DecidableEq, Repr

namespace Host

/-! ## Version 4 -/

/-- The number of a part, unless it is none. A part that is too great for 32 bits has no value. -/
def ipv4Part (s : List Char) : Option (Option Nat) :=
  let value (radix : Nat) (digits : List Char) : Option (Option Nat) :=
    if digits.all fun c => (Punycode.digit? c).elim false fun d => (if 26 ≤ d then d - 26 else d + 10) < radix then
      let n := digits.foldl (fun n c => n * radix + (Punycode.digit? c).elim 0 fun d => if 26 ≤ d then d - 26 else d + 10) 0
      some (if n < UInt32.size then some n else none)
    else none
  match s with
  | [] => none
  | '0' :: 'x' :: digits | '0' :: 'X' :: digits => value 16 digits
  | '0' :: d :: digits => value 8 (d :: digits)
  | digits => value 10 digits

/-- The parts between dots, without an empty last one. -/
def ipv4Parts (s : List Char) : List (List Char) :=
  let parts := Text.split (· == '.') s
  if parts.length ≠ 1 ∧ parts.getLast? = some [] then parts.dropLast else parts

/-- Whether the last part of a domain is a number, so that the whole must be one. -/
def endsInNumber (s : List Char) : Bool :=
  match (ipv4Parts s).getLast? with
  | none => false
  | some last => (!last.isEmpty && last.all Char.isDigit) || (ipv4Part last).isSome

/-- The number of a version 4 address. -/
def ipv4? (s : List Char) : Option Nat := do
  let parts := ipv4Parts s
  if 4 < parts.length then none
  let numbers ← parts.mapM fun p => (ipv4Part p).join
  let last ← numbers.getLast?
  let before := numbers.dropLast
  if before.any (255 < ·) || Nat.pow 256 (4 - before.length) ≤ last then none
  else some (before.zipIdx.foldl (fun sum (n, i) => sum + n * Nat.pow 256 (3 - i)) last)

/-- The text of a version 4 address. -/
def ipv4Text (n : Nat) : String :=
  ".".intercalate ([3, 2, 1, 0].map fun i => toString (n / Nat.pow 256 i % 256))

/-! ## Version 6 -/

/-- The value of one to four hexadecimal digits. -/
def piece? (s : List Char) : Option Nat := do
  if s.isEmpty || 4 < s.length then none
  let ds ← s.mapM Text.Hex.value?
  some (ds.foldl (fun n d => n * 16 + d) 0)

/-- The value of a decimal part of an address: at most 255, without a zero before it. -/
def decimalPart? (s : List Char) : Option Nat := do
  if s.isEmpty || 3 < s.length || !s.all Char.isDigit || (1 < s.length && s.head? == some '0') then none
  let n := Decimal.ofDigits s
  if n ≤ 255 then some n else none

/-- The two pieces of a version 4 address at the end of one of version 6. -/
def embedded? (s : List Char) : Option (List Nat) := do
  match ← (Text.split (· == '.') s).mapM decimalPart? with
  | [a, b, c, d] => some [a * 256 + b, c * 256 + d]
  | _ => none

/-- The pieces between colons. Only the last may be a version 4 address. -/
def pieces? (lastMayBeIpv4 : Bool) (s : List Char) : Option (List Nat) :=
  if s.isEmpty then some []
  else
    let rec go : List (List Char) → Option (List Nat)
      | [] => some []
      | [p] => if lastMayBeIpv4 && p.contains '.' then embedded? p else (piece? p).map ([·])
      | p :: rest => do
        let n ← piece? p
        let ns ← go rest
        some (n :: ns)
    go (Text.split (· == ':') s)

/-- The text before and after the first two colons in a row. -/
def splitGap : List Char → Option (List Char × List Char)
  | ':' :: ':' :: rest => some ([], rest)
  | c :: rest => (splitGap rest).map fun (before, after) => (c :: before, after)
  | [] => none

/-- The pieces of a version 6 address. Two colons in a row stand for the zeros that are missing. -/
def ipv6? (s : List Char) : Option (List Nat) := do
  match splitGap s with
  | none => do
    let ns ← pieces? true s
    if ns.length = 8 then some ns else none
  | some (before, after) => do
    let first ← pieces? false before
    let last ← pieces? true after
    if first.length + last.length < 8 then
      some (first ++ List.replicate (8 - first.length - last.length) 0 ++ last)
    else none

/-- A number in hexadecimal digits. -/
def hexText (n : Nat) : String := String.ofList (Nat.toDigits 16 n)

/-- The place and the length of the first longest run of zeros. -/
def zeroRun (pieces : List Nat) : Nat × Nat :=
  (List.range pieces.length).foldl (fun best i =>
    let length := ((pieces.drop i).takeWhile (· == 0)).length
    if best.2 < length then (i, length) else best) (0, 0)

/-- The text of a version 6 address: two zeros or more in a row, the most and the first, become two colons. -/
def ipv6Text (pieces : List Nat) : String :=
  let (start, length) := zeroRun pieces
  let shown (ps : List Nat) : String := ":".intercalate (ps.map hexText)
  if length < 2 then shown pieces
  else shown (pieces.take start) ++ "::" ++ shown (pieces.drop (start + length))

/-! ## Hosts -/

/-- The text of a host. -/
def text : Host → String
  | name s => s
  | ipv4 n => ipv4Text n
  | ipv6 ps => "[" ++ ipv6Text ps ++ "]"

/-- A version 6 address behind its bracket. -/
def bracketed (rest : List Char) : Except Fault Host :=
  match rest.getLast?, ipv6? rest.dropLast with
  | some ']', some ps => .ok (.ipv6 ps)
  | _, _ => .error .invalidIpv6

/-- The host of an address with a special scheme. -/
def ofSpecial (s : List Char) : Except Fault Host :=
  match s with
  | '[' :: rest => bracketed rest
  | s =>
    match Domain.toAscii? (percentDecode (Text.encode s)) with
    | none => .error .invalidDomain
    | some [] => .error .emptyHost
    | some domain =>
      if endsInNumber domain then
        match ipv4? domain with
        | some n => .ok (.ipv4 n)
        | none => .error .invalidIpv4
      else .ok (.name (String.ofList domain))

/-- Characters that stand in no host. -/
def isForbidden (c : Char) : Bool := "\x00\t\n\r #/:<>?@[\\]^|".toList.contains c

/-- The host of an address with any other scheme. -/
def ofOther (s : List Char) : Except Fault Host :=
  match s with
  | '[' :: rest => bracketed rest
  | s =>
    if s.any isForbidden then .error .invalidDomainCharacter
    else .ok (.name (String.ofList (percentEncode inControls (Text.encode s))))

end Host

end ControlPlane.Url
