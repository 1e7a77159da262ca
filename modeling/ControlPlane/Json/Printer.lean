import ControlPlane.Json.Value
import ControlPlane.Text.Hex

/-!
# Writing JSON

`Json.compact` writes a value without blanks, `Json.pretty` with a line for each item and each member. Both write the same
tokens: texts escape quotes, backslashes and control characters only, and a double is written with the fewest digits that
read back.
-/

namespace ControlPlane.Json

/-! ## Numbers -/

/-- The least and the greatest exponent of a first digit for which a double is written without an exponent. -/
def positionalExponents : Int × Int := (-5, 15)

/-- A decimal with its point in place, or with an exponent. -/
def decimalText (d : Decimal) : List Char :=
  let digits := d.digitList
  let lead := d.lead
  if lead < positionalExponents.1 ∨ positionalExponents.2 < lead then
    let fraction := match digits.drop 1 with
      | [] => []
      | rest => '.' :: rest
    digits.take 1 ++ fraction ++ ['e', if lead < 0 then '-' else '+'] ++ Nat.toDigits 10 lead.natAbs
  else if lead < 0 then
    ['0', '.'] ++ List.replicate (lead.natAbs - 1) '0' ++ digits
  else
    let whole := lead.toNat + 1
    let filled := digits ++ List.replicate (whole - digits.length) '0'
    let fraction := match filled.drop whole with
      | [] => ['0']
      | rest => rest
    filled.take whole ++ '.' :: fraction

/-- The shortest decimal of the magnitude of a finite double that is not zero. -/
def magnitude (x : Float) : Decimal :=
  let bits : Nat := x.toBits.toNat
  let exponent : Nat := bits / 0x10000000000000 % 0x800
  let fraction : Nat := bits % 0x10000000000000
  let r : Decimal.Rounding :=
    if exponent = 0 then .ofBinary fraction (-1074) false
    else .ofBinary (0x10000000000000 + fraction) ((exponent : Int) - 1075) (fraction = 0 && 1 < exponent)
  r.shortest

/-- The text of a double. -/
def doubleText (x : Float) : String :=
  let sign := if x.toBits.toNat / 0x8000000000000000 = 1 then ['-'] else []
  let digits := if x == 0.0 then ['0', '.', '0'] else decimalText (magnitude x)
  String.ofList (sign ++ digits)

/-- The text of a number. -/
def Number.toText : Number → String
  | .integer n => toString n
  | .double x => doubleText x

/-! ## Texts -/

/-- A character inside a text. -/
def escapeChar (c : Char) : List Char :=
  match c with
  | '"' => ['\\', '"']
  | '\\' => ['\\', '\\']
  | '\n' => ['\\', 'n']
  | '\r' => ['\\', 'r']
  | '\t' => ['\\', 't']
  | '\x08' => ['\\', 'b']
  | '\x0c' => ['\\', 'f']
  | c => if c.toNat < 0x20 then ['\\', 'u', '0', '0', Text.Hex.digit (c.toNat / 16), Text.Hex.digit (c.toNat % 16)] else [c]

/-- A text between quotes. -/
def quoted (s : String) : String := String.ofList ('"' :: s.toList.flatMap escapeChar ++ ['"'])

/-! ## Values -/

mutual

/-- A value without blanks. -/
def compact : Json → String
  | .null => "null"
  | .bool true => "true"
  | .bool false => "false"
  | .number n => n.toText
  | .text s => quoted s
  | .array items => "[" ++ compactItems items ++ "]"
  | .object members => "\x7b" ++ compactMembers members ++ "\x7d"

/-- Items with commas between them. -/
def compactItems : List Json → String
  | [] => ""
  | [v] => v.compact
  | v :: w :: rest => v.compact ++ "," ++ compactItems (w :: rest)

/-- Members with commas between them. -/
def compactMembers : List (String × Json) → String
  | [] => ""
  | [(name, v)] => quoted name ++ ":" ++ v.compact
  | (name, v) :: w :: rest => quoted name ++ ":" ++ v.compact ++ "," ++ compactMembers (w :: rest)

end

/-- The start of a line at a depth. -/
def indent (depth : Nat) : String := "\n" ++ String.ofList (List.replicate (2 * depth) ' ')

mutual

/-- A value with a line for each item and member, at a depth. -/
def prettyAt (depth : Nat) : Json → String
  | .array [] => "[]"
  | .object [] => "\x7b\x7d"
  | .array (v :: rest) => "[" ++ prettyItems (depth + 1) (v :: rest) ++ indent depth ++ "]"
  | .object (m :: rest) => "\x7b" ++ prettyMembers (depth + 1) (m :: rest) ++ indent depth ++ "\x7d"
  | .null => "null"
  | .bool true => "true"
  | .bool false => "false"
  | .number n => n.toText
  | .text s => quoted s

/-- Items, each on its line. -/
def prettyItems (depth : Nat) : List Json → String
  | [] => ""
  | [v] => indent depth ++ v.prettyAt depth
  | v :: w :: rest => indent depth ++ v.prettyAt depth ++ "," ++ prettyItems depth (w :: rest)

/-- Members, each on its line. -/
def prettyMembers (depth : Nat) : List (String × Json) → String
  | [] => ""
  | [(name, v)] => indent depth ++ quoted name ++ ": " ++ v.prettyAt depth
  | (name, v) :: w :: rest =>
    indent depth ++ quoted name ++ ": " ++ v.prettyAt depth ++ "," ++ prettyMembers depth (w :: rest)

end

/-- A value with a line for each item and member. -/
def pretty (v : Json) : String := v.prettyAt 0

end ControlPlane.Json
