/-!
# What can be wrong with a JSON text

The kinds of fault that reading a JSON text can meet, and the place where one was met. A text that ended too early is told
apart from one that is wrong.
-/

namespace ControlPlane.Json

/-- The kinds of fault in a JSON text. -/
inductive FaultKind where
  | endInList | endInObject | endInText | endInValue
  | expectedColon | expectedListCommaOrEnd | expectedObjectCommaOrEnd | expectedWord | expectedValue
  | invalidEscape | invalidNumber | numberOutOfRange | invalidUnicode | controlCharacter
  | keyMustBeText | loneSurrogate | trailingComma | trailingCharacters | endOfHexEscape | tooDeep
deriving DecidableEq, Repr

namespace FaultKind

/-- The words for a kind of fault. -/
def text : FaultKind → String
  | endInList => "EOF while parsing a list"
  | endInObject => "EOF while parsing an object"
  | endInText => "EOF while parsing a string"
  | endInValue => "EOF while parsing a value"
  | expectedColon => "expected `:`"
  | expectedListCommaOrEnd => "expected `,` or `]`"
  | expectedObjectCommaOrEnd => "expected `,` or `\x7d`"
  | expectedWord => "expected ident"
  | expectedValue => "expected value"
  | invalidEscape => "invalid escape"
  | invalidNumber => "invalid number"
  | numberOutOfRange => "number out of range"
  | invalidUnicode => "invalid unicode code point"
  | controlCharacter => "control character (\\u0000-\\u001F) found while parsing a string"
  | keyMustBeText => "key must be a string"
  | loneSurrogate => "lone leading surrogate in hex escape"
  | trailingComma => "trailing comma"
  | trailingCharacters => "trailing characters"
  | endOfHexEscape => "unexpected end of hex escape"
  | tooDeep => "recursion limit exceeded"

/-- Whether the text ended before the value did. -/
def isEnd : FaultKind → Bool
  | endInList | endInObject | endInText | endInValue => true
  | _ => false

end FaultKind

/-- A fault at a place of the text: lines count from one, columns count the octets before the place in its line. -/
structure Fault where
  kind : FaultKind
  line : Nat
  column : Nat
deriving DecidableEq, Repr

/-- The words for a fault and its place. -/
def Fault.message (f : Fault) : String :=
  f.kind.text ++ " at line " ++ toString f.line ++ " column " ++ toString f.column

end ControlPlane.Json
