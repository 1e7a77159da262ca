import ControlPlane.Text.Hex
import ControlPlane.Text.Visible

/-!
# Quoted text

A text as it is shown in a message: between quotes, with everything escaped that would not be seen.
-/

namespace ControlPlane.Text

/-- A character as it is shown between quotes. What is not seen is written as its code, in hexadecimal digits between
braces. -/
def shownChar (c : Char) : List Char :=
  match c with
  | '"' => ['\\', '"']
  | '\\' => ['\\', '\\']
  | '\x00' => ['\\', '0']
  | '\t' => ['\\', 't']
  | '\n' => ['\\', 'n']
  | '\r' => ['\\', 'r']
  | c => if isVisible c then [c] else ['\\', 'u', '\x7b'] ++ Nat.toDigits 16 c.toNat ++ ['\x7d']

/-- A text between quotes, as it is shown. -/
def quoted (s : String) : String := String.ofList ('"' :: s.toList.flatMap shownChar ++ ['"'])

end ControlPlane.Text
