import ControlPlane.Json.Numeral
import ControlPlane.Text.Hex

/-!
# Texts in a JSON text

What stands between two quotes is read in two ways. `readText` gives the text that it stands for and insists on escapes that
name characters; `skipText` only looks for the closing quote. Both start behind the opening quote.
-/

namespace ControlPlane.Json

/-- The octet of an ASCII character. -/
def octet (c : Char) : UInt8 := c.val.toUInt8

/-- The value of four hexadecimal digits. -/
def hexFour? (a b c d : UInt8) : Option Nat := do
  return ((← Text.Hex.octetValue? a) * 16 + (← Text.Hex.octetValue? b)) * 256
    + (← Text.Hex.octetValue? c) * 16 + (← Text.Hex.octetValue? d)

/-- The octet that an escape of one letter stands for. -/
def plainEscape? (b : UInt8) : Option UInt8 :=
  if b = octet '"' ∨ b = octet '\\' ∨ b = octet '/' then some b
  else if b = octet 'b' then some 0x08
  else if b = octet 'f' then some 0x0c
  else if b = octet 'n' then some 0x0a
  else if b = octet 'r' then some 0x0d
  else if b = octet 't' then some 0x09
  else none

/-- The octets of a character in UTF-8. -/
def utf8 (code : Nat) : Octets := (String.singleton (Char.ofNat code)).toUTF8.toList

/-- Whether a number is the first half of a pair that stands for one character. -/
def isLeading (n : Nat) : Bool := 0xD800 ≤ n && n ≤ 0xDBFF

/-- Whether a number is the second half of such a pair. -/
def isTrailing (n : Nat) : Bool := 0xDC00 ≤ n && n ≤ 0xDFFF

/-- The code of the character that a pair stands for. -/
def pairCode (first second : Nat) : Nat := 0x10000 + (first - 0xD800) * 1024 + (second - 0xDC00)

/-- Puts octets before those read so far. -/
def prepend (octets : Octets) : Except Mark (Octets × Octets) → Except Mark (Octets × Octets)
  | .ok (read, rest) => .ok (octets ++ read, rest)
  | .error m => .error m

/-- The octets of a text up to its closing quote, and what follows the quote. -/
def readOctets : Octets → Except Mark (Octets × Octets)
  | [] => .error ⟨.endInText, 0⟩
  | b :: rest =>
    if b = octet '"' then .ok ([], rest)
    else if b = octet '\\' then
      match rest with
      | [] => .error ⟨.endInText, 0⟩
      | e :: rest =>
        if e = octet 'u' then
          match rest with
          | h1 :: h2 :: h3 :: h4 :: rest =>
            match hexFour? h1 h2 h3 h4 with
            | none => .error ⟨.invalidEscape, rest.length⟩
            | some n =>
              if isTrailing n then .error ⟨.loneSurrogate, rest.length⟩
              else if isLeading n then
                match rest with
                | [] => .error ⟨.endInText, 0⟩
                | s :: rest =>
                  if s ≠ octet '\\' then .error ⟨.endOfHexEscape, rest.length⟩
                  else
                    match rest with
                    | [] => .error ⟨.endInText, 0⟩
                    | u :: rest =>
                      if u ≠ octet 'u' then .error ⟨.endOfHexEscape, rest.length⟩
                      else
                        match rest with
                        | g1 :: g2 :: g3 :: g4 :: rest =>
                          match hexFour? g1 g2 g3 g4 with
                          | none => .error ⟨.invalidEscape, rest.length⟩
                          | some m =>
                            if isTrailing m then prepend (utf8 (pairCode n m)) (readOctets rest)
                            else .error ⟨.loneSurrogate, rest.length⟩
                        | _ => .error ⟨.endInText, 0⟩
              else prepend (utf8 n) (readOctets rest)
          | _ => .error ⟨.endInText, 0⟩
        else
          match plainEscape? e with
          | some x => prepend [x] (readOctets rest)
          | none => .error ⟨.invalidEscape, rest.length⟩
    else if b < 0x20 then .error ⟨.controlCharacter, rest.length⟩
    else prepend [b] (readOctets rest)

/-- The text up to its closing quote. Its octets must be UTF-8. -/
def readText (s : Octets) : Except Mark String :=
  match readOctets s with
  | .error m => .error m
  | .ok (octets, rest) =>
    match String.fromUTF8? ⟨octets.toArray⟩ with
    | some words => .ok words
    | none => .error ⟨.invalidUnicode, rest.length⟩

/-- What follows the closing quote of a text that is not looked at. -/
def skipText : Octets → Except Mark Octets
  | [] => .error ⟨.endInText, 0⟩
  | b :: rest =>
    if b = octet '"' then .ok rest
    else if b = octet '\\' then
      match rest with
      | [] => .error ⟨.endInText, 0⟩
      | e :: rest =>
        if e = octet 'u' then
          match rest with
          | h1 :: h2 :: h3 :: h4 :: rest =>
            if (hexFour? h1 h2 h3 h4).isSome then skipText rest else .error ⟨.invalidEscape, rest.length⟩
          | _ => .error ⟨.endInText, 0⟩
        else if (plainEscape? e).isSome then skipText rest
        else .error ⟨.invalidEscape, rest.length⟩
    else if b < 0x20 then .error ⟨.controlCharacter, rest.length⟩
    else skipText rest

/-- The text after the closing quote is shorter than the text before it. -/
theorem length_of_skipText {s rest : Octets} (h : skipText s = .ok rest) : rest.length < s.length := by
  fun_induction skipText s with
  | case1 | case3 | case5 | case6 | case8 | case9 => cases h
  | case2 => cases h; simp
  | case4 _ _ _ _ _ _ _ ih => have := ih h; simp only [List.length_cons]; omega
  | case7 _ _ _ _ _ ih => have := ih h; simp only [List.length_cons]; omega
  | case10 _ _ _ _ _ ih => have := ih h; simp only [List.length_cons]; omega

end ControlPlane.Json
