import ControlPlane.Json.Printer
import ControlPlane.Json.Reading
import ControlPlane.Proofs.Text.Digits
import ControlPlane.Proofs.Text.Utf8

/-!
# Texts and numbers come back from a JSON text

A text that was written between quotes is read again, whatever its characters and whatever follows its quote
(`readQuoted_written`); so is a whole number of 64 bits, where nothing follows that belongs to a numeral (`readNumber_written`).
-/

namespace ControlPlane.Json

namespace Read

variable {α β : Type} {m n : Nat}

/-- What was read, and what follows it. -/
def seen (r : Read α n) : α × Option Octets := (r.value, r.rest)

@[simp] theorem seen_stop (a : α) : (stop a : Read α n).seen = (a, none) := rfl

@[simp] theorem seen_go (a : α) (rest : Octets) (h : rest.length < n) : (go a rest h).seen = (a, some rest) := rfl

@[simp] theorem seen_widen (r : Read α m) (h : m ≤ n) : (r.widen h).seen = r.seen := rfl

@[simp] theorem seen_map (f : α → β) (r : Read α n) : (r.map f).seen = (f r.seen.1, r.seen.2) := rfl

end Read

/-! ## Texts -/

theorem prepend_prepend (a b : Octets) (r : Except Mark (Octets × Octets)) :
    prepend a (prepend b r) = prepend (a ++ b) r := by
  cases r with
  | error m => rfl
  | ok p => simp only [prepend, List.append_assoc]

/-- Octets that have no meaning inside a text are read as they are. -/
theorem readOctets_plain {bs : Octets} (h : ∀ b ∈ bs, b ≠ octet '"' ∧ b ≠ octet '\\' ∧ ¬b < 0x20) (tail : Octets) :
    readOctets (bs ++ tail) = prepend bs (readOctets tail) ∧ skipText (bs ++ tail) = skipText tail := by
  induction bs with
  | nil =>
    refine ⟨?_, rfl⟩
    rw [List.nil_append]
    cases readOctets tail <;> rfl
  | cons b bs ih =>
    obtain ⟨h1, h2, h3⟩ := h b List.mem_cons_self
    obtain ⟨ih1, ih2⟩ := ih fun c hc => h c (List.mem_cons_of_mem b hc)
    constructor
    · rw [List.cons_append, readOctets.eq_def]
      simp only [h1, h2, h3, if_false, ih1, prepend_prepend, List.singleton_append]
    · rw [List.cons_append, skipText.eq_def]
      simp only [h1, h2, h3, if_false, ih2]

/-- An escape of one letter is read as the octet that it stands for. -/
theorem readOctets_escape {e x : UInt8} (h : plainEscape? e = some x) (hu : e ≠ octet 'u') (tail : Octets) :
    readOctets (octet '\\' :: e :: tail) = prepend [x] (readOctets tail) ∧
      skipText (octet '\\' :: e :: tail) = skipText tail := by
  have hq : octet '\\' ≠ octet '"' := by decide
  constructor
  · rw [readOctets.eq_def]
    simp only [hq, hu, if_false, if_true, h]
  · rw [skipText.eq_def]
    simp only [hq, hu, if_false, h, Option.isSome_some, if_true]

/-- The octets of a control character. -/
theorem utf8_control : ∀ n < 0x20, utf8 n = [UInt8.ofNat n] := by decide +kernel

/-- The digits of the escape of a control character. -/
theorem hexFour?_control : ∀ n < 0x20, hexFour? (octet '0') (octet '0') (octet (Text.Hex.digit (n / 16)))
    (octet (Text.Hex.digit (n % 16))) = some n := by decide +kernel

/-- The escape of a control character is read as that character. -/
theorem readOctets_control {n : Nat} (h : n < 0x20) (tail : Octets) :
    let escape := [octet '\\', octet 'u', octet '0', octet '0', octet (Text.Hex.digit (n / 16)), octet (Text.Hex.digit (n % 16))]
    readOctets (escape ++ tail) = prepend [UInt8.ofNat n] (readOctets tail) ∧ skipText (escape ++ tail) = skipText tail := by
  have hq : octet '\\' ≠ octet '"' := by decide
  have ht : isTrailing n = false := by
    simp only [isTrailing, Bool.and_eq_false_iff, decide_eq_false_iff_not]
    omega
  have hl : isLeading n = false := by
    simp only [isLeading, Bool.and_eq_false_iff, decide_eq_false_iff_not]
    omega
  constructor
  · rw [List.cons_append, readOctets.eq_def]
    simp only [hq, if_false, if_true, List.cons_append, List.nil_append, hexFour?_control n h, ht, hl, utf8_control n h,
      Bool.false_eq_true]
  · rw [List.cons_append, skipText.eq_def]
    simp only [hq, if_false, if_true, List.cons_append, List.nil_append, hexFour?_control n h, Option.isSome_some]

/-- The octet of a character, by its number. -/
theorem octet_eq (c : Char) : octet c = UInt8.ofNat c.toNat := by
  rw [← UInt8.toNat_inj, UInt8.toNat_ofNat']
  exact UInt32.toNat_toUInt8 c.val

theorem hexDigit_ascii : ∀ n < 16, (Text.Hex.digit n).toNat < 0x80 := by decide

/-- The octets of a character that stands for itself have no meaning inside a text. -/
theorem plain_of_mem_encodeChar {c : Char} (h1 : c ≠ '"') (h2 : c ≠ '\\') (h3 : ¬c.toNat < 0x20) {b : UInt8}
    (hb : b ∈ String.utf8EncodeChar c) : b ≠ octet '"' ∧ b ≠ octet '\\' ∧ ¬b < 0x20 := by
  rcases Nat.lt_or_ge c.toNat 0x80 with hlt | hge
  · rw [Text.encodeChar_ascii hlt, List.mem_singleton] at hb
    have hn : (UInt8.ofNat c.toNat).toNat = c.toNat := by rw [UInt8.toNat_ofNat', Nat.mod_eq_of_lt (by omega)]
    have hne (d : Char) (hd : d.toNat < 0x80) (hcd : c ≠ d) : UInt8.ofNat c.toNat ≠ octet d := by
      intro he
      rw [octet_eq, ← UInt8.toNat_inj, hn, UInt8.toNat_ofNat', Nat.mod_eq_of_lt (by omega)] at he
      exact hcd (by rw [← Char.ofNat_toNat c, he, Char.ofNat_toNat])
    rw [hb, UInt8.lt_iff_toNat_lt, hn]
    exact ⟨hne _ (by decide) h1, hne _ (by decide) h2, h3⟩
  · have hle := UInt8.le_iff_toNat_le.mp (Text.le_of_mem_encodeChar hge hb)
    simp only [UInt8.reduceToNat] at hle
    have hne (d : Char) (hd : d.toNat < 0x80) : b ≠ octet d := by
      intro he
      rw [he, octet_eq, UInt8.toNat_ofNat', Nat.mod_eq_of_lt (by omega)] at hle
      omega
    refine ⟨hne _ (by decide), hne _ (by decide), ?_⟩
    rw [UInt8.lt_iff_toNat_lt]
    exact Nat.not_lt.mpr (Nat.le_trans (by decide) hle)

/-- A character that was written inside a text is read. -/
theorem readOctets_escapeChar (c : Char) (tail : Octets) :
    readOctets (Text.encode (escapeChar c) ++ tail) = prepend (String.utf8EncodeChar c) (readOctets tail) ∧
      skipText (Text.encode (escapeChar c) ++ tail) = skipText tail := by
  unfold escapeChar
  split
  · exact readOctets_escape (e := octet '"') rfl (by decide) tail
  · exact readOctets_escape (e := octet '\\') rfl (by decide) tail
  · exact readOctets_escape (e := octet 'n') rfl (by decide) tail
  · exact readOctets_escape (e := octet 'r') rfl (by decide) tail
  · exact readOctets_escape (e := octet 't') rfl (by decide) tail
  · exact readOctets_escape (e := octet 'b') rfl (by decide) tail
  · exact readOctets_escape (e := octet 'f') rfl (by decide) tail
  · next h1 h2 _ _ _ _ _ =>
    split
    · next h =>
      have hc := readOctets_control h tail
      have he : Text.encode ['\\', 'u', '0', '0', Text.Hex.digit (c.toNat / 16), Text.Hex.digit (c.toNat % 16)] =
          [octet '\\', octet 'u', octet '0', octet '0', octet (Text.Hex.digit (c.toNat / 16)),
            octet (Text.Hex.digit (c.toNat % 16))] := by
        rw [octet_eq (Text.Hex.digit (c.toNat / 16)), octet_eq (Text.Hex.digit (c.toNat % 16)), Text.encode_cons,
          Text.encode_cons, Text.encode_cons, Text.encode_cons, Text.encode_cons, Text.encode_cons,
          Text.encodeChar_ascii (hexDigit_ascii _ (by omega)), Text.encodeChar_ascii (hexDigit_ascii _ (by omega))]
        rfl
      rw [he, Text.encodeChar_ascii (by omega)]
      exact hc
    · next h =>
      rw [Text.encode_cons, Text.encode_nil, List.append_nil]
      exact readOctets_plain (fun b hb => plain_of_mem_encodeChar h1 h2 h hb) tail

/-- The octets of a text that was written between quotes, behind the first quote. -/
theorem octets_quoted (s : String) :
    Text.octets (quoted s) = octet '"' :: (Text.encode (s.toList.flatMap escapeChar) ++ [octet '"']) := by
  rw [quoted, Text.octets_ofList, List.cons_append, Text.encode_cons, Text.encode_append]
  rfl

/-- The octets of a text are read up to its quote. -/
theorem readOctets_written (s : List Char) (rest : Octets) :
    readOctets (Text.encode (s.flatMap escapeChar) ++ octet '"' :: rest) = .ok (Text.encode s, rest) ∧
      skipText (Text.encode (s.flatMap escapeChar) ++ octet '"' :: rest) = .ok rest := by
  induction s with
  | nil =>
    rw [List.flatMap_nil, Text.encode_nil, List.nil_append, readOctets.eq_def, skipText.eq_def]
    simp only [if_true, and_self]
  | cons c s ih =>
    obtain ⟨h1, h2⟩ := readOctets_escapeChar c (Text.encode (s.flatMap escapeChar) ++ octet '"' :: rest)
    rw [List.flatMap_cons, Text.encode_append, List.append_assoc, h1, h2, ih.1, ih.2]
    exact ⟨rfl, rfl⟩

/-- A text that was written is read, behind its first quote. -/
theorem readQuoted_written (s : String) (rest : Octets) :
    (readQuoted (Text.encode (s.toList.flatMap escapeChar) ++ octet '"' :: rest)).seen = (.quoted (.ok s), some rest) := by
  obtain ⟨h1, h2⟩ := readOctets_written s.toList rest
  have ht : readText (Text.encode (s.toList.flatMap escapeChar) ++ octet '"' :: rest) = .ok s := by
    have hu := Text.ofUtf8?_octets s
    rw [Text.ofUtf8?, Text.octets] at hu
    rw [readText, h1]
    simp only [hu]
  unfold readQuoted
  split
  · next r h =>
    rw [h2] at h
    cases h
    rw [Read.seen_go, ht]
  · next m h =>
    rw [h2] at h
    cases h

/-! ## Numbers -/

/-- Whether a text goes on with nothing that belongs to a numeral. -/
def EndsNumeral (rest : Octets) : Prop :=
  ∀ b ∈ rest.head?, digit? b = none ∧ b ≠ octet '.' ∧ b ≠ octet 'e' ∧ b ≠ octet 'E'

/-- The digit that the octet of a digit stands for. -/
theorem digit?_ofChar {c : Char} (h : c.isDigit = true) : digit? (UInt8.ofNat c.toNat) = some (c.toNat - 48) := by
  obtain ⟨h1, h2⟩ := Decimal.digit_lt h
  have hn : (UInt8.ofNat c.toNat).toNat = c.toNat := by rw [UInt8.toNat_ofNat', Nat.mod_eq_of_lt (by omega)]
  have hc : (0x30 ≤ UInt8.ofNat c.toNat && UInt8.ofNat c.toNat ≤ 0x39) = true := by
    simp only [Bool.and_eq_true, decide_eq_true_eq, UInt8.le_iff_toNat_le, hn, UInt8.toNat_ofNat]
    omega
  rw [digit?, if_pos hc, hn]

/-- The octets of digits. -/
theorem encode_digits {ds : List Char} (h : ∀ c ∈ ds, c.isDigit = true) :
    Text.encode ds = ds.map fun c => UInt8.ofNat c.toNat :=
  Text.encode_ascii fun c hc => by have := Decimal.digit_lt (h c hc); omega

/-- Digits are read up to what is no digit. -/
theorem digits_written {ds : List Char} (h : ∀ c ∈ ds, c.isDigit = true) {rest : Octets} (hr : EndsNumeral rest) :
    digits (Text.encode ds ++ rest) = ds.map (·.toNat - 48) ∧ afterDigits (Text.encode ds ++ rest) = rest := by
  rw [encode_digits h]
  induction ds with
  | nil =>
    cases rest with
    | nil => exact ⟨rfl, rfl⟩
    | cons b rest =>
      have hb := (hr b rfl).1
      simp only [List.map_nil, List.nil_append, digits, afterDigits, hb, Option.isSome_none, Bool.false_eq_true, if_false,
        and_self]
  | cons c ds ih =>
    have hd := digit?_ofChar (h c List.mem_cons_self)
    obtain ⟨ih1, ih2⟩ := ih fun d hd => h d (List.mem_cons_of_mem c hd)
    simp only [List.map_cons, List.cons_append, digits, afterDigits, hd, Option.isSome_some, if_true, ih1, ih2, and_self]

/-- A numeral without fraction and exponent ends there. -/
theorem readFraction?_ended (n : Numeral) {rest : Octets} (hr : EndsNumeral rest) : readFraction? n rest = .ok (n, rest) := by
  cases rest with
  | nil => rfl
  | cons b rest =>
    obtain ⟨-, h1, h2, h3⟩ := hr b rfl
    simp only [readFraction?, readExponent?, h1, h2, h3, or_self, if_false]

/-- The numeral of a whole number is read. -/
theorem readNumeral_written (negative : Bool) (n : Nat) {rest : Octets} (hr : EndsNumeral rest) :
    readNumeral negative (Text.encode (Nat.toDigits 10 n) ++ rest) =
      .ok (⟨negative, (Nat.toDigits 10 n).map (·.toNat - 48), [], none⟩, rest) := by
  have hd : ∀ c ∈ Nat.toDigits 10 n, c.isDigit = true := fun c => Decimal.isDigit_of_mem
  by_cases hn : n = 0
  · have h0 : Text.encode (Nat.toDigits 10 n) = [octet '0'] := by rw [hn]; rfl
    have h1 : (Nat.toDigits 10 n).map (·.toNat - 48) = [0] := by rw [hn]; rfl
    rw [h0, h1, List.singleton_append]
    cases rest with
    | nil => rfl
    | cons b rest =>
      have hb : (digit? b).isSome = false := by rw [(hr b rfl).1]; rfl
      simp only [readNumeral, if_true, hb, Bool.false_eq_true, if_false]
      exact readFraction?_ended _ hr
  · obtain ⟨h1, h2⟩ := digits_written hd hr
    cases hl : Nat.toDigits 10 n with
    | nil => exact absurd hl Nat.toDigits_ne_nil
    | cons c ds =>
      rw [hl] at h1 h2 hd
      have hc := hd c List.mem_cons_self
      have hne : UInt8.ofNat c.toNat ≠ octet '0' := by
        intro he
        obtain ⟨h3, h4⟩ := Decimal.digit_lt hc
        rw [octet_eq, ← UInt8.toNat_inj, UInt8.toNat_ofNat', UInt8.toNat_ofNat', Nat.mod_eq_of_lt (by omega),
          Nat.mod_eq_of_lt (by decide)] at he
        exact Decimal.head_toDigits hl hn (by rw [← Char.ofNat_toNat c, he]; rfl)
      rw [encode_digits hd, List.map_cons, List.cons_append] at h1 h2 ⊢
      have hs : (digit? (UInt8.ofNat c.toNat)).isSome = true := by rw [digit?_ofChar hc]; rfl
      simp only [readNumeral, hne, if_false, hs, if_true, h1, h2]
      exact readFraction?_ended _ hr

namespace Numeral

/-- The number that digits stand for, behind others. -/
def ofDigitsFrom (acc : Nat) (ds : List Nat) : Nat := ds.foldl (fun n d => n * 10 + d) acc

theorem le_ofDigitsFrom (acc : Nat) (ds : List Nat) : acc ≤ ofDigitsFrom acc ds := by
  induction ds generalizing acc with
  | nil => exact Nat.le_refl acc
  | cons d ds ih => exact Nat.le_trans (by omega) (ih (acc * 10 + d))

/-- Where a number fits in 64 bits, none of its digits is dropped. -/
theorem leading_eq {acc : Nat} {ds : List Nat} (h : ofDigitsFrom acc ds < UInt64.size) :
    leading acc ds = (ofDigitsFrom acc ds, 0) := by
  induction ds generalizing acc with
  | nil => rfl
  | cons d ds ih =>
    have hf : fits acc d = true := decide_eq_true (Nat.lt_of_le_of_lt (le_ofDigitsFrom (acc * 10 + d) ds) h)
    rw [leading, if_pos hf]
    exact ih h

/-- Whether a whole number has a numeral of its own: it fits in 64 bits, with a sign or without. -/
def IsExact (n : Int) : Prop := -0x8000000000000000 ≤ n ∧ n < 0x10000000000000000

/-- The digits of a number stand for it. -/
theorem ofDigitsFrom_toDigits (n : Nat) : ofDigitsFrom 0 ((Nat.toDigits 10 n).map (·.toNat - 48)) = n := by
  rw [ofDigitsFrom, List.foldl_map]
  exact Decimal.ofDigits_toDigits n

/-- The value of the numeral of a whole number. -/
theorem value_written {negative : Bool} {n : Nat} (hn : n < UInt64.size)
    (hneg : negative = true → n ≠ 0 ∧ n ≤ 0x8000000000000000) :
    value ⟨negative, (Nat.toDigits 10 n).map (·.toNat - 48), [], none⟩ = .ok (.integer (if negative then -n else n)) := by
  have hl : leading 0 ((Nat.toDigits 10 n).map (·.toNat - 48)) = _ := leading_eq (by rwa [ofDigitsFrom_toDigits])
  rw [ofDigitsFrom_toDigits] at hl
  simp only [value, hl, and_self, if_true]
  cases negative with
  | false => rfl
  | true =>
    obtain ⟨h0, hle⟩ := hneg rfl
    have hc : ¬(n = 0 ∨ 0x8000000000000000 < n) := by omega
    simp only [if_true, hc, if_false]

end Numeral

/-- A whole number that was written is read, behind its sign. -/
theorem readNumber_written {first : UInt8} {negative : Bool} {n : Nat} (hn : n < UInt64.size)
    (hneg : negative = true → n ≠ 0 ∧ n ≤ 0x8000000000000000) {rest : Octets} (hr : EndsNumeral rest) :
    (readNumber first negative (Text.encode (Nat.toDigits 10 n) ++ rest)).seen =
      (.number (.ok (.integer (if negative then -n else n))), some rest) := by
  have hw := readNumeral_written negative n hr
  unfold readNumber
  split
  · next h =>
    rw [hw] at h
    cases h
  · next h =>
    rw [hw] at h
    cases h
    rw [Read.seen_go, Numeral.value_written hn hneg]

end ControlPlane.Json
