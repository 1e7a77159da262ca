import ControlPlane.Proofs.Text.Utf8
import ControlPlane.Url.Form

/-!
# What is encoded comes back

Octets that were put in percent form are read back (`percentDecode_percentEncode`), and pairs that were written into a query are
read back in their order (`Form.decode_append`). Both hold for all texts: what is written has no mark in it at which a reader
splits it.
-/

namespace ControlPlane

/-! ## Parts between marks -/

namespace Text

variable {α : Type} {isMark : α → Bool} {part : List α}

/-- A list without marks is one part. -/
theorem split_of_none (h : ∀ a ∈ part, isMark a = false) : split isMark part = [part] := by
  induction part with
  | nil => rfl
  | cons a part ih =>
    rw [split, h a List.mem_cons_self, ih fun b hb => h b (List.mem_cons_of_mem a hb)]
    rfl

/-- A part ends at the first mark. -/
theorem split_append_mark (h : ∀ a ∈ part, isMark a = false) {m : α} (hm : isMark m = true) (rest : List α) :
    split isMark (part ++ m :: rest) = part :: split isMark rest := by
  induction part with
  | nil => rw [List.nil_append, split, hm, if_pos rfl]
  | cons a part ih =>
    rw [List.cons_append, split, h a List.mem_cons_self, ih fun b hb => h b (List.mem_cons_of_mem a hb)]
    rfl

/-- Parts that are put behind each other with a mark between them are found again. -/
theorem split_parts {m : α} (hm : isMark m = true) {parts : List (List α)} (h : ∀ a ∈ part, isMark a = false)
    (hp : ∀ p ∈ parts, ∀ a ∈ p, isMark a = false) : split isMark (part ++ parts.flatMap (m :: ·)) = part :: parts := by
  induction parts generalizing part with
  | nil => rw [List.flatMap_nil, List.append_nil, split_of_none h]
  | cons p parts ih =>
    rw [List.flatMap_cons, List.cons_append, split_append_mark h hm,
      ih (hp p List.mem_cons_self) fun q hq => hp q (List.mem_cons_of_mem p hq)]

/-- A list is made of its parts, with a mark before each but the first. -/
theorem eq_of_split [BEq α] [LawfulBEq α] {m : α} {s : List α} {parts : List (List α)} (h : split (· == m) s = part :: parts) :
    s = part ++ parts.flatMap (m :: ·) := by
  induction s generalizing part parts with
  | nil =>
    obtain ⟨rfl, rfl⟩ := List.cons.inj h
    rfl
  | cons a rest ih =>
    cases hrest : split (· == m) rest with
    | nil =>
      have hlength := length_split (· == m) rest
      rw [hrest, List.length_nil] at hlength
      omega
    | cons first more =>
      have hsame := ih hrest
      rw [split, hrest] at h
      by_cases hm : a = m
      · rw [if_pos (beq_iff_eq.mpr hm)] at h
        obtain ⟨rfl, rfl⟩ := List.cons.inj h
        rw [List.nil_append, List.flatMap_cons, List.cons_append, ← hsame, hm]
      · rw [if_neg (by simpa using hm)] at h
        obtain ⟨rfl, rfl⟩ := List.cons.inj h
        rw [List.cons_append, ← hsame]

end Text

namespace Url

/-! ## Percent forms -/

/-- The digits of percent forms. -/
def upperDigits : List Char := "0123456789ABCDEF".toList

theorem upperDigit_mem : ∀ n < 16, (Text.Hex.digit n).toUpper ∈ upperDigits := by decide

/-- What is computed to hold of all characters of a text holds of each. -/
theorem forall_char {P : Char → Prop} [DecidablePred P] {s : List Char} (h : (s.all fun c => decide (P c)) = true) : ∀ c ∈ s, P c :=
  fun c hc => of_decide_eq_true (List.all_eq_true.mp h c hc)

theorem upperDigit_ascii : ∀ c ∈ upperDigits, c.toNat < 0x80 := forall_char (by decide)

/-- The octet of a digit of a percent form has its value. -/
theorem octetValue?_upperDigit {n : Nat} (h : n < 16) :
    Text.Hex.octetValue? (UInt8.ofNat (Text.Hex.digit n).toUpper.toNat) = some n := by
  have ha := upperDigit_ascii _ (upperDigit_mem n h)
  rw [Text.Hex.octetValue?, UInt8.toNat_ofNat', Nat.mod_eq_of_lt (by omega), Char.ofNat_toNat]
  exact Text.Hex.value?_toUpper_digit n h

/-- A percent form has a percent sign and digits only. -/
theorem mem_percentOctet {b : UInt8} {c : Char} (h : c ∈ percentOctet b) : c = '%' ∨ c ∈ upperDigits := by
  have hb := b.toNat_lt
  simp only [percentOctet, List.mem_cons, List.not_mem_nil, or_false] at h
  rcases h with rfl | rfl | rfl
  · exact Or.inl rfl
  · exact Or.inr (upperDigit_mem _ (by omega))
  · exact Or.inr (upperDigit_mem _ (by omega))

/-- A percent form is in ASCII. -/
theorem percentOctet_ascii {b : UInt8} {c : Char} (h : c ∈ percentOctet b) : c.toNat < 0x80 := by
  rcases mem_percentOctet h with rfl | h
  · decide
  · exact upperDigit_ascii c h

/-- An octet comes back from its percent form. -/
theorem percentDecode_percentOctet (b : UInt8) (rest : List UInt8) :
    percentDecode (Text.encode (percentOctet b) ++ rest) = b :: percentDecode rest := by
  have hb := b.toNat_lt
  rw [Text.encode_ascii fun c => percentOctet_ascii]
  simp only [percentOctet, List.map_cons, List.map_nil, List.cons_append, List.nil_append]
  have hp : UInt8.ofNat '%'.toNat = 0x25 := rfl
  rw [hp, percentDecode, octetValue?_upperDigit (by omega), octetValue?_upperDigit (by omega)]
  simp only [List.cons.injEq, and_true]
  rw [show b.toNat / 16 * 16 + b.toNat % 16 = b.toNat by omega]
  exact UInt8.ofNat_toNat

/-- Any other octet than the percent sign stands for itself. -/
theorem percentDecode_cons_of_ne {b : UInt8} (h : b ≠ 0x25) (rest : List UInt8) :
    percentDecode (b :: rest) = b :: percentDecode rest := by
  rcases rest with _ | ⟨_, _ | ⟨_, _⟩⟩ <;> simp [percentDecode, h]

/-- The octet of an ASCII character that is given as an octet. -/
theorem encode_ofNat {b : UInt8} (h : b < 0x80) : Text.encode [Char.ofNat b.toNat] = [b] := by
  have hb : b.toNat < 0x80 := UInt8.lt_iff_toNat_lt.mp h
  have hc : (Char.ofNat b.toNat).toNat = b.toNat := Text.toNat_ofNat (by omega)
  rw [Text.encode_cons, Text.encodeChar_ascii (by omega), hc]
  exact congrArg (· :: []) UInt8.ofNat_toNat

/-- Octets come back from their percent form, where the octets that stand for themselves are ASCII and no percent signs. -/
theorem percentDecode_percentEncode {escaped : UInt8 → Bool} (h : ∀ b, escaped b = false → b < 0x80 ∧ b ≠ 0x25)
    (s rest : List UInt8) :
    percentDecode (Text.encode (percentEncode escaped s) ++ rest) = s ++ percentDecode rest := by
  induction s with
  | nil => rfl
  | cons b s ih =>
    rw [percentEncode, List.flatMap_cons, Text.encode_append, List.append_assoc]
    by_cases hb : escaped b = true
    · rw [if_pos hb, percentDecode_percentOctet]
      exact congrArg (b :: ·) ih
    · obtain ⟨h1, h2⟩ := h b (Bool.eq_false_iff.mpr hb)
      rw [if_neg hb, encode_ofNat h1, List.singleton_append, percentDecode_cons_of_ne h2]
      exact congrArg (b :: ·) ih

/-! ## Octets and ASCII characters, one by one -/

/-- What holds of the first 256 numbers holds of all octets. -/
theorem forall_octet {P : UInt8 → Prop} (h : ∀ n < 256, P (UInt8.ofNat n)) (b : UInt8) : P b := by
  have hb := h b.toNat b.toNat_lt
  rwa [UInt8.ofNat_toNat] at hb

/-- What holds of the first 128 numbers holds of all ASCII characters. -/
theorem forall_ascii {P : Char → Prop} (h : ∀ n < 0x80, P (Char.ofNat n)) {c : Char} (hc : c.toNat < 0x80) : P c := by
  have hn := h c.toNat hc
  rwa [Char.ofNat_toNat] at hn

/-! ## Characters that stay -/

/-- Whether a character stands for itself where the octets of a set are put in percent form. -/
structure Stays (escaped : UInt8 → Bool) (c : Char) : Prop where
  ascii : c.toNat < 0x80
  plain : escaped (UInt8.ofNat c.toNat) = false

/-- What holds of the ASCII characters that are not escaped holds of each character that stays. -/
theorem Stays.forall {escaped : UInt8 → Bool} {P : Char → Prop}
    (h : ∀ n < 0x80, escaped (UInt8.ofNat (Char.ofNat n).toNat) = false → P (Char.ofNat n)) {c : Char} (hc : Stays escaped c) : P c :=
  forall_ascii (P := fun c => escaped (UInt8.ofNat c.toNat) = false → P c) h hc.ascii hc.plain

/-- In a percent form of any octets, all characters stay, where all other octets than ASCII are escaped and those of percent forms are
not. -/
theorem stays_of_mem {escaped : UInt8 → Bool} (hset : ∀ b, escaped b = false → b < 0x80)
    (hform : ∀ c ∈ '%' :: upperDigits, escaped (UInt8.ofNat c.toNat) = false) {s : List UInt8} {c : Char}
    (h : c ∈ percentEncode escaped s) : Stays escaped c := by
  obtain ⟨b, -, hc⟩ := List.mem_flatMap.mp h
  split at hc
  · refine ⟨percentOctet_ascii hc, hform c ?_⟩
    rcases mem_percentOctet hc with rfl | hc
    · exact List.mem_cons_self
    · exact List.mem_cons_of_mem _ hc
  · next hb =>
    have hb := Bool.eq_false_iff.mpr hb
    have hlt : b.toNat < 0x80 := UInt8.lt_iff_toNat_lt.mp (hset b hb)
    have hn : (Char.ofNat b.toNat).toNat = b.toNat := Text.toNat_ofNat (by omega)
    rw [List.mem_singleton.mp hc]
    exact ⟨by rw [hn]; exact hlt, by rw [hn, UInt8.ofNat_toNat]; exact hb⟩

/-- A text in which all characters stay is its own percent form. -/
theorem percentEncode_of_stays {escaped : UInt8 → Bool} {s : List Char} (h : ∀ c ∈ s, Stays escaped c) :
    percentEncode escaped (Text.encode s) = s := by
  rw [Text.encode_ascii fun c hc => (h c hc).ascii]
  induction s with
  | nil => rfl
  | cons c s ih =>
    obtain ⟨ha, hp⟩ := h c List.mem_cons_self
    rw [List.map_cons, percentEncode, List.flatMap_cons, hp, if_neg (by decide), UInt8.toNat_ofNat',
      Nat.mod_eq_of_lt (by omega), Char.ofNat_toNat]
    exact congrArg (c :: ·) (ih fun d hd => h d (List.mem_cons_of_mem c hd))

/-! ## Texts as segments of a path -/

theorem isUnreserved_ascii : ∀ b, isUnreserved b = true → b < 0x80 ∧ b ≠ 0x25 := forall_octet (by decide +kernel)

/-- The characters of a text that was made a segment of a path. -/
def isSegmentChar (c : Char) : Bool := c.toNat < 0x80 && (c == '%' || isUnreserved (UInt8.ofNat c.toNat))

/-- A character for an octet that stands for itself, or in a percent form. -/
theorem isSegmentChar_of_mem {s : String} {c : Char} (h : c ∈ (segmentText s).toList) : isSegmentChar c = true := by
  rw [segmentText, String.toList_ofList, percentEncode] at h
  obtain ⟨b, -, hc⟩ := List.mem_flatMap.mp h
  by_cases hb : isUnreserved b = true
  · rw [if_neg (by rw [hb]; decide), List.mem_singleton] at hc
    obtain ⟨hlt, -⟩ := isUnreserved_ascii b hb
    have hn : (Char.ofNat b.toNat).toNat = b.toNat := Text.toNat_ofNat (by have := b.toNat_lt; omega)
    rw [hc, isSegmentChar, hn, UInt8.ofNat_toNat, hb, Bool.or_true, Bool.and_true, decide_eq_true_eq]
    exact UInt8.lt_iff_toNat_lt.mp hlt
  · rw [if_pos (by rw [Bool.eq_false_iff.mpr hb]; rfl)] at hc
    rcases mem_percentOctet hc with rfl | hc
    · decide
    · have hdigits : ∀ c ∈ upperDigits, isSegmentChar c = true := forall_char (by decide +kernel)
      exact hdigits c hc

/-- A text comes back from the segment that was made of it. -/
theorem percentDecode_segmentText (s : String) : percentDecode (Text.octets (segmentText s)) = Text.octets s := by
  rw [segmentText, Text.octets_ofList, ← List.append_nil (Text.encode _),
    percentDecode_percentEncode fun b hb => isUnreserved_ascii b (by simpa using hb)]
  simp [percentDecode]

namespace Form

/-! ## Pairs in a query -/

theorem isPlain_ascii : ∀ b, isPlain b = true → b < 0x80 ∧ b ≠ 0x25 ∧ b ≠ 0x2b ∧ b ≠ 0x26 ∧ b ≠ 0x3d :=
  forall_octet (by decide +kernel)

theorem upperDigit_unmarked : ∀ c ∈ upperDigits,
    UInt8.ofNat c.toNat ≠ 0x2b ∧ UInt8.ofNat c.toNat ≠ 0x26 ∧ UInt8.ofNat c.toNat ≠ 0x3d := forall_char (by decide)

/-- An octet as it stands in a query. -/
def written (b : UInt8) : List Char := if b = 0x20 then ['+'] else if isPlain b then [Char.ofNat b.toNat] else percentOctet b

theorem encodeText_eq (s : String) : encodeText s = (Text.octets s).flatMap written := rfl

/-- Percent forms have no plus sign and no mark between keys, values and pairs. -/
theorem percentOctet_unmarked {b x : UInt8} (h : x ∈ Text.encode (percentOctet b)) : x ≠ 0x2b ∧ x ≠ 0x26 ∧ x ≠ 0x3d := by
  rw [Text.encode_ascii fun c => percentOctet_ascii] at h
  obtain ⟨c, hc, rfl⟩ := List.mem_map.mp h
  rcases mem_percentOctet hc with rfl | hc
  · decide
  · exact upperDigit_unmarked c hc

/-- What is written for an octet has no mark between keys, values and pairs. -/
theorem written_unmarked {b x : UInt8} (h : x ∈ Text.encode (written b)) : x ≠ 0x26 ∧ x ≠ 0x3d := by
  unfold written at h
  split at h
  · rw [show Text.encode ['+'] = [0x2b] from rfl, List.mem_singleton] at h
    rw [h]
    decide
  · split at h
    · next hp =>
      obtain ⟨h1, -, -, h2⟩ := isPlain_ascii b hp
      rw [encode_ofNat h1, List.mem_singleton] at h
      rwa [h]
    · exact (percentOctet_unmarked h).2

/-- An octet comes back from what is written for it. -/
theorem percentDecode_written (b : UInt8) (rest : List UInt8) :
    percentDecode ((Text.encode (written b)).map (fun x => if x = 0x2b then 0x20 else x) ++ rest) = b :: percentDecode rest := by
  unfold written
  split
  · next hb =>
    rw [show Text.encode ['+'] = [0x2b] from rfl, hb]
    exact percentDecode_cons_of_ne (by decide) rest
  · split
    · next hp =>
      obtain ⟨h1, h2, h3, -⟩ := isPlain_ascii b hp
      rw [encode_ofNat h1, List.map_singleton, if_neg h3]
      exact percentDecode_cons_of_ne h2 rest
    · have hm : (Text.encode (percentOctet b)).map (fun x => if x = 0x2b then 0x20 else x) = Text.encode (percentOctet b) :=
        (List.map_congr_left fun x hx => if_neg (percentOctet_unmarked hx).1).trans (List.map_id _)
      rw [hm, percentDecode_percentOctet]

/-- A key or a value comes back. -/
theorem decodeText_encodeText (s : String) : decodeText (Text.encode (encodeText s)) = s := by
  have h (t : List UInt8) :
      percentDecode ((Text.encode (t.flatMap written)).map fun x => if x = 0x2b then 0x20 else x) = t := by
    induction t with
    | nil => exact percentDecode.eq_3
    | cons b t ih =>
      rw [List.flatMap_cons, Text.encode_append, List.map_append, percentDecode_written, ih]
  rw [decodeText, encodeText_eq, h, Text.ofOctets_octets]

/-- A key or a value in which every character stands for itself is written as it is. -/
theorem encodeText_of_plain {s : String} (h : ∀ c ∈ s.toList, c.toNat < 0x80 ∧ isPlain (UInt8.ofNat c.toNat) = true) :
    encodeText s = s.toList := by
  have hspace : isPlain 0x20 = false := by decide
  have hall (t : List Char) (ht : ∀ c ∈ t, c.toNat < 0x80 ∧ isPlain (UInt8.ofNat c.toNat) = true) :
      (t.map fun c => UInt8.ofNat c.toNat).flatMap written = t := by
    induction t with
    | nil => rfl
    | cons c t ih =>
      obtain ⟨hc, hplain⟩ := ht c List.mem_cons_self
      have hne : UInt8.ofNat c.toNat ≠ 0x20 := fun he => by rw [he, hspace] at hplain; cases hplain
      have hwritten : written (UInt8.ofNat c.toNat) = [c] := by
        rw [written, if_neg hne, if_pos hplain, UInt8.toNat_ofNat', Nat.mod_eq_of_lt (by omega), Char.ofNat_toNat]
      rw [List.map_cons, List.flatMap_cons, hwritten, List.singleton_append, ih fun d hd => ht d (List.mem_cons_of_mem c hd)]
  rw [encodeText_eq, Text.octets, Text.encode_ascii fun c hc => (h c hc).1]
  exact hall s.toList h

/-- A key or a value has no mark between keys, values and pairs. -/
theorem encodeText_unmarked {s : String} {x : UInt8} (h : x ∈ Text.encode (encodeText s)) : x ≠ 0x26 ∧ x ≠ 0x3d := by
  rw [encodeText_eq] at h
  generalize Text.octets s = t at h
  induction t with
  | nil => cases h
  | cons b t ih =>
    rw [List.flatMap_cons, Text.encode_append, List.mem_append] at h
    exact h.elim written_unmarked ih

/-- The octets of a pair. -/
theorem encode_encodePair (p : String × String) :
    Text.encode (encodePair p) = Text.encode (encodeText p.1) ++ 0x3d :: Text.encode (encodeText p.2) := by
  rw [encodePair, Text.encode_append, Text.encode_cons]
  rfl

/-- A pair comes back. -/
theorem decodePair_encodePair (p : String × String) : decodePair (Text.encode (encodePair p)) = p := by
  have hk : ∀ x ∈ Text.encode (encodeText p.1), (x != 0x3d) = true := fun x hx => bne_iff_ne.mpr (encodeText_unmarked hx).2
  rw [encode_encodePair, decodePair, List.takeWhile_append_of_pos hk, List.dropWhile_append_of_pos hk]
  simp only [List.takeWhile_cons, List.dropWhile_cons, bne_self_eq_false, Bool.false_eq_true, if_false, List.append_nil,
    List.drop_one, List.tail_cons, decodeText_encodeText]

/-- A pair has no mark between pairs, and is not empty. -/
theorem encodePair_unmarked (p : String × String) :
    (∀ x ∈ Text.encode (encodePair p), (x == 0x26) = false) ∧ (Text.encode (encodePair p)).isEmpty = false := by
  rw [encode_encodePair]
  refine ⟨fun x hx => beq_eq_false_iff_ne.mpr ?_, by simp⟩
  rcases List.mem_append.mp hx with hx | hx
  · exact (encodeText_unmarked hx).1
  · rcases List.mem_cons.mp hx with rfl | hx
    · decide
    · exact (encodeText_unmarked hx).1

/-- Pairs behind a query that is there have a mark before each. -/
theorem append_of_ne_nil {query : List Char} (h : query ≠ []) (pairs : List (String × String)) :
    append query pairs = query ++ pairs.flatMap fun p => '&' :: encodePair p := by
  induction pairs generalizing query with
  | nil => simp [append]
  | cons p pairs ih =>
    have hq : query.isEmpty = false := by simpa using h
    rw [append, List.foldl_cons, hq, if_neg (by decide)]
    refine (ih (by simp)).trans ?_
    simp

/-- The characters of a key or a value stay in a query. -/
theorem stays_encodeText {s : String} {c : Char} (h : c ∈ encodeText s) : Stays inSpecialQuery c := by
  have hdigits : ∀ c ∈ '%' :: upperDigits, inSpecialQuery (UInt8.ofNat c.toNat) = false := forall_char (by decide +kernel)
  have hplain : ∀ b, isPlain b = true → inSpecialQuery b = false := forall_octet (by decide +kernel)
  obtain ⟨b, -, hc⟩ := List.mem_flatMap.mp (encodeText_eq s ▸ h)
  unfold written at hc
  split at hc
  · rw [List.mem_singleton.mp hc]
    exact ⟨by decide, by decide⟩
  · split at hc
    · next hb =>
      have hlt : b.toNat < 0x80 := UInt8.lt_iff_toNat_lt.mp (isPlain_ascii b hb).1
      have hn : (Char.ofNat b.toNat).toNat = b.toNat := Text.toNat_ofNat (by omega)
      rw [List.mem_singleton.mp hc]
      exact ⟨by rw [hn]; exact hlt, by rw [hn, UInt8.ofNat_toNat]; exact hplain b hb⟩
    · refine ⟨percentOctet_ascii hc, hdigits c ?_⟩
      rcases mem_percentOctet hc with rfl | hc
      · exact List.mem_cons_self
      · exact List.mem_cons_of_mem _ hc

theorem stays_encodePair {p : String × String} {c : Char} (h : c ∈ encodePair p) : Stays inSpecialQuery c := by
  rcases List.mem_append.mp h with h | h
  · exact stays_encodeText h
  · rcases List.mem_cons.mp h with rfl | h
    · exact ⟨by decide, by decide⟩
    · exact stays_encodeText h

/-- The characters of pairs stay in a query. -/
theorem stays_append {pairs : List (String × String)} {c : Char} (h : c ∈ append [] pairs) : Stays inSpecialQuery c := by
  cases pairs with
  | nil => cases h
  | cons p pairs =>
    have hp : encodePair p ≠ [] := by simp [encodePair]
    have ha : append [] (p :: pairs) = append (encodePair p) pairs := rfl
    rw [ha, append_of_ne_nil hp, List.mem_append, List.mem_flatMap] at h
    rcases h with h | ⟨p', -, h⟩
    · exact stays_encodePair h
    · rcases List.mem_cons.mp h with rfl | h
      · exact ⟨by decide, by decide⟩
      · exact stays_encodePair h

/-- The octets of pairs behind a pair. -/
theorem encode_pairs (pairs : List (String × String)) :
    Text.encode (pairs.flatMap fun p => '&' :: encodePair p) =
      (pairs.map fun p => Text.encode (encodePair p)).flatMap (0x26 :: ·) := by
  induction pairs with
  | nil => rfl
  | cons p pairs ih =>
    rw [List.flatMap_cons, Text.encode_append, Text.encode_cons, ih]
    rfl

/-- Pairs that were written into a query are read back. -/
theorem decode_append (pairs : List (String × String)) : decode (Text.encode (append [] pairs)) = pairs := by
  cases pairs with
  | nil => rfl
  | cons p pairs =>
    have hp : encodePair p ≠ [] := by simp [encodePair]
    have hs : Text.split (· == 0x26) (Text.encode (append (encodePair p) pairs)) =
        (p :: pairs).map fun p => Text.encode (encodePair p) := by
      rw [append_of_ne_nil hp, Text.encode_append, encode_pairs]
      refine Text.split_parts rfl (encodePair_unmarked p).1 fun part hpart => ?_
      obtain ⟨q, -, rfl⟩ := List.mem_map.mp hpart
      exact (encodePair_unmarked q).1
    have hf : ((p :: pairs).map fun p => Text.encode (encodePair p)).filter (! ·.isEmpty) =
        (p :: pairs).map fun p => Text.encode (encodePair p) := by
      refine List.filter_eq_self.mpr fun part hpart => ?_
      obtain ⟨q, -, rfl⟩ := List.mem_map.mp hpart
      rw [(encodePair_unmarked q).2]
      rfl
    have ha : append [] (p :: pairs) = append (encodePair p) pairs := rfl
    rw [ha, decode, hs, hf, List.map_map]
    exact (List.map_congr_left fun q _ => decodePair_encodePair q).trans (List.map_id _)

end Form

end Url

end ControlPlane
