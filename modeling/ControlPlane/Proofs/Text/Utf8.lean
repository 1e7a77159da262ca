import ControlPlane.Text.Utf8

/-!
# Characters come back from their octets

Characters that were written in UTF-8 are read back, by a reader that takes any octets (`decode_encode`) and by one that takes
UTF-8 only (`ofUtf8?_octets`). An ASCII character is one octet (`encodeChar_ascii`), and no other octet is one of ASCII
(`le_of_mem_encodeChar`), so that a mark of ASCII is found among octets where it is found among characters.
-/

namespace ControlPlane.Text

/-! ## Octets of texts -/

@[simp] theorem encode_nil : encode [] = [] := rfl

@[simp] theorem encode_cons (c : Char) (s : List Char) : encode (c :: s) = String.utf8EncodeChar c ++ encode s := rfl

@[simp] theorem encode_append (s t : List Char) : encode (s ++ t) = encode s ++ encode t := List.flatMap_append

@[simp] theorem octets_append (s t : String) : octets (s ++ t) = octets s ++ octets t := by
  rw [octets, String.toList_append, encode_append]
  rfl

@[simp] theorem octets_ofList (s : List Char) : octets (String.ofList s) = encode s := by
  rw [octets, String.toList_ofList]

/-- The number of a character that is given by a number. -/
theorem toNat_ofNat {n : Nat} (h : n < 0xd800) : (Char.ofNat n).toNat = n := by
  rw [Char.ofNat, dif_pos (Or.inl h)]
  rfl

/-- An ASCII character is one octet. -/
theorem encodeChar_ascii {c : Char} (h : c.toNat < 0x80) : String.utf8EncodeChar c = [UInt8.ofNat c.toNat] := by
  have hv : c.val.toNat ≤ 0x7f := Nat.le_of_lt_succ h
  simp only [String.utf8EncodeChar, hv, if_true]
  rfl

/-- ASCII characters are one octet each. -/
theorem encode_ascii {s : List Char} (h : ∀ c ∈ s, c.toNat < 0x80) : encode s = s.map fun c => UInt8.ofNat c.toNat := by
  induction s with
  | nil => rfl
  | cons c s ih =>
    rw [encode_cons, encodeChar_ascii (h c List.mem_cons_self), ih fun d hd => h d (List.mem_cons_of_mem c hd)]
    rfl

/-- The octets of other characters are beyond ASCII. -/
theorem le_of_mem_encodeChar {c : Char} (h : 0x80 ≤ c.toNat) {b : UInt8} (hb : b ∈ String.utf8EncodeChar c) : 0x80 ≤ b := by
  have hv : ¬c.val.toNat ≤ 0x7f := Nat.not_le.mpr h
  simp only [String.utf8EncodeChar, hv, if_false] at hb
  rw [UInt8.le_iff_toNat_le]
  split at hb
  · simp only [List.mem_cons, List.not_mem_nil, or_false] at hb
    rcases hb with rfl | rfl <;> simp only [UInt8.toNat_ofNat', UInt8.reduceToNat] <;> omega
  · split at hb
    · simp only [List.mem_cons, List.not_mem_nil, or_false] at hb
      rcases hb with rfl | rfl | rfl <;> simp only [UInt8.toNat_ofNat', UInt8.reduceToNat] <;> omega
    · simp only [List.mem_cons, List.not_mem_nil, or_false] at hb
      rcases hb with rfl | rfl | rfl | rfl <;> simp only [UInt8.toNat_ofNat', UInt8.reduceToNat] <;> omega

/-! ## Reading UTF-8 -/

/-- A text comes back from its octets. -/
theorem ofUtf8?_octets (s : String) : ofUtf8? (octets s) = some s := by
  have hb : (⟨(octets s).toArray⟩ : ByteArray) = s.toByteArray := by
    rw [← String.utf8Encode_toList]
    exact ByteArray.ext List.data_toByteArray.symm
  have hv : (⟨(octets s).toArray⟩ : ByteArray).IsValidUTF8 := hb ▸ s.isValidUTF8
  rw [ofUtf8?, String.fromUTF8?, dif_pos hv, Option.some.injEq, ← String.toByteArray_inj]
  exact hb

/-! ## Reading any octets -/

/-- A first octet of a longer character allows the second octets that come after it. -/
theorem mem_secondRange {m k : Nat} (hm : m < 256) (hk : 0x80 ≤ k ∧ k ≤ 0xbf) (he0 : m = 0xe0 → 0xa0 ≤ k)
    (hed : m = 0xed → k ≤ 0x9f) (hf0 : m = 0xf0 → 0x90 ≤ k) (hf4 : m = 0xf4 → k ≤ 0x8f) :
    (secondRange (UInt8.ofNat m)).1.toNat ≤ k ∧ k ≤ (secondRange (UInt8.ofNat m)).2.toNat := by
  have h (n : Nat) (hn : n < 256) : UInt8.ofNat m = UInt8.ofNat n ↔ m = n := by
    rw [← UInt8.toNat_inj, UInt8.toNat_ofNat', UInt8.toNat_ofNat', Nat.mod_eq_of_lt hm, Nat.mod_eq_of_lt hn]
  have h1 : UInt8.ofNat m = 0xe0 ↔ m = 0xe0 := h 0xe0 (by decide)
  have h2 : UInt8.ofNat m = 0xed ↔ m = 0xed := h 0xed (by decide)
  have h3 : UInt8.ofNat m = 0xf0 ↔ m = 0xf0 := h 0xf0 (by decide)
  have h4 : UInt8.ofNat m = 0xf4 ↔ m = 0xf4 := h 0xf4 (by decide)
  simp only [secondRange, h1, h2, h3, h4]
  split
  · next c => exact ⟨he0 c, hk.2⟩
  split
  · next c => exact ⟨hk.1, hed c⟩
  split
  · next c => exact ⟨hf0 c, hk.2⟩
  split
  · next c => exact ⟨hk.1, hf4 c⟩
  · exact hk

/-- An octet in the range that may follow is taken into the character. -/
theorem decodeTail_ofNat {n code k : Nat} {range : UInt8 × UInt8} {rest : List UInt8} (hk : 0x80 ≤ k ∧ k ≤ 0xbf)
    (hr : range.1.toNat ≤ k ∧ k ≤ range.2.toNat) :
    decodeTail (n + 1) code range (UInt8.ofNat k :: rest) = decodeTail n (code * 64 + (k - 0x80)) (0x80, 0xbf) rest := by
  have hn : (UInt8.ofNat k).toNat = k := by rw [UInt8.toNat_ofNat', Nat.mod_eq_of_lt (by omega)]
  obtain ⟨low, high⟩ := range
  have hc : (low ≤ UInt8.ofNat k && UInt8.ofNat k ≤ high) = true := by
    rw [Bool.and_eq_true, decide_eq_true_eq, decide_eq_true_eq, UInt8.le_iff_toNat_le, UInt8.le_iff_toNat_le, hn]
    exact hr
  rw [decodeTail, if_pos hc, hn]

/-- What a first octet begins, by its number. -/
theorem lead?_ofNat {m : Nat} (hm : m < 256) :
    lead? (UInt8.ofNat m) =
      if m < 0x80 then some (0, m) else if 0xc2 ≤ m ∧ m ≤ 0xdf then some (1, m - 0xc0)
      else if 0xe0 ≤ m ∧ m ≤ 0xef then some (2, m - 0xe0) else if 0xf0 ≤ m ∧ m ≤ 0xf4 then some (3, m - 0xf0) else none := by
  have hn : (UInt8.ofNat m).toNat = m := by rw [UInt8.toNat_ofNat', Nat.mod_eq_of_lt hm]
  simp only [lead?, UInt8.lt_iff_toNat_lt, UInt8.le_iff_toNat_le, hn, UInt8.reduceToNat, Bool.and_eq_true,
    decide_eq_true_eq]

/-- A character is read from its octets, whatever follows them. -/
theorem decode_encodeChar (c : Char) (rest : List UInt8) :
    decode (String.utf8EncodeChar c ++ rest) = c :: decode rest := by
  have hc : Char.ofNat c.val.toNat = c := Char.ofNat_toNat c
  have hvalid : c.val.toNat < 0xd800 ∨ 0xdfff < c.val.toNat ∧ c.val.toNat < 0x110000 := c.valid
  simp only [String.utf8EncodeChar]
  generalize c.val.toNat = v at hc hvalid ⊢
  split
  · rw [List.singleton_append, decode, lead?_ofNat (by omega), if_pos (by omega)]
    simp only [decodeTail, hc]
  · split
    · rw [List.cons_append, decode, lead?_ofNat (by omega), if_neg (by omega), if_pos (by omega)]
      simp only [List.cons_append, List.nil_append]
      rw [decodeTail_ofNat (by omega) (mem_secondRange (by omega) (by omega) (by omega) (by omega) (by omega) (by omega))]
      simp only [decodeTail]
      rw [show (v / 64 % 32 + 192 - 192) * 64 + (v % 64 + 128 - 128) = v by omega, hc]
    · split
      · rw [List.cons_append, decode, lead?_ofNat (by omega), if_neg (by omega), if_neg (by omega), if_pos (by omega)]
        simp only [List.cons_append, List.nil_append]
        rw [decodeTail_ofNat (by omega) (mem_secondRange (by omega) (by omega) (by omega) (by omega) (by omega) (by omega)),
          decodeTail_ofNat (by omega) (by simp only [UInt8.reduceToNat]; omega)]
        simp only [decodeTail]
        rw [show ((v / 4096 % 16 + 224 - 224) * 64 + (v / 64 % 64 + 128 - 128)) * 64 + (v % 64 + 128 - 128) = v by omega, hc]
      · rw [List.cons_append, decode, lead?_ofNat (by omega), if_neg (by omega), if_neg (by omega), if_neg (by omega),
          if_pos (by omega)]
        simp only [List.cons_append, List.nil_append]
        rw [decodeTail_ofNat (by omega) (mem_secondRange (by omega) (by omega) (by omega) (by omega) (by omega) (by omega)),
          decodeTail_ofNat (by omega) (by simp only [UInt8.reduceToNat]; omega),
          decodeTail_ofNat (by omega) (by simp only [UInt8.reduceToNat]; omega)]
        simp only [decodeTail]
        rw [show (((v / 262144 % 8 + 240 - 240) * 64 + (v / 4096 % 64 + 128 - 128)) * 64 + (v / 64 % 64 + 128 - 128)) * 64
          + (v % 64 + 128 - 128) = v by omega, hc]

/-- Characters are read from their octets. -/
theorem decode_encode (s : List Char) : decode (encode s) = s := by
  induction s with
  | nil => rw [encode_nil, decode]
  | cons c s ih => rw [encode_cons, decode_encodeChar, ih]

/-- A text comes back from its octets, also where any octets are read. -/
theorem ofOctets_octets (s : String) : ofOctets (octets s) = s := by
  rw [ofOctets, octets, decode_encode, String.ofList_toList]

end ControlPlane.Text
