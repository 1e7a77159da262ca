import ControlPlane.Proofs.Url.Numbers

/-!
# Hosts are read as they are written

Addresses of both versions are read as they are written (`Host.isReadable_of_isRead`), and so is every host from a text of ordinary
characters, unless its name is too long (`Host.isReadable_of_ordinary`).
-/

namespace ControlPlane.Url.Host

/-! ## From domains to hosts -/

/-- A text without percent signs has no percent forms. -/
theorem percentDecode_encode {s : List Char} (h : '%' ∉ s) : percentDecode (Text.encode s) = Text.encode s := by
  have hb : ∀ b ∈ Text.encode s, b ≠ 0x25 := by
    intro b hb hp
    obtain ⟨c, hc, hb⟩ := List.mem_flatMap.mp hb
    rcases Nat.lt_or_ge c.toNat 0x80 with ha | ha
    · rw [Text.encodeChar_ascii ha, List.mem_singleton] at hb
      have hn : c.toNat = 0x25 := by
        have he := congrArg UInt8.toNat (hb.symm.trans hp)
        rw [UInt8.toNat_ofNat', Nat.mod_eq_of_lt (by omega)] at he
        exact he
      have hc' : c = '%' := by rw [← Char.ofNat_toNat c, hn]
      exact h (hc' ▸ hc)
    · have hle := Text.le_of_mem_encodeChar ha hb
      rw [hp] at hle
      exact absurd hle (by decide)
  clear h
  generalize Text.encode s = octets at hb
  induction octets with
  | nil => exact percentDecode.eq_3
  | cons b octets ih =>
    rw [percentDecode_cons_of_ne (hb b List.mem_cons_self), ih fun c hc => hb c (List.mem_cons_of_mem b hc)]

/-- A domain that is written as it stands is the text of a host. -/
theorem ofSpecial_domain {s : List Char} (hne : s ≠ []) (hs : ∀ c ∈ s, c ≠ '%' ∧ c ≠ '[')
    (hd : Domain.toAscii? (Text.encode s) = some s) :
    ofSpecial s = if endsInNumber s then
      match ipv4? s with
      | some n => .ok (.ipv4 n)
      | none => .error .invalidIpv4
    else .ok (.name (String.ofList s)) := by
  rw [ofSpecial, percentDecode_encode fun hp => (hs _ hp).1 rfl, hd]
  · cases s with
    | nil => exact absurd rfl hne
    | cons c s => rfl
  · intro rest hr
    exact (hs '[' (hr ▸ List.mem_cons_self)).2 rfl

/-- An address of version 6 stands between brackets. -/
theorem toList_text_ipv6 (pieces : List Nat) : (Host.ipv6 pieces).text.toList = '[' :: ((ipv6Text pieces).toList ++ [']']) := by
  rw [text, String.toList_append, String.toList_append]
  rfl

/-- An address of version 6 is read as it is written. -/
theorem ofSpecial_ipv6 {pieces : List Nat} (hl : pieces.length = 8) (h : ∀ n ∈ pieces, n < 2 ^ 16) :
    ofSpecial (Host.ipv6 pieces).text.toList = .ok (.ipv6 pieces) := by
  rw [toList_text_ipv6, ofSpecial, bracketed, List.getLast?_concat, List.dropLast_concat, ipv6?_ipv6Text hl h]
  rfl

/-- An address of version 4 has 32 bits, and is read as it is written. -/
theorem ofSpecial_ipv4 (n : Nat) : ofSpecial (Host.ipv4 n).text.toList = .ok (.ipv4 (n % 2 ^ 32)) := by
  have hb : ∀ i, n / Nat.pow 256 i % 256 < 256 := fun i => Nat.mod_lt _ (by decide)
  have hnumber : n / Nat.pow 256 0 % 256 + n / Nat.pow 256 3 % 256 * 256 ^ 3 + n / Nat.pow 256 2 % 256 * 256 ^ 2 +
      n / Nat.pow 256 1 % 256 * 256 = n % 2 ^ 32 := by
    simp only [Nat.pow_eq]
    omega
  have hread : ipv4? (dots (ipv4Bytes n)) = some (n % 2 ^ 32) :=
    (ipv4?_dots (hb 3) (hb 2) (hb 1) (hb 0)).trans (congrArg some hnumber)
  have hnumeric : endsInNumber (dots (ipv4Bytes n)) = true := endsInNumber_dots _ _
  have hne : dots (ipv4Bytes n) ≠ [] := toList_ipv4Text n ▸ ipv4Text_ne_nil n
  have hplain : ∀ c ∈ dots (ipv4Bytes n), c ≠ '%' ∧ c ≠ '[' := fun c hc => (dot_or_digit_plain (mem_dots hc)).2.2.2
  rw [text, toList_ipv4Text, ofSpecial_domain hne hplain (toAscii?_dots _ _), if_pos hnumeric, hread]

/-! ## What hosts are read -/

/-- Whether a host can be read as it is written. -/
def IsReadable (h : Host) : Prop := ∃ g, ofSpecial h.text.toList = .ok g

/-- Whether a host is like one that was read: no name is empty or has a forbidden character, and version 6 has eight pieces. -/
def IsRead : Host → Prop
  | name s => s ≠ "" ∧ ∀ c ∈ s.toList, Domain.isForbidden c = false
  | ipv4 _ => True
  | ipv6 pieces => pieces.length = 8 ∧ ∀ n ∈ pieces, n < 2 ^ 16

theorem bracketed_cases {s : List Char} {h : Host} (hr : bracketed s = .ok h) : ∃ pieces, h = .ipv6 pieces ∧ h.IsRead := by
  unfold bracketed at hr
  split at hr
  · next pieces _ hp =>
    cases hr
    exact ⟨pieces, rfl, of_ipv6? hp⟩
  · cases hr

/-- A host that was read is a number, or the name of a domain that is none. -/
theorem ofSpecial_cases {s : List Char} {h : Host} (hr : ofSpecial s = .ok h) :
    (∃ pieces, h = .ipv6 pieces ∧ h.IsRead) ∨ (∃ n, h = .ipv4 n) ∨
      ∃ domain, h = .name (String.ofList domain) ∧ domain ≠ [] ∧
        Domain.toAscii? (percentDecode (Text.encode s)) = some domain ∧ endsInNumber domain = false := by
  unfold ofSpecial at hr
  split at hr
  · exact Or.inl (bracketed_cases hr)
  · split at hr
    · cases hr
    · cases hr
    · next domain hne hd =>
      split at hr
      · split at hr
        · cases hr
          exact Or.inr (Or.inl ⟨_, rfl⟩)
        · cases hr
      · next hn =>
        cases hr
        exact Or.inr (Or.inr ⟨domain, rfl, fun he => hne (he ▸ rfl), hd, Bool.eq_false_iff.mpr hn⟩)

theorem isRead_of_ofSpecial {s : List Char} {h : Host} (hr : ofSpecial s = .ok h) : h.IsRead := by
  rcases ofSpecial_cases hr with ⟨pieces, rfl, hp⟩ | ⟨n, rfl⟩ | ⟨domain, rfl, hne, hd, -⟩
  · exact hp
  · trivial
  · refine ⟨fun he => hne (String.ofList_eq_empty_iff.mp he), fun c hc => ?_⟩
    rw [String.toList_ofList] at hc
    exact Domain.not_forbidden hd c hc

/-- A number is read as it is written. -/
theorem isReadable_of_isRead {h : Host} (hr : h.IsRead) (hname : ∀ s, h = .name s → h.IsReadable) : h.IsReadable := by
  cases h with
  | name s => exact hname s rfl
  | ipv4 n => exact ⟨_, ofSpecial_ipv4 n⟩
  | ipv6 pieces => exact ⟨_, ofSpecial_ipv6 hr.1 hr.2⟩

/-- A host from a text of ordinary characters is read as it is written, unless its name is too long. From ASCII it may have any
length. -/
theorem isReadable_of_ordinary {s : List Char} {t : String} (ht : Text.ofUtf8? (percentDecode (Text.encode s)) = some t)
    (hordinary : ∀ c ∈ t.toList, Domain.isOrdinary c = true) {h : Host} (hr : ofSpecial s = .ok h)
    (hlength : Domain.isAscii t.toList = true ∨ h.text.length ≤ Domain.Label.longest.2) : h.IsReadable := by
  have hread := isRead_of_ofSpecial hr
  rcases ofSpecial_cases hr with ⟨pieces, rfl, -⟩ | ⟨n, rfl⟩ | ⟨domain, rfl, hne, hd, hn⟩
  · exact isReadable_of_isRead hread fun s hs => by cases hs
  · exact isReadable_of_isRead hread fun s hs => by cases hs
  · have hsame : Domain.toAscii? (Text.encode domain) = some domain := by
      rw [text, String.length_ofList] at hlength
      exact Domain.toAscii?_again ht hordinary hd hlength
    have hplain : ∀ c ∈ domain, c ≠ '%' ∧ c ≠ '[' := by
      intro c hc
      have hf := Domain.not_forbidden hd c hc
      constructor <;> rintro rfl <;> cases hf
    refine ⟨.name (String.ofList domain), ?_⟩
    rw [text, String.toList_ofList, ofSpecial_domain hne hplain hsame, hn]
    rfl

end ControlPlane.Url.Host
