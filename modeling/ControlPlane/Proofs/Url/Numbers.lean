import ControlPlane.Proofs.Text.Digits
import ControlPlane.Proofs.Url.Domains
import ControlPlane.Url.Host

/-!
# Addresses of both versions

The text of a version 6 address is read back piece by piece, with the zeros that two colons stand for (`Host.ipv6?_ipv6Text`), and that
of a version 4 address is a domain (`Host.toAscii?_dots`) from which its number is read back (`Host.ipv4?_dots`).
-/

namespace ControlPlane.Url.Host

/-! ## Version 6 -/

/-- The text of a number in hexadecimal digits has such digits only, and they stand for the number. -/
theorem mapM_value?_toDigits (n : Nat) :
    ∃ ds, (Nat.toDigits 16 n).mapM Text.Hex.value? = some ds ∧ ds.foldl (fun n d => n * 16 + d) 0 = n := by
  induction n using Nat.strongRecOn with
  | _ n ih =>
    rcases Nat.lt_or_ge n 16 with hlt | hge
    · have hd := Text.Hex.value?_digit n hlt
      rw [Nat.toDigits_of_lt_base hlt]
      exact ⟨[n], by rw [List.mapM_cons, ← Text.Hex.digit, hd]; rfl, Nat.zero_add n⟩
    · obtain ⟨ds, hds, hn⟩ := ih (n / 16) (by omega)
      have hd := Text.Hex.value?_digit (n % 16) (by omega)
      rw [Nat.toDigits_of_base_le (by decide) hge]
      refine ⟨ds ++ [n % 16], ?_, ?_⟩
      · rw [List.mapM_append, hds, List.mapM_cons, ← Text.Hex.digit, hd]
        rfl
      · rw [List.foldl_append, hn, List.foldl_cons, List.foldl_nil]
        omega

/-- A piece is read as it is written. -/
theorem piece?_toDigits {n : Nat} (h : n < 2 ^ 16) : piece? (Nat.toDigits 16 n) = some n := by
  obtain ⟨ds, hds, hn⟩ := mapM_value?_toDigits n
  have hlength : (Nat.toDigits 16 n).length ≤ 4 := (Nat.length_toDigits_le_iff (by decide) (by decide)).mpr h
  have hempty : (Nat.toDigits 16 n).isEmpty = false := by simp
  rw [piece?, hds, hempty, Bool.false_or, if_neg (by rw [decide_eq_true_eq]; omega)]
  exact congrArg some hn

/-- A piece is written in hexadecimal digits. -/
theorem mem_toDigits {n : Nat} {c : Char} (h : c ∈ Nat.toDigits 16 n) : ∃ d < 16, c = Nat.digitChar d := by
  induction n using Nat.strongRecOn with
  | _ n ih =>
    rcases Nat.lt_or_ge n 16 with hlt | hge
    · rw [Nat.toDigits_of_lt_base hlt, List.mem_singleton] at h
      exact ⟨n, hlt, h⟩
    · rw [Nat.toDigits_of_base_le (by decide) hge, List.mem_append, List.mem_singleton] at h
      rcases h with h | h
      · exact ih (n / 16) (by omega) h
      · exact ⟨n % 16, by omega, h⟩

/-- What is computed to hold of all hexadecimal digits holds in a piece. -/
theorem forall_hexDigit {P : Char → Prop} (h : ∀ d < 16, P (Nat.digitChar d)) {n : Nat} : ∀ c ∈ Nat.toDigits 16 n, P c := by
  intro c hc
  obtain ⟨d, hd, rfl⟩ := mem_toDigits hc
  exact h d hd

/-- Pieces with a colon between them. -/
def colons (pieces : List Nat) : List Char := [':'].intercalate (pieces.map (Nat.toDigits 16))

theorem toList_shown (pieces : List Nat) : (":".intercalate (pieces.map hexText)).toList = colons pieces := by
  rw [String.toList_intercalate, List.map_map, colons]
  exact congrArg _ (List.map_congr_left fun n _ => String.toList_ofList)

/-- Pieces are read one by one. -/
theorem go_toDigits (lastMayBeIpv4 : Bool) {pieces : List Nat} (h : ∀ n ∈ pieces, n < 2 ^ 16) :
    pieces?.go lastMayBeIpv4 (pieces.map (Nat.toDigits 16)) = some pieces := by
  induction pieces with
  | nil => rfl
  | cons n pieces ih =>
    have hn := piece?_toDigits (h n List.mem_cons_self)
    have hrest := ih fun m hm => h m (List.mem_cons_of_mem n hm)
    cases pieces with
    | nil =>
      have hdot : (Nat.toDigits 16 n).contains '.' = false := by
        refine Bool.eq_false_iff.mpr fun hd => ?_
        exact forall_hexDigit (P := (· ≠ '.')) (by decide) _ (List.contains_iff_mem.mp hd) rfl
      rw [List.map_cons, List.map_nil, pieces?.go, hdot, Bool.and_false, if_neg (by decide), hn]
      rfl
    | cons m pieces =>
      rw [List.map_cons] at hrest
      rw [List.map_cons, List.map_cons, pieces?.go, hn, hrest]
      · rfl
      · exact List.cons_ne_nil _ _

/-- Pieces with a colon between them are read. -/
theorem pieces?_colons (lastMayBeIpv4 : Bool) {pieces : List Nat} (h : ∀ n ∈ pieces, n < 2 ^ 16) :
    pieces? lastMayBeIpv4 (colons pieces) = some pieces := by
  cases pieces with
  | nil => rfl
  | cons n pieces =>
    have hempty : (colons (n :: pieces)).isEmpty = false := by
      rw [colons, List.map_cons, Text.intercalate_cons]
      simp
    have hsplit : Text.split (· == ':') (colons (n :: pieces)) = (n :: pieces).map (Nat.toDigits 16) := by
      rw [colons, List.map_cons, Text.intercalate_cons]
      refine Text.split_parts (by decide) (forall_hexDigit (by decide)) fun p hp => ?_
      obtain ⟨m, -, rfl⟩ := List.mem_map.mp hp
      exact forall_hexDigit (by decide)
    rw [pieces?, hempty, if_neg (by decide), hsplit]
    exact go_toDigits lastMayBeIpv4 h

/-! ### The gap -/

/-- No gap begins where there is no colon. -/
theorem splitGap_append {part : List Char} (h : ∀ c ∈ part, c ≠ ':') (s : List Char) :
    splitGap (part ++ s) = (splitGap s).map (Prod.map (part ++ ·) id) := by
  induction part with
  | nil => exact Option.map_id'.symm
  | cons c part ih =>
    have hc := h c List.mem_cons_self
    rw [List.cons_append, splitGap, ih fun d hd => h d (List.mem_cons_of_mem c hd), Option.map_map]
    · rfl
    · exact fun rest hr => absurd hr hc

/-- A colon before something else is no gap. -/
theorem splitGap_cons {s : List Char} (h : ∀ t, s ≠ ':' :: t) : splitGap (':' :: s) = (splitGap s).map (Prod.map (':' :: ·) id) := by
  rw [splitGap]
  · rfl
  · exact fun rest _ hr => absurd hr (h rest)

/-- There is no gap among parts with one colon before each. -/
theorem splitGap_flatMap {parts : List (List Char)} (h : ∀ p ∈ parts, p ≠ [] ∧ ∀ c ∈ p, c ≠ ':') (s : List Char) :
    splitGap (parts.flatMap (':' :: ·) ++ s) = (splitGap s).map (Prod.map (parts.flatMap (':' :: ·) ++ ·) id) := by
  induction parts with
  | nil => exact Option.map_id'.symm
  | cons p parts ih =>
    obtain ⟨hne, hp⟩ := h p List.mem_cons_self
    have hstart : ∀ t, p ++ (parts.flatMap (':' :: ·) ++ s) ≠ ':' :: t := by
      intro t ht
      cases p with
      | nil => exact hne rfl
      | cons c p => exact hp c List.mem_cons_self (List.cons.inj ht).1
    rw [List.flatMap_cons, List.cons_append, List.cons_append, List.append_assoc, splitGap_cons hstart, splitGap_append hp,
      ih fun q hq => h q (List.mem_cons_of_mem p hq), Option.map_map, Option.map_map]
    congr 1
    funext ⟨before, after⟩
    simp

/-- There is no gap in pieces with a colon between them. -/
theorem splitGap_colons (pieces : List Nat) (s : List Char) :
    splitGap (colons pieces ++ s) = (splitGap s).map (Prod.map (colons pieces ++ ·) id) := by
  cases pieces with
  | nil => exact Option.map_id'.symm
  | cons n pieces =>
    have hparts : ∀ p ∈ pieces.map (Nat.toDigits 16), p ≠ [] ∧ ∀ c ∈ p, c ≠ ':' := by
      intro p hp
      obtain ⟨m, -, rfl⟩ := List.mem_map.mp hp
      exact ⟨Nat.toDigits_ne_nil, forall_hexDigit (by decide)⟩
    rw [colons, List.map_cons, Text.intercalate_cons, List.append_assoc, splitGap_append (forall_hexDigit (by decide)),
      splitGap_flatMap hparts, Option.map_map]
    congr 1
    funext ⟨before, after⟩
    simp

/-- The zeros that are found in a row are there. -/
theorem zeroRun_zeros (pieces : List Nat) :
    (pieces.drop (zeroRun pieces).1).take (zeroRun pieces).2 = List.replicate (zeroRun pieces).2 0 := by
  unfold zeroRun
  generalize List.range pieces.length = starts
  have hall : ∀ best : Nat × Nat, (pieces.drop best.1).take best.2 = List.replicate best.2 0 →
      (fun r : Nat × Nat => (pieces.drop r.1).take r.2 = List.replicate r.2 0) (starts.foldl (fun best i =>
        let length := ((pieces.drop i).takeWhile (· == 0)).length
        if best.2 < length then (i, length) else best) best) := by
    induction starts with
    | nil => exact fun best h => h
    | cons i starts ih =>
      intro best h
      refine ih _ ?_
      dsimp only
      split
      · have hall : ((pieces.drop i).takeWhile (· == 0)).all (· == 0) = true := List.all_takeWhile
        rw [← List.prefix_iff_eq_take.mp (List.takeWhile_prefix _)]
        exact List.eq_replicate_iff.mpr ⟨rfl, fun n hn => beq_iff_eq.mp (List.all_eq_true.mp hall n hn)⟩
      · exact h
  exact hall (0, 0) rfl

/-- The pieces around the zeros. -/
theorem eq_zeroRun (pieces : List Nat) :
    pieces = pieces.take (zeroRun pieces).1 ++ (List.replicate (zeroRun pieces).2 0 ++
      pieces.drop ((zeroRun pieces).1 + (zeroRun pieces).2)) := by
  rw [← zeroRun_zeros, ← List.drop_drop, List.take_append_drop, List.take_append_drop]

/-- Two colons stand for the zeros that are missing. -/
theorem ipv6?_gap (before after : List Nat) {zeros : Nat} (hzeros : 0 < zeros)
    (hl : (before ++ (List.replicate zeros 0 ++ after)).length = 8) (hb : ∀ n ∈ before, n < 2 ^ 16) (ha : ∀ n ∈ after, n < 2 ^ 16) :
    ipv6? (colons before ++ ':' :: ':' :: colons after) = some (before ++ (List.replicate zeros 0 ++ after)) := by
  have hgap : splitGap (colons before ++ ':' :: ':' :: colons after) = some (colons before, colons after) := by
    rw [splitGap_colons, splitGap, Option.map_some, Prod.map, List.append_nil, id]
  rw [List.length_append, List.length_append, List.length_replicate] at hl
  have hmissing : 8 - before.length - after.length = zeros := by omega
  rw [ipv6?, hgap]
  simp only [pieces?_colons false hb, pieces?_colons true ha, Option.bind_eq_bind, Option.bind_some, hmissing]
  rw [if_pos (by omega), List.append_assoc]

/-- Pieces are read as they are written. -/
theorem ipv6?_ipv6Text {pieces : List Nat} (hl : pieces.length = 8) (h : ∀ n ∈ pieces, n < 2 ^ 16) :
    ipv6? (ipv6Text pieces).toList = some pieces := by
  have hzeros := eq_zeroRun pieces
  unfold ipv6Text
  generalize zeroRun pieces = run at hzeros
  obtain ⟨start, length⟩ := run
  dsimp only at hzeros ⊢
  split
  · have hgap : splitGap (colons pieces) = none := by
      rw [← List.append_nil (colons pieces), splitGap_colons]
      rfl
    rw [toList_shown, ipv6?, hgap, pieces?_colons true h]
    exact if_pos hl
  · next hlong =>
    have hread := ipv6?_gap (pieces.take start) (pieces.drop (start + length)) (show 0 < length by omega)
      (by rw [← hzeros, hl]) (fun n hn => h n (List.mem_of_mem_take hn)) (fun n hn => h n (List.mem_of_mem_drop hn))
    rw [String.toList_append, String.toList_append, toList_shown, toList_shown, List.append_assoc]
    rwa [← hzeros] at hread

/-- What is written between the brackets of an address. -/
theorem mem_ipv6Text {pieces : List Nat} {c : Char} (h : c ∈ (ipv6Text pieces).toList) : c = ':' ∨ ∃ d < 16, c = Nat.digitChar d := by
  have hcolons {ps : List Nat} (h : c ∈ colons ps) : c = ':' ∨ ∃ d < 16, c = Nat.digitChar d := by
    cases ps with
    | nil => cases h
    | cons n ps =>
      rw [colons, List.map_cons, Text.intercalate_cons, List.mem_append, List.mem_flatMap] at h
      rcases h with h | ⟨p, hp, h⟩
      · exact Or.inr (mem_toDigits h)
      · obtain ⟨m, -, rfl⟩ := List.mem_map.mp hp
        rcases List.mem_cons.mp h with rfl | h
        · exact Or.inl rfl
        · exact Or.inr (mem_toDigits h)
  unfold ipv6Text at h
  dsimp only at h
  split at h
  · rw [toList_shown] at h
    exact hcolons h
  · rw [String.toList_append, String.toList_append, toList_shown, toList_shown, List.mem_append, List.mem_append] at h
    rcases h with (h | h) | h
    · exact hcolons h
    · exact Or.inl (by simpa using h)
    · exact hcolons h

/-! ### What is read as pieces -/

theorem value?_lt {c : Char} {d : Nat} (h : Text.Hex.value? c = some d) : d < 16 := by
  unfold Text.Hex.value? at h
  simp only [Char.le_def, UInt32.le_iff_toNat_le] at h
  split at h
  · next hc =>
    have := (Decimal.digit_lt hc).2
    cases h
    omega
  · split at h
    · next hc =>
      have hf : c.toNat ≤ 'f'.toNat := hc.2
      have h102 : 'f'.toNat = 102 := rfl
      cases h
      omega
    · split at h
      · next hc =>
        have hf : c.toNat ≤ 'F'.toNat := hc.2
        have h70 : 'F'.toNat = 70 := rfl
        cases h
        omega
      · cases h

/-- Digits stand for less than the power of sixteen of their number. -/
theorem foldl_lt {ds : List Nat} (h : ∀ d ∈ ds, d < 16) (n : Nat) :
    ds.foldl (fun n d => n * 16 + d) n < (n + 1) * 16 ^ ds.length := by
  induction ds generalizing n with
  | nil => exact Nat.lt_of_lt_of_le (Nat.lt_succ_self n) (Nat.le_of_eq (Nat.mul_one _).symm)
  | cons d ds ih =>
    have hd := h d List.mem_cons_self
    have hi := ih (fun e he => h e (List.mem_cons_of_mem d he)) (n * 16 + d)
    have hle := Nat.mul_le_mul_right (16 ^ ds.length) (show n * 16 + d + 1 ≤ (n + 1) * 16 by omega)
    rw [List.foldl_cons, List.length_cons, Nat.pow_succ, Nat.mul_comm (16 ^ ds.length), ← Nat.mul_assoc]
    exact Nat.lt_of_lt_of_le hi hle

theorem piece?_lt {s : List Char} {n : Nat} (h : piece? s = some n) : n < 2 ^ 16 := by
  rw [piece?] at h
  split at h
  · cases h
  · next hs =>
    have hshort : s.length ≤ 4 := by
      simp only [Bool.or_eq_true, decide_eq_true_eq, not_or] at hs
      omega
    obtain ⟨ds, hds, hn⟩ := Option.bind_eq_some_iff.mp h
    cases hn
    have hdigits : ∀ d ∈ ds, d < 16 := by
      intro d hd
      obtain ⟨c, -, hc⟩ := exists_of_mapM hds hd
      exact value?_lt hc
    have hlt := foldl_lt hdigits 0
    have hpow : 16 ^ ds.length ≤ 16 ^ 4 :=
      Nat.pow_le_pow_right (by decide) (by rw [← (forall₂_of_mapM hds).length_eq]; exact hshort)
    omega

theorem decimalPart?_le {s : List Char} {n : Nat} (h : decimalPart? s = some n) : n ≤ 255 := by
  rw [decimalPart?] at h
  split at h
  · cases h
  · dsimp only at h
    split at h
    · next hn =>
      cases h
      exact hn
    · cases h

theorem embedded?_lt {s : List Char} {pieces : List Nat} (h : embedded? s = some pieces) : ∀ n ∈ pieces, n < 2 ^ 16 := by
  obtain ⟨parts, hparts, h⟩ := Option.bind_eq_some_iff.mp h
  have hle : ∀ n ∈ parts, n ≤ 255 := by
    intro n hn
    obtain ⟨s, -, hs⟩ := exists_of_mapM hparts hn
    exact decimalPart?_le hs
  split at h
  · next a b c d =>
    cases h
    have ha := hle a (by simp)
    have hb := hle b (by simp)
    have hc := hle c (by simp)
    have hd := hle d (by simp)
    intro n hn
    simp only [List.mem_cons, List.not_mem_nil, or_false] at hn
    omega
  · cases h

theorem go_lt {lastMayBeIpv4 : Bool} {parts : List (List Char)} {pieces : List Nat}
    (h : pieces?.go lastMayBeIpv4 parts = some pieces) : ∀ n ∈ pieces, n < 2 ^ 16 := by
  induction parts generalizing pieces with
  | nil =>
    cases h
    exact fun n hn => absurd hn List.not_mem_nil
  | cons p parts ih =>
    cases parts with
    | nil =>
      rw [pieces?.go] at h
      split at h
      · exact embedded?_lt h
      · obtain ⟨n, hn, rfl⟩ := Option.map_eq_some_iff.mp h
        exact fun m hm => List.mem_singleton.mp hm ▸ piece?_lt hn
    | cons q parts =>
      rw [pieces?.go] at h
      · obtain ⟨n, hn, h⟩ := Option.bind_eq_some_iff.mp h
        obtain ⟨ns, hns, h⟩ := Option.bind_eq_some_iff.mp h
        cases h
        intro m hm
        rcases List.mem_cons.mp hm with rfl | hm
        · exact piece?_lt hn
        · exact ih hns m hm
      · exact List.cons_ne_nil _ _

theorem pieces?_lt {lastMayBeIpv4 : Bool} {s : List Char} {pieces : List Nat} (h : pieces? lastMayBeIpv4 s = some pieces) :
    ∀ n ∈ pieces, n < 2 ^ 16 := by
  rw [pieces?] at h
  split at h
  · cases h
    exact fun n hn => absurd hn List.not_mem_nil
  · exact go_lt h

/-- A version 6 address has eight pieces of 16 bits. -/
theorem of_ipv6? {s : List Char} {pieces : List Nat} (h : ipv6? s = some pieces) : pieces.length = 8 ∧ ∀ n ∈ pieces, n < 2 ^ 16 := by
  rw [ipv6?] at h
  split at h
  · obtain ⟨ns, hns, h⟩ := Option.bind_eq_some_iff.mp h
    split at h
    · next hl =>
      cases h
      exact ⟨hl, pieces?_lt hns⟩
    · cases h
  · obtain ⟨first, hfirst, h⟩ := Option.bind_eq_some_iff.mp h
    obtain ⟨last, hlast, h⟩ := Option.bind_eq_some_iff.mp h
    split at h
    · next hl =>
      cases h
      refine ⟨by simp; omega, fun n hn => ?_⟩
      rcases List.mem_append.mp hn with hn | hn
      · rcases List.mem_append.mp hn with hn | hn
        · exact pieces?_lt hfirst n hn
        · rw [(List.mem_replicate.mp hn).2]
          decide
      · exact pieces?_lt hlast n hn
    · cases h

/-! ## Version 4 -/

/-- Parts of numbers with a dot between them. -/
def dots (parts : List Nat) : List Char := ['.'].intercalate (parts.map (Nat.toDigits 10))

/-- The four parts of a version 4 address. -/
def ipv4Bytes (n : Nat) : List Nat := [3, 2, 1, 0].map fun i => n / Nat.pow 256 i % 256

theorem toList_ipv4Text (n : Nat) : (ipv4Text n).toList = dots (ipv4Bytes n) := by
  rw [ipv4Text, String.toList_intercalate, dots, ipv4Bytes, List.map_map, List.map_map]
  exact congrArg _ (List.map_congr_left fun i _ => by rw [Function.comp, Nat.toString_eq_repr, Nat.toList_repr]; rfl)

theorem ipv4Text_ne_nil (n : Nat) : (ipv4Text n).toList ≠ [] := by
  rw [toList_ipv4Text, ipv4Bytes, List.map_cons, dots, List.map_cons, Text.intercalate_cons]
  exact List.append_ne_nil_of_left_ne_nil Nat.toDigits_ne_nil _

theorem split_dots (first : Nat) (rest : List Nat) :
    Text.split (· == '.') (dots (first :: rest)) = (first :: rest).map (Nat.toDigits 10) := by
  have hdigit : ∀ n, ∀ c ∈ Nat.toDigits 10 n, (c == '.') = false := by
    intro n c hc
    refine beq_eq_false_iff_ne.mpr fun he => ?_
    have hd := Decimal.isDigit_of_mem hc
    rw [he] at hd
    cases hd
  rw [dots, List.map_cons, Text.intercalate_cons]
  refine Text.split_parts (by decide) (hdigit first) fun p hp => ?_
  obtain ⟨m, -, rfl⟩ := List.mem_map.mp hp
  exact hdigit m

theorem mem_dots {parts : List Nat} {c : Char} (h : c ∈ dots parts) : c = '.' ∨ c.isDigit = true := by
  cases parts with
  | nil => cases h
  | cons first rest =>
    rw [dots, List.map_cons, Text.intercalate_cons, List.mem_append, List.mem_flatMap] at h
    rcases h with h | ⟨p, hp, h⟩
    · exact Or.inr (Decimal.isDigit_of_mem h)
    · obtain ⟨m, -, rfl⟩ := List.mem_map.mp hp
      rcases List.mem_cons.mp h with rfl | h
      · exact Or.inl rfl
      · exact Or.inr (Decimal.isDigit_of_mem h)

/-- Digits and dots stand for themselves in a domain. -/
theorem dot_or_digit_plain {c : Char} (h : c = '.' ∨ c.isDigit = true) :
    c.toNat < 0x80 ∧ c.toLower = c ∧ Domain.isForbidden c = false ∧ c ≠ '%' ∧ c ≠ '[' := by
  have ha : c.toNat < 0x80 := by
    rcases h with rfl | h
    · decide
    · have := (Decimal.digit_lt h).2
      omega
  revert h
  exact forall_ascii (P := fun c => (c = '.' ∨ c.isDigit = true) →
    c.toNat < 0x80 ∧ c.toLower = c ∧ Domain.isForbidden c = false ∧ c ≠ '%' ∧ c ≠ '[') (by decide +kernel) ha

/-- Numbers with dots between them are a domain. -/
theorem toAscii?_dots (first : Nat) (rest : List Nat) :
    Domain.toAscii? (Text.encode (dots (first :: rest))) = some (dots (first :: rest)) := by
  refine Domain.toAscii?_of_plain (fun c hc => ?_) fun part hp => ?_
  · obtain ⟨h1, h2, h3, -⟩ := dot_or_digit_plain (mem_dots hc)
    exact ⟨h1, h2, h3⟩
  · rw [split_dots] at hp
    obtain ⟨m, -, rfl⟩ := List.mem_map.mp hp
    cases hm : Nat.toDigits 10 m with
    | nil => exact absurd hm Nat.toDigits_ne_nil
    | cons c t =>
      have hd : c.isDigit = true := Decimal.isDigit_of_mem (hm ▸ List.mem_cons_self)
      have hx : ('x' == c) = false := by
        refine beq_eq_false_iff_ne.mpr fun he => ?_
        rw [← he] at hd
        cases hd
      rw [Domain.Label.asciiMark, List.isPrefixOf, hx, Bool.false_and]

theorem ipv4Parts_dots (first : Nat) (rest : List Nat) : ipv4Parts (dots (first :: rest)) = (first :: rest).map (Nat.toDigits 10) := by
  have hlast : ((first :: rest).map (Nat.toDigits 10)).getLast? ≠ some [] := by
    rw [List.getLast?_map]
    intro h
    obtain ⟨m, -, hm⟩ := Option.map_eq_some_iff.mp h
    exact Nat.toDigits_ne_nil hm
  rw [ipv4Parts, split_dots]
  exact if_neg fun h => hlast h.2

theorem ipv4Part_toDigits : ∀ n < 256, ipv4Part (Nat.toDigits 10 n) = some (some n) := by decide +kernel

theorem endsInNumber_dots (first : Nat) (rest : List Nat) : endsInNumber (dots (first :: rest)) = true := by
  rw [endsInNumber, ipv4Parts_dots, List.getLast?_map]
  cases hl : (first :: rest).getLast? with
  | none => exact absurd (List.getLast?_eq_none_iff.mp hl) (List.cons_ne_nil _ _)
  | some n =>
    have hd : (Nat.toDigits 10 n).all Char.isDigit = true := List.all_eq_true.mpr fun c => Decimal.isDigit_of_mem
    simp [hd]

/-- The number of four parts. -/
theorem ipv4?_dots {a b c d : Nat} (ha : a < 256) (hb : b < 256) (hc : c < 256) (hd : d < 256) :
    ipv4? (dots [a, b, c, d]) = some (d + a * 256 ^ 3 + b * 256 ^ 2 + c * 256) := by
  have hnumbers : ([a, b, c, d].map (Nat.toDigits 10)).mapM (fun p => (ipv4Part p).join) = some [a, b, c, d] := by
    rw [List.mapM_map]
    refine (mapM_eq_some fun n hn => ?_).trans (congrArg some (List.map_id _))
    have hn : n < 256 := by
      simp only [List.mem_cons, List.not_mem_nil, or_false] at hn
      omega
    rw [Function.comp, ipv4Part_toDigits n hn]
    rfl
  have hbefore : [a, b, c].any (255 < ·) = false := by simp; omega
  have hlast : ¬Nat.pow 256 (4 - [a, b, c].length) ≤ d := by
    rw [show Nat.pow 256 (4 - [a, b, c].length) = 256 from rfl]
    omega
  rw [ipv4?, ipv4Parts_dots]
  simp only [hnumbers, Option.bind_eq_bind, Option.bind_some, show [a, b, c, d].getLast? = some d from rfl,
    show [a, b, c, d].dropLast = [a, b, c] from rfl, hbefore, decide_eq_false hlast]
  rw [if_neg (by simp), if_neg (by decide)]
  simp [List.zipIdx, Nat.pow_eq]

end ControlPlane.Url.Host
