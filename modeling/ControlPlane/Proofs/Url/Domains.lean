import ControlPlane.Proofs.Steps
import ControlPlane.Proofs.Text.Composed
import ControlPlane.Proofs.Url.Encoded
import ControlPlane.Proofs.Url.Punycode
import ControlPlane.Url.Domain

/-!
# Domains in ASCII

The label that is written for ordinary characters is read as it stands (`Domain.Label.of?_again`), and so is a domain
(`Domain.toAscii?_again`). Characters are ordinary where they stand for characters that keep to themselves (`Domain.isOrdinary`); ASCII
characters are. A text of small letters and digits, without a mark of ASCII forms, is a domain (`Domain.toAscii?_of_plain`).
-/

namespace ControlPlane

namespace Text

/-! ## Parts -/

/-- Parts with a mark between them. -/
theorem intercalate_cons {α : Type} (m : α) (part : List α) (parts : List (List α)) :
    [m].intercalate (part :: parts) = part ++ parts.flatMap (m :: ·) := by
  induction parts generalizing part with
  | nil => rw [List.intercalate_singleton, List.flatMap_nil, List.append_nil]
  | cons next parts ih =>
    rw [List.intercalate_cons_cons, ih, List.flatMap_cons, List.append_assoc, List.singleton_append, List.cons_append]

/-- The parts between marks make up the list again. -/
theorem intercalate_split {α : Type} [BEq α] [LawfulBEq α] (m : α) (s : List α) : [m].intercalate (split (· == m) s) = s := by
  cases hs : split (· == m) s with
  | nil =>
    have hl := length_split (· == m) s
    rw [hs, List.length_nil] at hl
    omega
  | cons part parts => rw [eq_of_split hs, intercalate_cons]

/-- What is in a part is in the list. -/
theorem mem_of_mem_split {α : Type} [BEq α] [LawfulBEq α] {m : α} {s part : List α} (h : part ∈ split (· == m) s) {a : α}
    (ha : a ∈ part) : a ∈ s := by
  cases hs : split (· == m) s with
  | nil =>
    rw [hs] at h
    cases h
  | cons first parts =>
    rw [hs, List.mem_cons] at h
    rw [eq_of_split hs, List.mem_append, List.mem_flatMap]
    rcases h with rfl | h
    · exact Or.inl ha
    · exact Or.inr ⟨part, h, List.mem_cons_of_mem m ha⟩

/-- No mark is in a part. -/
theorem not_mem_of_mem_split {α : Type} [BEq α] [LawfulBEq α] {m : α} {s part : List α} (h : part ∈ split (· == m) s) : m ∉ part := by
  induction s generalizing part with
  | nil =>
    rw [split, List.mem_singleton] at h
    exact h ▸ List.not_mem_nil
  | cons a s ih =>
    rw [split] at h
    split at h
    · rcases List.mem_cons.mp h with rfl | h
      · exact List.not_mem_nil
      · exact ih h
    · next ha =>
      split at h
      · next hnone =>
        rw [List.mem_singleton.mp h, List.mem_singleton]
        exact fun hm => ha (by rw [hm]; exact beq_self_eq_true a)
      · next first parts hparts =>
        rcases List.mem_cons.mp h with rfl | h
        · rw [List.mem_cons, not_or]
          exact ⟨fun hm => ha (by rw [hm]; exact beq_self_eq_true a), ih (hparts ▸ List.mem_cons_self)⟩
        · exact ih (hparts ▸ List.mem_cons_of_mem first h)

/-- Parts that are put together with a mark between them are found again. -/
theorem split_intercalate {α : Type} [BEq α] [LawfulBEq α] {m : α} {parts : List (List α)} (hne : parts ≠ [])
    (h : ∀ part ∈ parts, m ∉ part) : split (· == m) ([m].intercalate parts) = parts := by
  have hunmarked {part : List α} (hp : m ∉ part) : ∀ a ∈ part, (a == m) = false := fun a ha =>
    beq_false_of_ne fun he => hp (he ▸ ha)
  cases parts with
  | nil => exact absurd rfl hne
  | cons first parts =>
    rw [intercalate_cons]
    refine split_parts ?_ (hunmarked (h first List.mem_cons_self)) fun part hp => hunmarked (h part (List.mem_cons_of_mem first hp))
    exact beq_self_eq_true m

/-- What is in parts that are put together is a mark, or in a part. -/
theorem mem_intercalate {α : Type} {m a : α} {parts : List (List α)} (h : a ∈ [m].intercalate parts) :
    a = m ∨ ∃ part ∈ parts, a ∈ part := by
  cases parts with
  | nil => cases h
  | cons first parts =>
    rw [intercalate_cons, List.mem_append, List.mem_flatMap] at h
    rcases h with h | ⟨part, hp, h⟩
    · exact Or.inr ⟨first, List.mem_cons_self, h⟩
    · rcases List.mem_cons.mp h with rfl | h
      · exact Or.inl rfl
      · exact Or.inr ⟨part, List.mem_cons_of_mem first hp, h⟩

/-- A part is no longer than the whole. -/
theorem length_le_intercalate {α : Type} (m : α) {part : List α} {parts : List (List α)} (h : part ∈ parts) :
    part.length ≤ ([m].intercalate parts).length := by
  cases parts with
  | nil => cases h
  | cons first parts =>
    rw [intercalate_cons, List.length_append]
    rcases List.mem_cons.mp h with rfl | h
    · exact Nat.le_add_right _ _
    · have hsub : (m :: part).Sublist (parts.flatMap (m :: ·)) := by
        rw [List.flatMap_def]
        exact List.sublist_flatten_of_mem (List.mem_map_of_mem h)
      have hle := hsub.length_le
      rw [List.length_cons] at hle
      omega

end Text

namespace Url.Domain

/-! ## Ordinary characters -/

/-- Whether a character stands, in a domain, for characters that are forms and keep to themselves when text is composed. Great and small
letters do, also with accents, and so do the signs of most scripts; marks that stand alone do not. -/
def isOrdinary (c : Char) : Bool := (form? c).any (·.all fun d => isForm d && Text.isSteady d)

theorem isAscii_iff {s : List Char} : isAscii s = true ↔ ∀ c ∈ s, c.toNat < 0x80 := by
  rw [isAscii, List.all_eq_true]
  simp only [decide_eq_true_eq]

/-- An ASCII character stands for its small letter. -/
theorem form?_ascii {c : Char} (h : c.toNat < 0x80) : form? c = some [c.toLower] := if_pos h

theorem toLower_ascii {c : Char} (h : c.toNat < 0x80) : c.toLower.toNat < 0x80 ∧ c.toLower.toLower = c.toLower :=
  forall_ascii (P := fun c => c.toLower.toNat < 0x80 ∧ c.toLower.toLower = c.toLower) (by decide +kernel) h

theorem isOrdinary_ascii {c : Char} (h : c.toNat < 0x80) : isOrdinary c = true := by
  obtain ⟨ha, hl⟩ := toLower_ascii h
  rw [isOrdinary, form?_ascii h, Option.any_some, List.all_cons, List.all_nil, Bool.and_true, Text.isSteady_ascii ha, isForm,
    form?_ascii ha, hl, BEq.rfl, Bool.and_self]

/-- A form in ASCII is no great letter. -/
theorem toLower_of_isForm {c : Char} (hf : isForm c = true) (h : c.toNat < 0x80) : c.toLower = c := by
  rw [isForm, form?_ascii h, beq_iff_eq, Option.some.injEq] at hf
  exact (List.cons.inj hf).1

/-- The forms of ordinary characters are forms, and composed text. -/
theorem forms_of_ordinary {s : List Char} (h : ∀ c ∈ s, isOrdinary c = true) {forms : List (List Char)}
    (hf : s.mapM form? = some forms) : ∀ c ∈ forms.flatten, isForm c = true ∧ Text.isSteady c = true := by
  intro d hd
  obtain ⟨ds, hds, hd⟩ := List.mem_flatten.mp hd
  obtain ⟨c, hc, hform⟩ := exists_of_mapM hf hds
  have hall := h c hc
  rw [isOrdinary, hform, Option.any_some, List.all_eq_true] at hall
  simpa only [Bool.and_eq_true] using hall d hd

/-- The forms of ASCII characters are ASCII characters. -/
theorem forms_ascii {s : List Char} (h : isAscii s = true) {forms : List (List Char)} (hf : s.mapM form? = some forms) :
    ∀ c ∈ forms.flatten, c.toNat < 0x80 := by
  intro d hd
  obtain ⟨ds, hds, hd⟩ := List.mem_flatten.mp hd
  obtain ⟨c, hc, hform⟩ := exists_of_mapM hf hds
  have ha := isAscii_iff.mp h c hc
  rw [form?_ascii ha, Option.some.injEq] at hform
  rw [← hform, List.mem_singleton] at hd
  exact hd ▸ (toLower_ascii ha).1

/-! ## Labels -/

namespace Label

/-- A label in ASCII form is written as it stands. -/
theorem ascii_of_ofAsciiForm? {s : List Char} {l : Label} (h : ofAsciiForm? s = some l) : l.ascii = s ∧ isAscii s = true := by
  simp only [ofAsciiForm?, Option.bind_eq_bind] at h
  split at h
  · cases h
  · obtain ⟨letters, -, hl⟩ := Option.bind_eq_some_iff.mp h
    split at hl
    · next hguard =>
      cases hl
      simp only [Bool.and_eq_true] at hguard
      exact ⟨rfl, hguard.1.1.1.1⟩
    · cases hl

/-- A label is written as it stands, in ASCII, or else in ASCII form. -/
theorem of?_cases {part : List Char} {l : Label} (h : of? part = some l) :
    (l.ascii = part ∧ isAscii part = true) ∨
      (l = ⟨part, asciiMark ++ Punycode.encode part⟩ ∧ isAscii part = false ∧ part.length ≤ longest.1 ∧ isSound part = true) := by
  unfold of? at h
  split at h
  · exact Or.inl (ascii_of_ofAsciiForm? h)
  · split at h
    · next ha =>
      cases h
      exact Or.inl ⟨rfl, ha⟩
    · next ha =>
      split at h
      · next hguard =>
        cases h
        rw [Bool.and_eq_true, decide_eq_true_eq] at hguard
        exact Or.inr ⟨rfl, Bool.eq_false_iff.mpr ha, hguard⟩
      · cases h

variable {part : List Char} (hpart : ∀ c ∈ part, isForm c = true ∧ Text.isSteady c = true)

include hpart

/-- What a label is written in: small ASCII characters, and dots only where the label has some. -/
theorem mem_ascii {l : Label} (h : of? part = some l) :
    ∀ c ∈ l.ascii, c.toNat < 0x80 ∧ c.toLower = c ∧ (c = '.' → '.' ∈ part) := by
  have hsmall : ∀ c ∈ part, c.toNat < 0x80 → c.toNat < 0x80 ∧ c.toLower = c ∧ (c = '.' → '.' ∈ part) := fun c hc ha =>
    ⟨ha, toLower_of_isForm (hpart c hc).1 ha, fun he => he ▸ hc⟩
  intro c hc
  rcases of?_cases h with ⟨hsame, hascii⟩ | ⟨rfl, -, hlength, -⟩
  · rw [hsame] at hc
    exact hsmall c hc (isAscii_iff.mp hascii c hc)
  · rcases List.mem_append.mp hc with hc | hc
    · have hmark : (asciiMark.all fun c => decide (c.toNat < 0x80 ∧ c.toLower = c ∧ c ≠ '.')) = true := by decide +kernel
      obtain ⟨ha, hl, hdot⟩ := of_decide_eq_true (List.all_eq_true.mp hmark c hc)
      exact ⟨ha, hl, fun he => absurd he hdot⟩
    · rcases Punycode.mem_encode hlength hc with hc | rfl | ⟨d, hd, rfl⟩
      · obtain ⟨hc, ha⟩ := List.mem_filter.mp hc
        exact hsmall c hc (of_decide_eq_true ha)
      · exact ⟨by decide, by decide, fun he => absurd he (by decide)⟩
      · obtain ⟨ha, hl, -, hdot⟩ := Punycode.digitChar_plain hd
        exact ⟨ha, hl, fun he => absurd he hdot⟩

/-- What is written for a label of forms in composed text is read as it stands, unless its ASCII form is too long. -/
theorem of?_again {l : Label} (h : of? part = some l) (hlength : isAscii part = true ∨ l.ascii.length ≤ longest.2) :
    of? l.ascii = some l := by
  have hchars := mem_ascii hpart h
  rcases of?_cases h with ⟨hsame, -⟩ | ⟨rfl, hnot, hshort, hsound⟩
  · rw [hsame, h]
  · have hlong : ¬longest.2 < (Punycode.encode part).length := by
      rcases hlength with hall | hlength
      · rw [hnot] at hall
        cases hall
      · rw [List.length_append] at hlength
        omega
    have hascii : isAscii (asciiMark ++ Punycode.encode part) = true := isAscii_iff.mpr fun c hc => (hchars c hc).1
    have hforms : part.all isForm = true := List.all_eq_true.mpr fun c hc => (hpart c hc).1
    have hcomposed : Text.composed part = part := Text.composed_of_steady fun c hc => (hpart c hc).2
    have hmark : asciiMark.isPrefixOf (asciiMark ++ Punycode.encode part) = true :=
      List.isPrefixOf_iff_prefix.mpr (List.prefix_append _ _)
    rw [of?, hmark, if_pos rfl, ofAsciiForm?, List.drop_left]
    simp only [if_neg hlong, Punycode.decode_encode hshort, Option.bind_eq_bind, Option.bind_some, hascii, hnot, hforms, hcomposed,
      hsound, BEq.rfl, Bool.not_false, Bool.and_self, if_true]

end Label

/-! ## Domains in ASCII -/

/-- The domain that labels in small letters make. -/
def ofLower? (s : List Char) : Option (List Char) := do
  let labels ← (Text.split (· == '.') s).mapM Label.of?
  let domain := ['.'].intercalate (labels.map (·.ascii))
  if agree labels && !domain.any isForbidden then some domain else none

/-- A domain in small ASCII letters is read as the domain that its labels make. -/
theorem toAscii?_ascii {s : List Char} (h : ∀ c ∈ s, c.toNat < 0x80 ∧ c.toLower = c) : toAscii? (Text.encode s) = ofLower? s := by
  have hforms : s.mapM form? = some (s.map ([·])) := mapM_eq_some fun c hc => by rw [form?_ascii (h c hc).1, (h c hc).2]
  have hsame : (s.map ([·])).flatten = s := by rw [← List.flatMap_def, List.flatMap_singleton']
  have hcomposed : Text.composed s = s := Text.composed_of_steady fun c hc => Text.isSteady_ascii (h c hc).1
  rw [toAscii?, ← Text.octets_ofList, Text.ofUtf8?_octets]
  simp only [Option.bind_eq_bind, Option.bind_some, String.toList_ofList, hforms, hsame, hcomposed]
  rfl

/-- No forbidden character is in a domain. -/
theorem not_forbidden {octets : List UInt8} {d : List Char} (hd : toAscii? octets = some d) : ∀ c ∈ d, isForbidden c = false := by
  rw [toAscii?] at hd
  obtain ⟨s, -, hd⟩ := Option.bind_eq_some_iff.mp hd
  obtain ⟨forms, -, hd⟩ := Option.bind_eq_some_iff.mp hd
  obtain ⟨labels, -, hd⟩ := Option.bind_eq_some_iff.mp hd
  dsimp only at hd
  split at hd
  · next h =>
    cases hd
    simp only [Bool.and_eq_true, Bool.not_eq_true', List.any_eq_false, Bool.not_eq_true] at h
    exact h.2
  · cases hd

/-- Labels that are read as they are written make a domain that is. -/
theorem ofLower?_labels {labels : List Label} (hne : labels ≠ []) (hagain : ∀ l ∈ labels, Label.of? l.ascii = some l)
    (hdot : ∀ l ∈ labels, '.' ∉ l.ascii) :
    ofLower? (['.'].intercalate (labels.map (·.ascii))) =
      if agree labels && !(['.'].intercalate (labels.map (·.ascii))).any isForbidden then
        some (['.'].intercalate (labels.map (·.ascii)))
      else none := by
  have hsplit : Text.split (· == '.') (['.'].intercalate (labels.map (·.ascii))) = labels.map (·.ascii) := by
    refine Text.split_intercalate (by simpa using hne) fun part hp => ?_
    obtain ⟨l, hl, rfl⟩ := List.mem_map.mp hp
    exact hdot l hl
  have hlabels : (labels.map (·.ascii)).mapM Label.of? = some labels := by
    rw [List.mapM_map]
    exact (mapM_eq_some (g := id) hagain).trans (by rw [List.map_id])
  rw [ofLower?, hsplit, hlabels]
  rfl

/-- What is written for a domain of ordinary characters is read as it stands, unless it is too long. In ASCII it may have any
length. -/
theorem toAscii?_again {octets : List UInt8} {s : String} (hs : Text.ofUtf8? octets = some s)
    (hordinary : ∀ c ∈ s.toList, isOrdinary c = true) {d : List Char} (hd : toAscii? octets = some d)
    (hlength : isAscii s.toList = true ∨ d.length ≤ Label.longest.2) : toAscii? (Text.encode d) = some d := by
  rw [toAscii?, hs, Option.bind_eq_bind, Option.bind_some] at hd
  obtain ⟨forms, hforms, hd⟩ := Option.bind_eq_some_iff.mp hd
  obtain ⟨labels, hlabels, hd⟩ := Option.bind_eq_some_iff.mp hd
  have hchars := forms_of_ordinary hordinary hforms
  rw [Text.composed_of_steady fun c hc => (hchars c hc).2] at hlabels
  have hpart : ∀ part ∈ Text.split (· == '.') forms.flatten, ∀ c ∈ part, isForm c = true ∧ Text.isSteady c = true :=
    fun part hp c hc => hchars c (Text.mem_of_mem_split hp hc)
  have hne : labels ≠ [] := by
    rintro rfl
    have hcount := (forall₂_of_mapM hlabels).length_eq
    rw [Text.length_split, List.length_nil] at hcount
    cases hcount
  dsimp only at hd
  split at hd
  · next hguard =>
    cases hd
    have hagain : ∀ l ∈ labels, Label.of? l.ascii = some l := by
      intro l hl
      obtain ⟨part, hp, hof⟩ := exists_of_mapM hlabels hl
      refine Label.of?_again (hpart part hp) hof (hlength.imp (fun ha => ?_) (Nat.le_trans ?_))
      · exact isAscii_iff.mpr fun c hc => forms_ascii ha hforms c (Text.mem_of_mem_split hp hc)
      · exact Text.length_le_intercalate '.' (List.mem_map_of_mem hl)
    have hdot : ∀ l ∈ labels, '.' ∉ l.ascii := by
      intro l hl hmem
      obtain ⟨part, hp, hof⟩ := exists_of_mapM hlabels hl
      exact Text.not_mem_of_mem_split hp ((Label.mem_ascii (hpart part hp) hof '.' hmem).2.2 rfl)
    have hsmall : ∀ c ∈ ['.'].intercalate (labels.map (·.ascii)), c.toNat < 0x80 ∧ c.toLower = c := by
      intro c hc
      rcases Text.mem_intercalate hc with rfl | ⟨ascii, hascii, hc⟩
      · decide
      · obtain ⟨l, hl, rfl⟩ := List.mem_map.mp hascii
        obtain ⟨part, hp, hof⟩ := exists_of_mapM hlabels hl
        obtain ⟨ha, hsame, -⟩ := Label.mem_ascii (hpart part hp) hof c hc
        exact ⟨ha, hsame⟩
    rw [toAscii?_ascii hsmall, ofLower?_labels hne hagain hdot, if_pos hguard]
  · cases hd

/-- A text in small letters is a domain where no character is forbidden and no label is marked as an ASCII form. -/
theorem toAscii?_of_plain {s : List Char} (h : ∀ c ∈ s, c.toNat < 0x80 ∧ c.toLower = c ∧ isForbidden c = false)
    (hmark : ∀ part ∈ Text.split (· == '.') s, Label.asciiMark.isPrefixOf part = false) : toAscii? (Text.encode s) = some s := by
  have hparts : ∀ part ∈ Text.split (· == '.') s, isAscii part = true := fun part hp =>
    isAscii_iff.mpr fun c hc => (h c (Text.mem_of_mem_split hp hc)).1
  have hlabels : (Text.split (· == '.') s).mapM Label.of? = some ((Text.split (· == '.') s).map fun part => ⟨part, part⟩) := by
    refine mapM_eq_some fun part hp => ?_
    rw [Label.of?, hmark part hp, if_neg (by decide), hparts part hp, if_pos rfl]
  have hagree : agree ((Text.split (· == '.') s).map fun part => ⟨part, part⟩) = true := by
    have hall : ((Text.split (· == '.') s).map fun part => (⟨part, part⟩ : Label)).all (isAscii ·.letters) = true := by
      rw [List.all_map]
      exact List.all_eq_true.mpr hparts
    rw [agree, hall, Bool.true_or, Bool.true_or]
  have hforbidden : s.any isForbidden = false := by
    simpa using fun c hc => (h c hc).2.2
  have hsame : ['.'].intercalate (((Text.split (· == '.') s).map fun part => (⟨part, part⟩ : Label)).map (·.ascii)) = s := by
    rw [List.map_map]
    exact (congrArg _ (List.map_id _)).trans (Text.intercalate_split '.' s)
  rw [toAscii?_ascii fun c hc => ⟨(h c hc).1, (h c hc).2.1⟩, ofLower?, hlabels, Option.bind_eq_bind, Option.bind_some]
  simp only [hsame, hagree, hforbidden, Bool.not_false, Bool.and_self, if_true]

end Url.Domain

end ControlPlane
