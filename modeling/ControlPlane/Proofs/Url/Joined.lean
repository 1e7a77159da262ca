import ControlPlane.Platform.Route
import ControlPlane.Proofs.Url.Encoded
import ControlPlane.Url.Parser
import Mathlib.Data.List.TakeDrop
import Mathlib.Data.List.TakeWhile

/-!
# Paths seen from an address

A path of written segments, seen from an address, is walked along from there (`join_path`). From a root, one of plain segments leads
to those segments (`walk_of_plain`), and they are found again in the text of that path (`Route.segments?_text`). A segment is plain where
nothing in it has a meaning for an address; every text becomes one (`isPlainSegment_segmentText`), except for one or two dots and the
empty text, and comes back from it (`Route.plainSegment?_segmentText`).
-/

namespace ControlPlane

namespace Url

/-- Whether a segment stands for itself wherever it stands in a path. -/
structure IsPlainSegment (s : String) : Prop where
  chars : ∀ c ∈ s.toList, isSegmentChar c = true
  single : isSingleDot s = false
  double : isDoubleDot s = false
  nonempty : s ≠ ""

/-- A character of a segment is no blank, begins no other part of an address, and stays as it is when a path is written. -/
theorem segmentChar_plain {c : Char} (hc : isSegmentChar c = true) :
    (isOuterBlank c = false ∧ isBreak c = false) ∧ (c ≠ '/' ∧ c ≠ '\\' ∧ c ≠ '?' ∧ c ≠ '#' ∧ c ≠ ':') ∧
      c.toNat < 0x80 ∧ inPath (UInt8.ofNat c.toNat) = false := by
  have ha : c.toNat < 0x80 := by
    rw [isSegmentChar, Bool.and_eq_true, decide_eq_true_eq] at hc
    exact hc.1
  revert hc
  refine forall_ascii (P := fun c => isSegmentChar c = true → (isOuterBlank c = false ∧ isBreak c = false) ∧
    (c ≠ '/' ∧ c ≠ '\\' ∧ c ≠ '?' ∧ c ≠ '#' ∧ c ≠ ':') ∧ c.toNat < 0x80 ∧ inPath (UInt8.ofNat c.toNat) = false) ?_ ha
  decide +kernel

/-- A segment in which nothing needs to be escaped stays as it is. -/
theorem segment_of_plain {s : List Char} (h : ∀ c ∈ s, isSegmentChar c = true) : segment s = String.ofList s := by
  have hstays : ∀ c ∈ s, Stays inPath c := by
    intro c hc
    obtain ⟨-, -, ha, hp⟩ := segmentChar_plain (h c hc)
    exact ⟨ha, hp⟩
  rw [segment, percentEncode_of_stays hstays]

/-- Segments that are no dots are walked along before others. -/
theorem walk_append {first rest : List String} (h : ∀ s ∈ first, isSingleDot s = false ∧ isDoubleDot s = false) (done : List String) :
    walk done (first ++ rest) = walk (done ++ first) rest := by
  induction first generalizing done with
  | nil => rw [List.nil_append, List.append_nil]
  | cons s first ih =>
    obtain ⟨hsingle, hdouble⟩ := h s List.mem_cons_self
    have hstep (atEnd : Bool) : step done s atEnd = done ++ [s] := by
      simp only [step, hsingle, hdouble, Bool.false_eq_true, if_false]
    rw [List.cons_append, walk, hstep, ih fun t ht => h t (List.mem_cons_of_mem s ht), List.append_assoc, List.singleton_append]

/-- Segments that are no dots are walked along. -/
theorem walk_of_dotless {segments : List String} (h : ∀ s ∈ segments, isSingleDot s = false ∧ isDoubleDot s = false) (done : List String) :
    walk done segments = done ++ segments := by
  have hwalk : walk done (segments ++ []) = walk (done ++ segments) [] := walk_append h done
  rwa [List.append_nil, walk] at hwalk

/-- A plain segment is no dots. -/
theorem IsPlainSegment.dotless {s : String} (h : IsPlainSegment s) : isSingleDot s = false ∧ isDoubleDot s = false :=
  ⟨h.single, h.double⟩

/-- Plain segments are walked along. -/
theorem walk_of_plain {segments : List String} (h : ∀ s ∈ segments, IsPlainSegment s) (done : List String) :
    walk done segments = done ++ segments :=
  walk_of_dotless (fun s hs => (h s hs).dotless) done

/-! ## Paths of plain segments -/

/-- A path without a slash at its start. -/
def pathText (first : String) (rest : List String) : String := first ++ String.join (rest.map ("/" ++ ·))

/-- The characters of a path. -/
theorem toList_pathText (first : String) (rest : List String) :
    (pathText first rest).toList = first.toList ++ (rest.map String.toList).flatMap ('/' :: ·) := by
  simp [pathText, String.toList_join, List.flatMap_map]

/-- The text of a path of segments. -/
theorem toList_segments (segments : List String) :
    (Path.segments segments).text.toList = (segments.map String.toList).flatMap ('/' :: ·) := by
  simp [Path.text, String.toList_join, List.flatMap_map]

/-- A path with a segment between two words. -/
theorem pathText_scoped (first parent x child : String) :
    pathText first [parent, x, child] = first ++ "/" ++ parent ++ "/" ++ x ++ ("/" ++ child) := by
  rw [← String.toList_inj, toList_pathText]
  simp only [List.map_cons, List.map_nil, List.flatMap_cons, List.flatMap_nil, String.toList_append, List.append_assoc,
    List.append_nil]
  rfl

/-- A path with a segment behind two words. -/
theorem pathText_last (first parent x : String) : pathText first [parent, x] = first ++ "/" ++ parent ++ "/" ++ x := by
  rw [← String.toList_inj, toList_pathText]
  simp only [List.map_cons, List.map_nil, List.flatMap_cons, List.flatMap_nil, String.toList_append, List.append_assoc,
    List.append_nil]
  rfl

/-- A path of written segments is split into them. -/
theorem split_pathText {isMark : Char → Bool} (hm : isMark '/' = true) (hc : ∀ c, isSegmentChar c = true → isMark c = false)
    {first : String} {rest : List String} (h : ∀ s ∈ first :: rest, ∀ c ∈ s.toList, isSegmentChar c = true) :
    Text.split isMark (pathText first rest).toList = (first :: rest).map String.toList := by
  rw [toList_pathText, List.map_cons]
  refine Text.split_parts hm (fun c h' => hc c (h first List.mem_cons_self c h')) fun p hp c h' => ?_
  obtain ⟨s, hs, rfl⟩ := List.mem_map.mp hp
  exact hc c (h s (List.mem_cons_of_mem first hs) c h')

/-- What a path of written segments is made of. -/
theorem mem_pathText {first : String} {rest : List String} (h : ∀ s ∈ first :: rest, ∀ c ∈ s.toList, isSegmentChar c = true)
    {c : Char} (hc : c ∈ (pathText first rest).toList) : c = '/' ∨ isSegmentChar c = true := by
  rw [toList_pathText, List.mem_append, List.mem_flatMap] at hc
  rcases hc with hc | ⟨p, hp, hc⟩
  · exact Or.inr (h first List.mem_cons_self c hc)
  · obtain ⟨s, hs, rfl⟩ := List.mem_map.mp hp
    rcases List.mem_cons.mp hc with rfl | hc
    · exact Or.inl rfl
    · exact Or.inr (h s (List.mem_cons_of_mem first hs) c hc)

/-! ## Reading such paths -/

/-- A text without colon names no scheme. -/
theorem scheme?_of_no_colon {s : List Char} (h : ':' ∉ s) : scheme? s = none := by
  simp only [scheme?]
  split
  · next hd =>
    have hm : ':' ∈ s.drop (s.takeWhile fun c => isBreak c || c.isAlphanum || c == '+' || c == '-' || c == '.').length := by
      rw [hd]
      exact List.mem_cons_self
    exact absurd (List.mem_of_mem_drop hm) h
  · rfl

/-- A text without blanks has none at its ends. -/
theorem trimmed_of_plain {s : List Char} (h : ∀ c ∈ s, isOuterBlank c = false) : trimmed s = s := by
  have hd {t : List Char} (ht : ∀ c ∈ t, isOuterBlank c = false) : t.dropWhile isOuterBlank = t := by
    cases t with
    | nil => rfl
    | cons c t => rw [List.dropWhile_cons, ht c List.mem_cons_self, if_neg (by decide)]
  rw [trimmed, hd h, hd fun c hc => h c (List.mem_reverse.mp hc), List.reverse_reverse]

/-- A list in which nothing else begins is whole. -/
theorem span_of_all {α : Type} {p : α → Bool} {s : List α} (h : ∀ a ∈ s, p a = true) : s.span p = (s, []) := by
  rw [List.span_eq_takeWhile_dropWhile, List.takeWhile_eq_self_iff.mpr h, List.dropWhile_eq_nil_iff.mpr h]

/-- A list ends where something else begins. -/
theorem span_append {α : Type} {p : α → Bool} {s rest : List α} (h : ∀ a ∈ s, p a = true) (hrest : ∀ a ∈ rest.head?, p a = false) :
    (s ++ rest).span p = (s, rest) := by
  rw [List.span_eq_takeWhile_dropWhile, List.takeWhile_append_of_pos h, List.dropWhile_append_of_pos h]
  cases rest with
  | nil => rw [List.takeWhile_nil, List.dropWhile_nil, List.append_nil]
  | cons a rest =>
    rw [List.takeWhile_cons, List.dropWhile_cons, hrest a rfl]
    simp

/-- A path that no query and no fragment follows. -/
theorem splitPath_of_plain {s : List Char} (h : ∀ c ∈ s, c ≠ '?' ∧ c ≠ '#') : splitPath s = (s, []) :=
  span_of_all (by simpa using h)

/-- A text that begins with a character of a segment is a path. -/
theorem relative_of_plain {base : Url} {start : List String} {c : Char} {t : List Char} (h1 : c ≠ '/') (h2 : c ≠ '\\')
    (h3 : c ≠ '?') (h4 : c ≠ '#') : relative base start (c :: t) = .ok (relative.reach base start.dropLast (c :: t)) := by
  unfold relative
  split
  · next h => cases h
  · next h => exact absurd (List.cons.inj h).1 h3
  · next h => exact absurd (List.cons.inj h).1 h4
  · next h =>
    obtain ⟨rfl, rfl⟩ := List.cons.inj h
    simp only [h1, h2, or_self, if_false]

section

variable {base : Url} {first : String} {rest : List String}

/-- A path of written segments is no address of its own: it is seen from the other one, where that has segments or is a file. -/
theorem join_pathText (hfirst : first ≠ "") (h : ∀ s ∈ first :: rest, ∀ c ∈ s.toList, isSegmentChar c = true) :
    base.join (pathText first rest) =
      if base.scheme = "file" then file (some base) (pathText first rest).toList
      else
        match base.path with
        | .segments start => .ok (relative.reach base start.dropLast (pathText first rest).toList)
        | .rootless _ => .error .relativeWithRootlessBase := by
  have hplain (P : Char → Prop) (h1 : P '/') (h2 : ∀ c, isSegmentChar c = true → P c) :
      ∀ c ∈ (pathText first rest).toList, P c := fun c hm => (mem_pathText h hm).elim (fun e => e ▸ h1) (h2 c)
  have htrim : trimmed (pathText first rest).toList = (pathText first rest).toList :=
    trimmed_of_plain (hplain _ (by decide) fun c h => (segmentChar_plain h).1.1)
  have hscheme : scheme? (pathText first rest).toList = none :=
    scheme?_of_no_colon fun hm => hplain (· ≠ ':') (by decide) (fun c h => (segmentChar_plain h).2.1.2.2.2.2) _ hm rfl
  have hbreak : unbroken (pathText first rest).toList = (pathText first rest).toList := by
    refine List.filter_eq_self.mpr (hplain _ (by decide) fun c h => ?_)
    rw [(segmentChar_plain h).1.2]
    rfl
  have hslash : ∃ c t, (pathText first rest).toList = c :: t ∧ isSegmentChar c = true := by
    rw [toList_pathText]
    cases hl : first.toList with
    | nil => exact absurd (String.toList_eq_nil_iff.mp hl) hfirst
    | cons c t => exact ⟨c, _, rfl, h first List.mem_cons_self c (hl ▸ List.mem_cons_self)⟩
  obtain ⟨c, t, ht, hct⟩ := hslash
  obtain ⟨h1, h2, h3, h4, -⟩ := (segmentChar_plain hct).2.1
  rw [join, read]
  simp only [htrim, hscheme, hbreak]
  split
  · rfl
  · rw [ht]
    cases base.path with
    | segments start => exact relative_of_plain h1 h2 h3 h4
    | rootless s =>
      dsimp only
      split
      · next hc => exact absurd (List.cons.inj hc).1 h4
      · rfl

/-- A path of written segments, seen from an address, is walked along in the place of the last segment there. -/
theorem join_path (hf : base.scheme ≠ "file") {start : List String} (hp : base.path = .segments start) (hfirst : first ≠ "")
    (h : ∀ s ∈ first :: rest, ∀ c ∈ s.toList, isSegmentChar c = true) :
    base.join (pathText first rest) =
      .ok { base with path := .segments (walk start.dropLast (first :: rest)), query := none, fragment := none } := by
  have hsplit : splitPath (pathText first rest).toList = ((pathText first rest).toList, []) := by
    refine splitPath_of_plain fun c hm => ?_
    rcases mem_pathText h hm with rfl | hc
    · decide
    · exact ⟨(segmentChar_plain hc).2.1.2.2.1, (segmentChar_plain hc).2.1.2.2.2.1⟩
  have hresolve : resolve base.scheme start.dropLast (pathText first rest).toList = walk start.dropLast (first :: rest) := by
    rw [resolve, split_pathText (by simp [isSlash]) _ h, List.map_map]
    · rw [show (first :: rest).map (segment ∘ String.toList) = first :: rest from ?_]
      refine (List.map_congr_left fun s hs => ?_).trans (List.map_id _)
      exact (segment_of_plain (h s hs)).trans String.ofList_toList
    · intro c hc
      obtain ⟨h1, h2, -⟩ := (segmentChar_plain hc).2.1
      simp [isSlash, h1, h2]
  rw [join_pathText hfirst h, if_neg hf, hp]
  simp only [relative.reach, hsplit, hresolve]
  rfl

end

/-! ## Texts as segments -/

/-- Texts of which the same segments are made are the same. -/
theorem eq_of_percentDecode {s t : String} (h : percentDecode (Text.octets (segmentText s)) = Text.octets t) : s = t := by
  rw [percentDecode_segmentText] at h
  rw [← Text.ofOctets_octets s, h, Text.ofOctets_octets]

/-- Texts of which the same segment is made are the same. -/
theorem segmentText_injective : Function.Injective segmentText := by
  intro s t h
  exact eq_of_percentDecode (by rw [h, percentDecode_segmentText])

/-- Every text but the empty one, one dot, and two dots becomes a segment that stands for itself. -/
theorem isPlainSegment_segmentText {s : String} (h : s ≠ "") (h1 : s ≠ ".") (h2 : s ≠ "..") :
    IsPlainSegment (segmentText s) where
  chars c := isSegmentChar_of_mem
  single := by
    refine Bool.eq_false_iff.mpr fun hd => h1 (eq_of_percentDecode ?_)
    have hall : ∀ t ∈ [".", "%2e", "%2E"], percentDecode (Text.octets t) = Text.octets "." := by decide +kernel
    exact hall _ (List.contains_iff_mem.mp hd)
  double := by
    refine Bool.eq_false_iff.mpr fun hd => h2 (eq_of_percentDecode ?_)
    have hall : ∀ t ∈ ["..", "%2e.", "%2E.", ".%2e", ".%2E", "%2e%2e", "%2e%2E", "%2E%2e", "%2E%2E"],
        percentDecode (Text.octets t) = Text.octets ".." := by decide +kernel
    exact hall _ (List.contains_iff_mem.mp hd)
  nonempty hd := h (eq_of_percentDecode (by rw [hd]; rfl))

end Url

namespace Platform.Route

/-- The segments of a path are found again in its text. -/
theorem segments?_text {segments : List String} (h : ∀ s ∈ segments, Url.IsPlainSegment s) :
    segments? (Url.Path.segments segments).text = some segments := by
  have ht := Url.toList_segments segments
  rw [← List.nil_append (List.flatMap _ _)] at ht
  have hs : Text.split (· == '/') (Url.Path.segments segments).text.toList = [] :: segments.map String.toList := by
    rw [ht]
    refine Text.split_parts (by decide) (fun _ hm => absurd hm List.not_mem_nil) fun p hp c hc => ?_
    obtain ⟨s, hs, rfl⟩ := List.mem_map.mp hp
    exact beq_eq_false_iff_ne.mpr (Url.segmentChar_plain ((h s hs).chars c hc)).2.1.1
  rw [segments?, hs]
  simp only [List.map_map]
  exact congrArg some ((List.map_congr_left fun s _ => String.ofList_toList).trans (List.map_id _))

/-- A text comes back from the segment that was made of it. -/
theorem plainSegment?_segmentText (s : String) : plainSegment? (Url.segmentText s) = some s := by
  rw [plainSegment?, Url.percentDecode_segmentText, Text.ofUtf8?_octets]

/-- The routes along an id that is there, between two words. -/
theorem along?_scoped {x : String} (h : x.isEmpty = false) :
    along? ["v2", "organizations", x, "spaces"] = some (.spaces x) ∧
      along? ["v2", "organizations", x, "space_quota_definitions"] = some (.spaceQuotas x) ∧
      along? ["v2", "spaces", x, "service_instances"] = some (.serviceInstances x) := by
  simp only [along?, h, Bool.false_eq_true, if_false, and_self]

end Platform.Route

end ControlPlane
