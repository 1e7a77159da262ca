import ControlPlane.Proofs.Platform.Partition
import ControlPlane.Proofs.Url.Written

/-!
# The page after a page

Which page follows one can be counted, or read from a link. The links of a platform are seen from its root (`Url.join_rooted`), and each
is read as a link to the page for which it was written (`Platform.Cut.linkedPage?_link`). So it does not matter which of the two a page
tells, nor in which version of the interface. The main statement is `Platform.Cut.successors_agree`.
-/

namespace ControlPlane

namespace Url

/-! ## Links from a root -/

/-- A text that begins with a slash names no scheme. -/
theorem scheme?_of_slash (s : List Char) : scheme? ('/' :: s) = none := by
  have hslash : (isBreak '/' || '/'.isAlphanum || '/' == '+' || '/' == '-' || '/' == '.') = false := by decide
  simp only [scheme?, List.takeWhile_cons, hslash, Bool.false_eq_true, if_false]
  rfl

section

variable {first : String} {rest : List String} {query : String}

/-- A path from a root, with a query. -/
def rootedText (first : String) (rest : List String) (query : String) : List Char :=
  '/' :: ((pathText first rest).toList ++ queryText (some query))

/-- A path from a root begins with the slash of the root and a character of its first segment. -/
theorem rootedText_cons (hfirst : first ≠ "") (h : ∀ s ∈ first :: rest, ∀ c ∈ s.toList, isSegmentChar c = true) (query : String) :
    ∃ c t, (pathText first rest).toList ++ queryText (some query) = c :: t ∧ isSegmentChar c = true := by
  rw [toList_pathText]
  cases hl : first.toList with
  | nil => exact absurd (String.toList_eq_nil_iff.mp hl) hfirst
  | cons c t => exact ⟨c, _, rfl, h first List.mem_cons_self c (hl ▸ List.mem_cons_self)⟩

/-- No blanks and no breaks stand in a path from a root. -/
theorem rootedText_chars (h : ∀ s ∈ first :: rest, ∀ c ∈ s.toList, isSegmentChar c = true)
    (hquery : ∀ c ∈ query.toList, Stays inSpecialQuery c) :
    ∀ c ∈ rootedText first rest query, isOuterBlank c = false ∧ isBreak c = false := by
  intro c hc
  rcases List.mem_cons.mp hc with rfl | hc
  · decide
  rcases List.mem_append.mp hc with hc | hc
  · rcases mem_pathText h hc with rfl | hsegment
    · decide
    · exact (segmentChar_plain hsegment).1
  · rcases List.mem_cons.mp hc with rfl | hc
    · decide
    · obtain ⟨hblank, hbreak, -⟩ := stays_inSpecialQuery (hquery c hc)
      exact ⟨hblank, hbreak⟩

/-- A path from a root is no address of its own. Seen from an address over the web, it keeps its query. -/
theorem join_rooted {base : Url} (hs : isSpecial base.scheme = true) (hf : base.scheme ≠ "file") {start : List String}
    (hp : base.path = .segments start) (hfirst : first ≠ "")
    (h : ∀ s ∈ first :: rest, ∀ c ∈ s.toList, isSegmentChar c = true)
    (hquery : ∀ c ∈ query.toList, Stays inSpecialQuery c) {s : String} (ht : s.toList = rootedText first rest query) :
    ofString s = .error .relativeWithoutBase ∧ ∃ v, base.join s = .ok v ∧ v.query = some query := by
  have hchars := rootedText_chars h hquery
  have htrim : trimmed s.toList = '/' :: ((pathText first rest).toList ++ queryText (some query)) := by
    rw [ht]
    exact trimmed_of_plain fun c hc => (hchars c hc).1
  have hbreak : unbroken ('/' :: ((pathText first rest).toList ++ queryText (some query))) =
      '/' :: ((pathText first rest).toList ++ queryText (some query)) := by
    refine List.filter_eq_self.mpr fun c hc => ?_
    rw [(hchars c hc).2]
    rfl
  have hsplit : splitPath ((pathText first rest).toList ++ queryText (some query)) =
      ((pathText first rest).toList, queryText (some query)) := by
    refine span_append (fun c hc => ?_) fun c hc => ?_
    · rcases mem_pathText h hc with rfl | hsegment
      · decide
      · obtain ⟨-, -, hquestion, hhash, -⟩ := (segmentChar_plain hsegment).2.1
        simp [hquestion, hhash]
    · rw [← Option.some.inj hc]
      decide
  have htail : (tail true (queryText (some query))).1 = some query :=
    tail_queryText fun q hq => by rwa [← Option.some.inj hq]
  -- The character behind the slash is none, so that no host follows.
  obtain ⟨c, t, hc, hsegment⟩ := rootedText_cons hfirst h query
  obtain ⟨hslash, hbackslash, -⟩ := (segmentChar_plain hsegment).2.1
  constructor
  · rw [ofString, read]
    simp only [htrim, scheme?_of_slash]
  · rw [join, read]
    simp only [htrim, scheme?_of_slash, if_neg hf, hp, hbreak]
    refine ⟨relative.reach base [] ((pathText first rest).toList ++ queryText (some query)), ?_, ?_⟩
    · rw [hc]
      simp [relative, hslash, hbackslash]
    · simp only [relative.reach, hsplit, hs]
      exact htail

end

end Url

/-! ## Links to pages -/

/-- Digits are written into a query as they are. -/
theorem Url.Form.encodeText_toString (n : Nat) : encodeText (toString n) = (toString n).toList := by
  refine encodeText_of_plain fun c hc => ?_
  rw [Nat.toString_eq_repr, Nat.toList_repr] at hc
  obtain ⟨hle, hlt⟩ := Decimal.digit_lt (Decimal.isDigit_of_mem hc)
  have hplain : ∀ k < 10, isPlain (UInt8.ofNat (48 + k)) = true := by decide
  have hdigit := hplain (c.toNat - 48) hlt
  rw [Nat.add_sub_cancel' hle] at hdigit
  exact ⟨by omega, hdigit⟩

namespace Platform.Cut

variable {α β : Type}

/-- The pairs in the link to a page. -/
def linkPairs (c : Cut) (n : UInt32) : List (String × String) :=
  [("order-direction", "asc"), ("page", toString n.toNat), ("results-per-page", toString c.size.toNat)]

/-- The query in the link to a page is that of its pairs. -/
theorem toList_link (c : Cut) (first : String) (rest : List String) (n : UInt32) :
    (c.link ("/" ++ Url.pathText first rest) n).toList =
      Url.rootedText first rest (String.ofList (Url.Form.append [] (c.linkPairs n))) := by
  have hword (w : String) (h : (w.toList.all fun ch => decide (ch.toNat < 0x80 ∧ Url.Form.isPlain (UInt8.ofNat ch.toNat) = true)) = true) :
      Url.Form.encodeText w = w.toList := Url.Form.encodeText_of_plain (Url.forall_char h)
  have happend : Url.Form.append [] (c.linkPairs n) =
      "order-direction=asc&page=".toList ++ (toString n.toNat).toList ++ "&results-per-page=".toList ++
        (toString c.size.toNat).toList := by
    simp only [linkPairs, Url.Form.append, List.foldl_cons, List.foldl_nil, Url.Form.encodePair, Url.Form.encodeText_toString,
      hword "order-direction" (by decide +kernel), hword "asc" (by decide +kernel), hword "page" (by decide +kernel),
      hword "results-per-page" (by decide +kernel)]
    simp
  rw [link, Url.rootedText, Url.queryText, Option.elim_some, String.toList_ofList, happend]
  simp

/-- The link to a page is read as one to that page. -/
theorem linkedPage?_link (c : Cut) {first : String} {rest : List String} (hfirst : first ≠ "")
    (h : ∀ s ∈ first :: rest, ∀ ch ∈ s.toList, Url.isSegmentChar ch = true) (n : UInt32) :
    linkedPage? (c.link ("/" ++ Url.pathText first rest) n) = some n := by
  have hstays : ∀ ch ∈ (String.ofList (Url.Form.append [] (c.linkPairs n))).toList, Url.Stays Url.inSpecialQuery ch := by
    intro ch hch
    rw [String.toList_ofList] at hch
    exact Url.Form.stays_append hch
  have hspecial : Url.isSpecial linkBase.scheme = true := by decide
  obtain ⟨hrelative, v, hjoin, hquery⟩ :=
    Url.join_rooted hspecial (by decide) rfl hfirst h hstays (c.toList_link first rest n)
  have htarget : linkTarget? (c.link ("/" ++ Url.pathText first rest) n) = some v := by
    simp only [linkTarget?, hrelative, hjoin, Except.toOption]
  have hpairs : v.queryPairs = c.linkPairs n := by
    rw [Url.queryPairs, hquery, Option.elim_some, Text.octets_ofList, Url.Form.decode_append]
  have hfind : (c.linkPairs n).find? (·.1 == "page") = some ("page", toString n.toNat) := rfl
  simp only [linkedPage?, htarget, Option.bind_eq_bind, Option.bind_some, hpairs, hfind, Decimal.word32?_toString]

/-- A link to the page after a page is there just if that page is counted, and leads to the same page. -/
theorem nextUrl_linked (c : Cut) {first : String} {rest : List String} (hfirst : first ≠ "")
    (h : ∀ s ∈ first :: rest, ∀ ch ∈ s.toList, Url.isSegmentChar ch = true) (items : List α) :
    (c.envelope ("/" ++ Url.pathText first rest) items).nextUrl.bind linkedPage? =
      Page.successor c.page (c.envelope ("/" ++ Url.pathText first rest) items).totalPages := by
  simp only [envelope, Page.successor]
  by_cases hlt : c.page < (pageCount items.length c.size.toNat).toUInt32
  · rw [if_pos hlt, if_pos hlt, Option.bind_some, c.linkedPage?_link hfirst h]
  · rw [if_neg hlt, if_neg hlt, Option.bind_none]

end Platform.Cut

/-! ## Three ways to the next page -/

/-- Whether a page of the third version tells what one of the second version tells but for the numbers of pages, with its link to the page
after it. -/
structure EnvelopeV3.Retells {α : Type} (v : EnvelopeV3 α) (e : Envelope α) : Prop where
  resources : v.resources = e.resources
  totalResults : v.pagination.totalResults = e.totalResults
  next : v.pagination.next = e.nextUrl.map Link.mk

namespace Platform.Cut

variable {α β : Type}

/-- The page after the one that is cut, where there are so many. -/
theorem successor_envelope (c : Cut) (h : c.IsPositive) (path : String) (items : List α)
    (hcount : items.length ⌈/⌉ c.size.toNat < 2 ^ 32) :
    (Page.successor c.page (c.envelope path items).totalPages).map UInt32.toNat =
      if c.page.toNat < items.length ⌈/⌉ c.size.toNat then some (c.page.toNat + 1) else none := by
  obtain ⟨pages, hpages, hnat⟩ := Option.map_eq_some_iff.mp (c.isPage_envelope h path items hcount).totalPages
  obtain ⟨hlast, hmore⟩ := Page.successor_toNat c.page pages
  rw [hpages, ← hnat]
  by_cases hlt : c.page.toNat < pages.toNat
  · obtain ⟨next, hnext, -, hone⟩ := hmore hlt
    rw [if_pos hlt, hnext, Option.map_some, hone]
  · rw [if_neg hlt, hlast (Nat.le_of_not_lt hlt), Option.map_none]

/-- A page of a list says in three ways which page follows it: by the number of all pages; where that is left out, by its link; and by
the same link in the third version of the interface. All three come to the same: the number after that of the page, where it is before
the last one, and none otherwise. They also come to the same items, the same number of the page and the same number of all items. -/
theorem successors_agree (c : Cut) (h : c.IsPositive) (items : List α) (render : α → β)
    (hcount : items.length ⌈/⌉ c.size.toNat < 2 ^ 32) :
    let e : Envelope β := (c.envelope "/v2/organizations" items).map render
    ∀ v : EnvelopeV3 β, v.Retells e →
      ∀ p ∈ [e.toPage c.page, { e with totalPages := none }.toPage c.page, v.toPage c.page],
        p.next.map UInt32.toNat =
            (if c.page.toNat < items.length ⌈/⌉ c.size.toNat then some (c.page.toNat + 1) else none) ∧
          p.items = (slice items c.page.toNat c.size.toNat).map render ∧ p.number = c.page ∧
          p.totalResults.map UInt64.toNat = some items.length := by
  intro e v hv p hp
  have hall : ∀ s ∈ ["v2", "organizations"], (s.toList.all fun ch => decide (Url.isSegmentChar ch = true)) = true := by
    decide +kernel
  have hpath : "/v2/organizations" = "/" ++ Url.pathText "v2" ["organizations"] := by decide +kernel
  have hplain : ∀ s ∈ "v2" :: ["organizations"], ∀ ch ∈ s.toList, Url.isSegmentChar ch = true := fun s hs =>
    Url.forall_char (hall s hs)
  have hlinked : e.nextUrl.bind linkedPage? = Page.successor c.page e.totalPages := by
    have hcut := c.nextUrl_linked (by decide) hplain items
    rwa [← hpath] at hcut
  have hresults := (c.isPage_envelope h "/v2/organizations" items hcount).totalResults
  -- Each of the three pages has its successor in its own way; all else is that of the envelope.
  have hpage : p.next = Page.successor c.page e.totalPages ∧ p.items = e.resources ∧ p.number = c.page ∧
      p.totalResults = e.totalResults := by
    simp only [List.mem_cons, List.not_mem_nil, or_false] at hp
    rcases hp with rfl | rfl | rfl
    · exact ⟨rfl, rfl, rfl, rfl⟩
    · exact ⟨hlinked, rfl, rfl, rfl⟩
    · refine ⟨?_, hv.resources, rfl, hv.totalResults⟩
      rw [← hlinked, EnvelopeV3.toPage, hv.next]
      cases e.nextUrl <;> rfl
  obtain ⟨hnext, hitems, hnumber, htotal⟩ := hpage
  refine ⟨?_, hitems, hnumber, by rw [htotal]; exact hresults⟩
  rw [hnext]
  exact c.successor_envelope h "/v2/organizations" items hcount

/-- The second page of three, of five items. -/
theorem successors_agree_five :
    let c : Cut := ⟨2, 2, none⟩
    let e : Envelope Nat := (c.envelope "/v2/organizations" [1, 2, 3, 4, 5]).map (· * 10)
    let v : EnvelopeV3 Nat := { pagination := { totalResults := some 5, next := e.nextUrl.map Link.mk }, resources := [30, 40] }
    c.IsPositive ∧ [1, 2, 3, 4, 5].length ⌈/⌉ c.size.toNat < 2 ^ 32 ∧ v.Retells e ∧
      e.nextUrl = some "/v2/organizations?order-direction=asc&page=3&results-per-page=2" ∧
      ∀ p ∈ [e.toPage 2, { e with totalPages := none }.toPage 2, v.toPage 2],
        p.next.map UInt32.toNat = some 3 ∧ p.items = [30, 40] := by
  intro c e v
  have hc : c.IsPositive := ⟨by decide, by decide⟩
  have hcount : [1, 2, 3, 4, 5].length ⌈/⌉ c.size.toNat = 3 := by
    have hsize : c.size.toNat = 2 := rfl
    rw [hsize, Nat.ceilDiv_eq_add_pred_div]
    rfl
  have hlt : [1, 2, 3, 4, 5].length ⌈/⌉ c.size.toNat < 2 ^ 32 := by
    rw [hcount]
    decide
  have hv : v.Retells e := ⟨rfl, rfl, rfl⟩
  refine ⟨hc, hlt, hv, by decide +kernel, fun p hp => ?_⟩
  obtain ⟨hnext, hitems, -⟩ := successors_agree c hc [1, 2, 3, 4, 5] (· * 10) hlt v hv p hp
  rw [hcount] at hnext
  exact ⟨hnext, hitems⟩

end Platform.Cut

end ControlPlane
