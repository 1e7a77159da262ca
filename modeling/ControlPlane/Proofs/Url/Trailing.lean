import ControlPlane.Proofs.Url.Written

/-!
# Addresses that end in a slash

An address that ends in a slash, and not in a query or a fragment, has a path whose last segment is empty (`path_of_trailing`). A path
that is seen from there is put behind all that is there, since only the empty segment gives way to it. Dots lead elsewhere: `walk_dot` and
`walk_dots` say where, behind two segments that stand for themselves.
-/

namespace ControlPlane.Url

/-! ## The last segment -/

/-- A slash at the end of a text is no blank. -/
theorem suffix_trimmed {s : List Char} (h : ['/'] <:+ s) : ['/'] <:+ trimmed s := by
  have hdrop {t : List Char} (ht : '/' ∈ t) : t.dropWhile isOuterBlank ≠ [] := by
    intro hnil
    exact absurd (List.dropWhile_eq_nil_iff.mp hnil '/' ht) (by decide)
  have hfirst : ['/'] <:+ s.dropWhile isOuterBlank :=
    List.suffix_of_suffix_length_le h (List.dropWhile_suffix _) (List.length_pos_of_ne_nil (hdrop (h.subset List.mem_cons_self)))
  obtain ⟨t, ht⟩ := hfirst
  rw [trimmed, ← ht, List.reverse_append, List.reverse_singleton, List.singleton_append, List.dropWhile_cons,
    show isOuterBlank '/' = false by decide, if_neg Bool.false_ne_true, List.reverse_cons, List.reverse_reverse]
  exact List.suffix_append t ['/']

/-- Behind the last mark there is an empty part. -/
theorem split_concat {α : Type} {isMark : α → Bool} {m : α} (hm : isMark m = true) (s : List α) :
    Text.split isMark (s ++ [m]) = Text.split isMark s ++ [[]] := by
  induction s with
  | nil => simp [Text.split, hm]
  | cons a s ih =>
    rw [List.cons_append, Text.split, Text.split, ih]
    by_cases ha : isMark a = true
    · simp [ha]
    · simp only [ha, Bool.false_eq_true, if_false]
      cases hs : Text.split isMark s with
      | nil =>
        have hlength := Text.length_split isMark s
        rw [hs, List.length_nil] at hlength
        omega
      | cons part parts => rfl

/-- A walk along segments of which the last is empty ends with an empty one. -/
theorem walk_concat_empty (segments done : List String) : ∃ before, walk done (segments ++ [""]) = before ++ [""] := by
  induction segments generalizing done with
  | nil => exact ⟨done, rfl⟩
  | cons s segments ih => exact ih _

/-- The last segment of a path that ends in a slash is empty. -/
theorem resolve_of_trailing (scheme : String) {s : List Char} (h : s = [] ∨ ['/'] <:+ s) :
    ∃ before, resolve scheme [] s = before ++ [""] := by
  have hempty : segment [] = "" := rfl
  rcases h with rfl | ⟨t, rfl⟩
  · exact ⟨[], rfl⟩
  · rw [resolve, split_concat (by simp [isSlash]), List.map_append, List.map_singleton, hempty]
    exact walk_concat_empty _ _

/-- What is no query and no fragment is path to the end. -/
theorem splitPath_of_tail {special : Bool} {s : List Char} (h : tail special (splitPath s).2 = (none, none)) : splitPath s = (s, []) := by
  have hwhole := List.takeWhile_append_dropWhile (p := fun c => c ≠ '?' && c ≠ '#') (l := s)
  rw [splitPath, List.span_eq_takeWhile_dropWhile] at h ⊢
  cases hrest : s.dropWhile fun c => c ≠ '?' && c ≠ '#' with
  | nil =>
    rw [hrest, List.append_nil] at hwhole
    rw [hwhole]
  | cons c rest =>
    have hc := List.head?_dropWhile_not (fun c => c ≠ '?' && c ≠ '#') s
    rw [hrest, List.head?_cons] at hc
    rw [hrest] at h
    have hmark : c = '?' ∨ c = '#' := by
      by_cases hquery : c = '?'
      · exact Or.inl hquery
      · simpa [hquery] using hc
    rcases hmark with rfl | rfl
    · simp [tail] at h
    · simp [tail] at h

/-- Behind a host, the last segment of a path that ends in a slash is empty, where no query and no fragment follows. -/
theorem behindSlashes_trailing {scheme : String} {s : List Char} {u : Url}
    (h : behindSlashes scheme s = .ok u) (hslash : ['/'] <:+ s) (hquery : u.query = none) (hfragment : u.fragment = none) :
    ∃ before, u.path = .segments (before ++ [""]) := by
  unfold behindSlashes at h
  obtain ⟨⟨a, behindPort⟩, -, h⟩ := ok_of_bind h
  have hu : (⟨scheme, some a, pathBehindHost scheme (splitPath (behindPort ++ (splitAuthority (isSpecial scheme) s).2)).1,
      (tail (isSpecial scheme) (splitPath (behindPort ++ (splitAuthority (isSpecial scheme) s).2)).2).1,
      (tail (isSpecial scheme) (splitPath (behindPort ++ (splitAuthority (isSpecial scheme) s).2)).2).2⟩ : Url) = u :=
    Except.ok.inj h
  clear h
  subst hu
  -- The slash at the end is not part of the host.
  have hrest : ['/'] <:+ (splitAuthority (isSpecial scheme) s).2 := by
    rw [splitAuthority, List.span_eq_takeWhile_dropWhile]
    refine List.suffix_of_suffix_length_le hslash (List.dropWhile_suffix _) (List.length_pos_of_ne_nil fun hnil => ?_)
    exact absurd (List.dropWhile_eq_nil_iff.mp hnil '/' (hslash.subset List.mem_cons_self)) (by simp)
  have hpath : ['/'] <:+ behindPort ++ (splitAuthority (isSpecial scheme) s).2 := hrest.trans (List.suffix_append _ _)
  generalize behindPort ++ (splitAuthority (isSpecial scheme) s).2 = path at hpath hquery hfragment ⊢
  have hwhole : splitPath path = (path, []) := splitPath_of_tail (Prod.ext hquery hfragment)
  simp only [hwhole]
  cases path with
  | nil =>
    obtain ⟨t, ht⟩ := hpath
    simp at ht
  | cons c path =>
    have hend : path = [] ∨ ['/'] <:+ path := by
      rcases List.suffix_cons_iff.mp hpath with heq | hsuffix
      · exact Or.inl (List.cons.inj heq).2.symm
      · exact Or.inr hsuffix
    unfold pathBehindHost
    dsimp only
    split
    · obtain ⟨before, hb⟩ := resolve_of_trailing scheme hend
      exact ⟨before, congrArg _ hb⟩
    · obtain ⟨before, hb⟩ := resolve_of_trailing scheme (Or.inr hpath)
      exact ⟨before, congrArg _ hb⟩

/-- A special address needs a host. -/
theorem behindSlashes_nil {scheme : String} (hs : isSpecial scheme = true) : behindSlashes scheme [] = .error .emptyHost := by
  have hauthority (followed : Bool) : readAuthority scheme [] followed = .error .emptyHost := by
    simp [readAuthority, splitUser, splitHost, hs]
  rw [behindSlashes, splitAuthority, List.span_eq_takeWhile_dropWhile, List.takeWhile_nil]
  simp only [hauthority]
  rfl

/-- The last segment of an address that ends in a slash is empty, where that is not the end of a query or a fragment. -/
theorem path_of_trailing {s : String} {u : Url} (h : ofString s = .ok u) (hs : isSpecial u.scheme = true) (hf : u.scheme ≠ "file")
    (hslash : s.toList.getLast? = some '/') (hquery : u.query = none) (hfragment : u.fragment = none) :
    ∃ before, u.path = .segments (before ++ [""]) := by
  obtain ⟨body, hbody, hread⟩ := ofString_cases h hs hf
  have hend : ['/'] <:+ unbroken (trimmed s.toList) :=
    (suffix_trimmed (List.singleton_suffix_iff_getLast?_eq_some.mpr hslash)).filter (! isBreak ·)
  have hnonempty : body ≠ [] := by
    rintro rfl
    rw [behindSlashes_nil hs] at hread
    cases hread
  exact behindSlashes_trailing hread
    (List.suffix_of_suffix_length_le hend hbody (List.length_pos_of_ne_nil hnonempty)) hquery hfragment

/-! ## Dots -/

/-- A dot leads nowhere, and leaves a slash at the end. -/
theorem walk_dot (done rest : List String) : walk done ("." :: rest) = if rest = [] then done ++ [""] else walk done rest := by
  cases rest with
  | nil => rfl
  | cons s rest => simp [walk, step, isSingleDot, isDoubleDot]

/-- Two dots lead back behind a segment that does not hold back, and leave a slash at the end. -/
theorem walk_dots {s : String} (h : holdsBack s = false) (done rest : List String) :
    walk (done ++ [s]) (".." :: rest) = if rest = [] then done ++ [""] else walk done rest := by
  have hback : back (done ++ [s]) = done := by simp [back, h]
  cases rest with
  | nil => simp [walk, step, isDoubleDot, hback]
  | cons t rest => simp [walk, step, isDoubleDot, hback]

end ControlPlane.Url
