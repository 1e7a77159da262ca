import ControlPlane.Text.Composed

/-!
# Text that is composed

Characters that are made again from their parts, and are joined to nothing before them, are composed text in any order
(`Text.composed_of_steady`). Such are the ASCII characters, and the letters of most scripts with and without their marks.
-/

namespace ControlPlane.Text

/-- Whether a character is the second part of a composite. -/
def isSecond (c : Char) : Bool :=
  0x300 ≤ c.toNat && ((placeIn firstVowel vowels c).isSome || (placeIn noTail tails c).isSome || composites.any (·.second == c))

/-- Whether a character is made again from its parts, of which the first is no mark and is joined to nothing before it. -/
def isSteady (c : Char) : Bool :=
  match apart mostSteps c with
  | [] => false
  | first :: marks => combiningClass first == 0 && !isSecond first && joinedTo first [] (arranged marks) == [c]

/-- What is no second part is joined to nothing before it. -/
theorem joined?_of_not_second {c : Char} (h : isSecond c = false) (first : Char) : joined? first c = none := by
  unfold joined?
  split
  · rfl
  · next hcode =>
    rw [isSecond, decide_eq_true (Nat.le_of_not_lt hcode), Bool.true_and, Bool.or_eq_false_iff, Bool.or_eq_false_iff] at h
    obtain ⟨⟨hvowel, htail⟩, hcomposite⟩ := h
    have hv : placeIn firstVowel vowels c = none := by simpa using hvowel
    have ht : placeIn noTail tails c = none := by simpa using htail
    have hsyllable : syllable? first c = none := by
      unfold syllable?
      rw [hv]
      cases placeIn firstLead leads first <;> simp [ht]
    have hfind : (composites.find? fun k => k.second == c && k.first == first) = none :=
      List.find?_eq_none.mpr fun k hk => by simp [List.any_eq_false.mp hcomposite k hk]
    rw [hsyllable, hfind]
    rfl

/-! ## Where a letter begins -/

section

variable {c : Char} (hc : combiningClass c = 0)

include hc

/-- A mark is not put behind a letter that comes after it. -/
theorem place_append (m : Char) (s t : List Char) : place m (s ++ c :: t) = place m s ++ c :: t := by
  induction s with
  | nil =>
    show place m (c :: t) = m :: c :: t
    rw [place, hc, if_neg (by simp)]
  | cons d s ih =>
    rw [List.cons_append, place, place]
    split
    · rw [ih, List.cons_append]
    · rfl

/-- The marks before a letter are arranged without it, and those behind it too. -/
theorem arranged_append (s t : List Char) : arranged (s ++ c :: t) = arranged s ++ c :: arranged t := by
  induction s with
  | nil =>
    show place c (arranged t) = c :: arranged t
    cases arranged t with
    | nil => rfl
    | cons d t => rw [place, hc, if_neg (by simp)]
  | cons d s ih =>
    show place d (arranged (s ++ c :: t)) = place d (arranged s) ++ c :: arranged t
    rw [ih, place_append hc]

/-- What comes before a letter that is joined to nothing is joined without it. -/
theorem joinedTo_append (hj : ∀ d, joined? d c = none) (first : Char) (between s t : List Char) :
    joinedTo first between (s ++ c :: t) = joinedTo first between s ++ joinedTo c [] t := by
  induction s generalizing first between with
  | nil =>
    rw [List.nil_append, joinedTo, joinedTo, hj]
    simp [hc]
  | cons d s ih =>
    rw [List.cons_append, joinedTo, joinedTo]
    split
    · exact ih _ _
    · split
      · rw [ih, List.append_assoc]
      · exact ih _ _

end

/-! ## Steady characters -/

/-- The parts of a steady character. -/
theorem parts_of_steady {c : Char} (h : isSteady c = true) : ∃ first marks, apart mostSteps c = first :: marks ∧
    combiningClass first = 0 ∧ (∀ d, joined? d first = none) ∧ joinedTo first [] (arranged marks) = [c] := by
  unfold isSteady at h
  split at h
  · cases h
  · next first marks hparts =>
    rw [Bool.and_eq_true, Bool.and_eq_true, beq_iff_eq, Bool.not_eq_true', beq_iff_eq] at h
    exact ⟨first, marks, hparts, h.1.1, joined?_of_not_second h.1.2, h.2⟩

/-- Steady characters are composed text. -/
theorem composed_of_steady {s : List Char} (h : ∀ c ∈ s, isSteady c = true) : composed s = s := by
  induction s with
  | nil => rfl
  | cons c s ih =>
    obtain ⟨first, marks, hparts, hclass, hfirst, hagain⟩ := parts_of_steady (h c List.mem_cons_self)
    have hrest : composed s = s := ih fun d hd => h d (List.mem_cons_of_mem c hd)
    have hbegin : composed (c :: s) = joinedTo first [] (arranged (marks ++ s.flatMap (apart mostSteps))) := by
      rw [composed, List.flatMap_cons, hparts, List.cons_append, ← List.nil_append (first :: _), arranged_append hclass]
      exact if_pos hclass
    rw [hbegin]
    -- the marks end where the parts of the next character begin
    cases s with
    | nil => rw [List.flatMap_nil, List.append_nil, hagain]
    | cons d s =>
      obtain ⟨next, more, hparts', hclass', hnext, -⟩ := parts_of_steady (h d (List.mem_cons_of_mem c List.mem_cons_self))
      rw [composed, List.flatMap_cons, hparts', List.cons_append, ← List.nil_append (next :: _), arranged_append hclass'] at hrest
      rw [List.flatMap_cons, hparts', List.cons_append, arranged_append hclass', joinedTo_append hclass' hnext, hagain]
      exact congrArg (c :: ·) ((if_pos hclass').symm.trans hrest)

/-- ASCII has no composites, and no marks that could be joined to a letter. -/
theorem isSteady_ascii {c : Char} (h : c.toNat < 0x80) : isSteady c = true := by
  have hp : parts? c = none := if_pos (by omega)
  have hk : combiningClass c = 0 := if_pos (by omega)
  have hs : isSecond c = false := by
    rw [isSecond, decide_eq_false (by omega), Bool.false_and]
  rw [isSteady, mostSteps, apart, hp]
  simp only [hk, hs, arranged, List.foldr_nil, joinedTo, BEq.rfl, Bool.not_false, Bool.and_self]

end ControlPlane.Text
