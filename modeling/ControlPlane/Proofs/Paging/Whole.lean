import ControlPlane.Proofs.Paging.Results
import ControlPlane.Proofs.Words

/-!
# A list as a whole, or its first failure

The fetches of a list advance from page to page, as long as each brings a page that names one after it (`PageSource.Advances`), and come
either to a last page (`PageSource.EndsWith`) or to a failure (`PageSource.BreaksOff`). The main statement is
`PageSource.collects_all_or_nothing`: who collects a list has the items of all its pages, or the failure and no item, and nothing is
fetched behind either.
-/

namespace ControlPlane.PageSource

variable {σ α : Type} {source : PageSource σ α}

/-! ## The course of the fetches -/

/-- Pages that are fetched one after another, each of which names a page after it, with their numbers: from the page and the state where
the first of them is fetched to those where the next page is. -/
inductive Advances (source : PageSource σ α) : UInt32 → σ → List (UInt32 × Page α) → UInt32 → σ → Prop
  | refl (n : UInt32) (s : σ) : Advances source n s [] n s
  | step {n m k : UInt32} {s t : σ} {p : Page α} {rest : List (UInt32 × Page α)} :
      (source n s).1.result = .ok p → p.next = some m → n < m → Advances source m (source n s).2 rest k t →
      Advances source n s ((n, p) :: rest) k t

/-- The fetch of a page brings the last page. -/
def EndsWith (source : PageSource σ α) (n : UInt32) (s : σ) (last : Page α) : Prop :=
  (source n s).1.result = .ok last ∧ last.next = none

/-- The fetch of a page fails, or brings a page that names one that is not after it. -/
def BreaksOff (source : PageSource σ α) (n : UInt32) (s : σ) (e : Failure) : Prop :=
  (source n s).1.result = .error e ∨
    ∃ p m, (source n s).1.result = .ok p ∧ p.next = some m ∧ m ≤ n ∧ e = .invalidCursor n m

/-- The items of pages, in their order. -/
def itemsOf (pages : List (UInt32 × Page α)) : List α := pages.flatMap fun p => p.2.items

/-- The numbers of pages, in the order of their fetches. -/
def numbersOf (pages : List (UInt32 × Page α)) : List UInt32 := pages.map Prod.fst

@[simp] theorem itemsOf_nil : itemsOf ([] : List (UInt32 × Page α)) = [] := rfl

@[simp] theorem itemsOf_cons (p : UInt32 × Page α) (pages : List (UInt32 × Page α)) :
    itemsOf (p :: pages) = p.2.items ++ itemsOf pages := rfl

namespace Advances

variable {n m : UInt32} {s t : σ} {pages : List (UInt32 × Page α)}

/-- The walk goes along the pages by which the fetches advance: these tell their items, and the rest is told from there on. -/
theorem walk (h : source.Advances n s pages m t) :
    source.listing n s = (itemsOf pages).map .ok ++ source.listing m t ∧
      Visit.pages (source.walk n s).1 = numbersOf pages ++ Visit.pages (source.walk m t).1 ∧
      (source.walk n s).2 = (source.walk m t).2 := by
  induction h with
  | refl n s => exact ⟨rfl, rfl, rfl⟩
  | step hr hnext hrise _ ih =>
    obtain ⟨hlisting, hpages, hstate⟩ := ih
    refine ⟨?_, ?_, ?_⟩
    · rw [listing_of_next hr hnext hrise, hlisting, itemsOf_cons, List.map_append, List.append_assoc]
    · rw [walk_of_next hr hnext hrise]
      exact congrArg (_ :: ·) hpages
    · rw [walk_of_next hr hnext hrise]
      exact hstate

end Advances

/-- The last page is the only one visited from it on. -/
theorem EndsWith.walk {n : UInt32} {s : σ} {last : Page α} (h : source.EndsWith n s last) :
    source.walk n s = ([⟨n, last.items.map .ok⟩], (source n s).2) :=
  walk_of_last h.1 h.2

/-- So is a page whose fetch breaks off. -/
theorem BreaksOff.walk {n : UInt32} {s : σ} {e : Failure} (h : source.BreaksOff n s e) :
    source.walk n s = ([⟨n, [.error e]⟩], (source n s).2) := by
  rcases h with hr | ⟨p, m, hr, hn, hle, rfl⟩
  · exact walk_of_failed hr
  · exact walk_of_stale hr hn (UInt32.not_lt.mpr hle)

/-- The fetches of a list advance until they come to a last page or break off. -/
theorem exists_advances (source : PageSource σ α) (n : UInt32) (s : σ) :
    ∃ pages m t, source.Advances n s pages m t ∧ ((∃ last, source.EndsWith m t last) ∨ ∃ e, source.BreaksOff m t e) := by
  induction n, s using walk_induction source with
  | failed n s e hr => exact ⟨[], n, s, .refl n s, .inr ⟨e, .inl hr⟩⟩
  | stale n s p m hr hn hle => exact ⟨[], n, s, .refl n s, .inr ⟨_, .inr ⟨p, m, hr, hn, UInt32.not_lt.mp hle, rfl⟩⟩⟩
  | last n s p hr hn => exact ⟨[], n, s, .refl n s, .inl ⟨p, hr, hn⟩⟩
  | next n s p m hr hn hlt ih =>
    obtain ⟨pages, k, t, ha, hend⟩ := ih
    exact ⟨(n, p) :: pages, k, t, .step hr hn hlt ha, hend⟩

/-! ## What is collected -/

/-- A source that notes its fetches is walked through like any other, and notes the pages of the walk. -/
theorem walk_noting (source : PageSource σ α) (n : UInt32) (s : σ) (log : List UInt32) :
    source.noting.walk n (s, log) =
      ((source.walk n s).1, (source.walk n s).2, log ++ Visit.pages (source.walk n s).1) := by
  induction n, s using walk.induct source generalizing log with
  | case1 n s h =>
    rw [walk_eq, walk_eq source]
    simp [noting, h, walkOn, Visit.pages]
  | case2 n s next h ih =>
    rw [walk_eq, walk_eq source]
    simp only [noting, h, walkOn]
    rw [show source.noting.walk next.val ((source n s).2, log ++ [n]) = _ from ih (log ++ [n])]
    simp [Visit.pages]

/-- Collecting a list that notes its fetches comes to the whole list or its first failure, and fetches the pages of the walk. -/
theorem collect_noting (source : PageSource σ α) (s : σ) :
    source.noting.collect (s, []) =
      ((source.collect s).1, (source.collect s).2, Visit.pages (source.walk 1 s).1) := by
  simp only [collect, results_eq_walk, listing, walk_noting, List.nil_append]

theorem collect_eq (source : PageSource σ α) (s : σ) :
    source.collect s = (Fallible.whole (source.listing 1 s), (source.walk 1 s).2) := by
  rw [collect, results_eq_walk]

/-- What is collected behind pages by which the fetches advance is collected after their items. -/
theorem Advances.collect {s t : σ} {n : UInt32} {pages : List (UInt32 × Page α)} (h : source.Advances 1 s pages n t)
    {told : List (Result α)} (hw : source.walk n t = ([⟨n, told⟩], (source n t).2)) :
    source.noting.collect (s, []) =
      ((Fallible.whole told).map (itemsOf pages ++ ·), (source n t).2, numbersOf pages ++ [n]) := by
  obtain ⟨hlisting, hpages, hstate⟩ := h.walk
  have htold : source.listing n t = told := by
    rw [listing, hw]
    exact List.append_nil told
  rw [collect_noting, collect_eq, hlisting, hpages, hstate, htold, hw, Fallible.whole_append]
  rfl

/-- A list whose fetches come to a last page is collected as a whole. -/
theorem Advances.collect_of_endsWith {s t : σ} {n : UInt32} {pages : List (UInt32 × Page α)} {last : Page α}
    (h : source.Advances 1 s pages n t) (hl : source.EndsWith n t last) :
    source.noting.collect (s, []) = (.ok (itemsOf pages ++ last.items), (source n t).2, numbersOf pages ++ [n]) := by
  rw [h.collect hl.walk, Fallible.whole_map_ok]
  rfl

/-- Of a list whose fetches break off there is the failure alone. -/
theorem Advances.collect_of_breaksOff {s t : σ} {n : UInt32} {pages : List (UInt32 × Page α)} {e : Failure}
    (h : source.Advances 1 s pages n t) (he : source.BreaksOff n t e) :
    source.noting.collect (s, []) = (.error e, (source n t).2, numbersOf pages ++ [n]) :=
  h.collect he.walk

/-! ## Sources that count their pages -/

/-- The numbers of so many pages, from a page on. -/
def numbersFrom (n count : Nat) : List UInt32 := (List.range' n count).map Nat.toUInt32

/-- Whether a source answers for each of its pages, of which there is one at least, with the items of the page and the number of all
pages. -/
def Serves (source : PageSource σ α) (total : UInt32) (items : UInt32 → List α) : Prop :=
  ∀ n s, 1 ≤ n → n ≤ max 1 total → (source n s).1.result = .ok (.counted (items n) n (some total))

namespace Serves

variable {total : UInt32} {items : UInt32 → List α}

/-- A page of a source that counts its pages. -/
theorem page (h : source.Serves total items) {n : UInt32} (hn : 1 ≤ n) (hle : n.toNat ≤ max 1 total.toNat) (s : σ) :
    (source n s).1.result = .ok (.counted (items n) n (some total)) := by
  refine h n s hn ?_
  rw [UInt32.le_iff_toNat_le, toNat_max_one]
  exact hle

/-- From a page on, the fetches advance page by page to the last one. -/
theorem advances (h : source.Serves total items) {left : Nat} {n : UInt32} (hn : 1 ≤ n)
    (hleft : n.toNat + left = max 1 total.toNat) (s : σ) :
    ∃ pages m t last, source.Advances n s pages m t ∧ source.EndsWith m t last ∧
      numbersOf pages ++ [m] = numbersFrom n.toNat (left + 1) ∧
      itemsOf pages ++ last.items = (numbersFrom n.toNat (left + 1)).flatMap items := by
  have hself (n : UInt32) : n.toNat.toUInt32 = n := UInt32.ofNat_toNat
  have hone (n : UInt32) (hn : 1 ≤ n) : 1 ≤ n.toNat := UInt32.le_iff_toNat_le.mp hn
  induction left generalizing n s with
  | zero =>
    have hlast : Page.successor n (some total) = none := (Page.successor_toNat n total).1 (by omega)
    refine ⟨[], n, s, _, .refl n s, ⟨h.page hn (by omega) s, hlast⟩, ?_, ?_⟩
    · simp [numbersFrom, numbersOf, hself]
    · simp [numbersFrom, Page.counted, hself]
  | succ left ih =>
    have hpos := hone n hn
    obtain ⟨m, hnext, hrise, hm⟩ := (Page.successor_toNat n total).2 (by omega)
    have hm1 : 1 ≤ m := UInt32.le_trans hn (UInt32.le_of_lt hrise)
    obtain ⟨pages, k, t, last, ha, hend, hnumbers, hitems⟩ := ih hm1 (by omega) (source n s).2
    have hfrom : numbersFrom n.toNat (left + 1 + 1) = n :: numbersFrom m.toNat (left + 1) := by
      rw [numbersFrom, List.range'_succ, List.map_cons, hself, ← hm]
      rfl
    refine ⟨(n, .counted (items n) n (some total)) :: pages, k, t, last, ?_, hend, ?_, ?_⟩
    · exact .step (h.page hn (by omega) s) hnext hrise ha
    · rw [hfrom, ← hnumbers]
      rfl
    · rw [hfrom, List.flatMap_cons, ← hitems, itemsOf_cons, List.append_assoc]
      rfl

end Serves

/-! ## All or nothing -/

/-- Collecting a list gives all of it or nothing, whatever a source does. It gives items just if the fetches advance to a last page, and
then they are those of all pages, in their order; it gives a failure just if they break off, and then it is that failure alone. Fetched
are the pages by which the fetches advance and the one to which they come, in this order, and none behind it. In particular, where a
source counts its pages, each of them is fetched once, from page 1 on, and all their items are there. -/
theorem collects_all_or_nothing (source : PageSource σ α) (s : σ) :
    (∀ items, (source.collect s).1 = .ok items ↔
      ∃ pages n t last, source.Advances 1 s pages n t ∧ source.EndsWith n t last ∧ items = itemsOf pages ++ last.items) ∧
      (∀ e, (source.collect s).1 = .error e ↔ ∃ pages n t, source.Advances 1 s pages n t ∧ source.BreaksOff n t e) ∧
      (∀ pages n t, source.Advances 1 s pages n t →
        ((∃ last, source.EndsWith n t last) ∨ ∃ e, source.BreaksOff n t e) →
          source.noting.collect (s, []) = ((source.collect s).1, (source.collect s).2, numbersOf pages ++ [n]) ∧
            (source.collect s).2 = (source n t).2) ∧
      ∀ total items, source.Serves total items →
        (source.collect s).1 = .ok ((numbersFrom 1 (max 1 total.toNat)).flatMap items) ∧
          (source.noting.collect (s, [])).2.2 = numbersFrom 1 (max 1 total.toNat) := by
  have hnoting := collect_noting source s
  have hok {pages : List (UInt32 × Page α)} {n : UInt32} {t : σ} {last : Page α} (ha : source.Advances 1 s pages n t)
      (hl : source.EndsWith n t last) : (source.collect s).1 = .ok (itemsOf pages ++ last.items) :=
    congrArg Prod.fst (hnoting.symm.trans (ha.collect_of_endsWith hl))
  have herror {pages : List (UInt32 × Page α)} {n : UInt32} {t : σ} {e : Failure} (ha : source.Advances 1 s pages n t)
      (he : source.BreaksOff n t e) : (source.collect s).1 = .error e :=
    congrArg Prod.fst (hnoting.symm.trans (ha.collect_of_breaksOff he))
  obtain ⟨pages, n, t, ha, hend⟩ := exists_advances source 1 s
  refine ⟨fun items => ⟨fun h => ?_, ?_⟩, fun e => ⟨fun h => ?_, ?_⟩, fun pages n t ha hend => ?_, fun total items h => ?_⟩
  · rcases hend with ⟨last, hl⟩ | ⟨e, he⟩
    · exact ⟨pages, n, t, last, ha, hl, Except.ok.inj (h.symm.trans (hok ha hl))⟩
    · cases h.symm.trans (herror ha he)
  · rintro ⟨pages, n, t, last, ha, hl, rfl⟩
    exact hok ha hl
  · rcases hend with ⟨last, hl⟩ | ⟨e', he⟩
    · cases h.symm.trans (hok ha hl)
    · cases h.symm.trans (herror ha he)
      exact ⟨pages, n, t, ha, he⟩
  · rintro ⟨pages, n, t, ha, he⟩
    exact herror ha he
  · have hcollect : source.noting.collect (s, []) = ((source.collect s).1, (source n t).2, numbersOf pages ++ [n]) := by
      rcases hend with ⟨last, hl⟩ | ⟨e, he⟩
      · rw [ha.collect_of_endsWith hl, hok ha hl]
      · rw [ha.collect_of_breaksOff he, herror ha he]
    have hstate : (source.collect s).2 = (source n t).2 := congrArg (·.2.1) (hnoting.symm.trans hcollect)
    exact ⟨by rw [hcollect, hstate], hstate⟩
  · have hleft : (1 : UInt32).toNat + (max 1 total.toNat - 1) = max 1 total.toNat := by
      have : (1 : UInt32).toNat = 1 := rfl
      omega
    obtain ⟨pages, n, t, last, ha, hl, hnumbers, hitems⟩ := h.advances (UInt32.le_refl 1) hleft s
    have hcount : max 1 total.toNat - 1 + 1 = max 1 total.toNat := by omega
    rw [hcount] at hnumbers hitems
    refine ⟨?_, ?_⟩
    · rw [hok ha hl, hitems]
      rfl
    · rw [ha.collect_of_endsWith hl]
      exact hnumbers

/-- A source of three pages, of which each answers "not yet" once. -/
def threePages : PageSource Nat UInt32 := fun n s => (⟨1, .ok (.counted [n, n] n (some 3))⟩, s + 1)

/-- The three pages of a source are collected, and so they are fetched. -/
theorem collects_three_pages :
    threePages.Serves 3 (fun n => [n, n]) ∧
      (∃ pages t last, threePages.Advances 1 0 pages 3 t ∧ threePages.EndsWith 3 t last ∧
        threePages.noting.collect (0, []) = ((threePages.collect 0).1, (threePages.collect 0).2, [1, 2, 3])) ∧
      (threePages.collect 0).1 = .ok [1, 1, 2, 2, 3, 3] ∧ (threePages.noting.collect (0, [])).2.2 = [1, 2, 3] := by
  have hserves : threePages.Serves 3 (fun n => [n, n]) := fun _ _ _ _ => rfl
  have hadvances : threePages.Advances 1 0 [(1, .counted [1, 1] 1 (some 3)), (2, .counted [2, 2] 2 (some 3))] 3 2 :=
    .step rfl rfl (by decide) (.step rfl rfl (by decide) (.refl 3 2))
  have hend : threePages.EndsWith 3 2 (.counted [3, 3] 3 (some 3)) := ⟨rfl, rfl⟩
  obtain ⟨-, -, hfetched, hserved⟩ := collects_all_or_nothing threePages 0
  exact ⟨hserves, ⟨_, 2, _, hadvances, hend, (hfetched _ 3 2 hadvances (.inl ⟨_, hend⟩)).1⟩, hserved 3 _ hserves⟩

end ControlPlane.PageSource
