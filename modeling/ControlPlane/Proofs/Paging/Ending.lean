import ControlPlane.Proofs.Paging.Results
import Mathlib.Algebra.Order.Ring.Nat

/-!
# Every list ends

The numbers of the pages that are asked for rise, and there are no more than `2 ^ 32 - 1` of them. So a poll goes through a limited
number of rounds, in each of which a page is asked for or arrives (`Pager.pollWithin_rounds`), and a list that is polled often enough
comes to its end. The main statement is `PageSource.comes_to_its_end`: all this holds whatever a source answers, also of one that is
always ready and always names a page after the one it brings.
-/

namespace ControlPlane

variable {σ α : Type}

/-! ## Pages rise -/

/-- Numbers that rise from some number on are no more than there are numbers from it on. -/
theorem add_length_le_of_rising {pages : List UInt32} (h : pages.Pairwise (· < ·)) {low : Nat} (hlow : low ≤ 0x100000000)
    (hle : ∀ n ∈ pages, low ≤ n.toNat) : low + pages.length ≤ 0x100000000 := by
  induction pages generalizing low with
  | nil => exact hlow
  | cons page rest ih =>
    obtain ⟨hpage, hrest⟩ := List.pairwise_cons.mp h
    have h1 := hle page List.mem_cons_self
    have h2 := page.toNat_lt
    have hnext := ih hrest (show low + 1 ≤ 0x100000000 by omega) fun n hn => by
      have := UInt32.lt_iff_toNat_lt.mp (hpage n hn)
      omega
    rw [List.length_cons]
    omega

namespace PageSource

/-- The pages of a walk rise, from the page on from which it goes. -/
theorem pages_rise (source : PageSource σ α) (page : UInt32) (s : σ) :
    (Visit.pages (source.walk page s).1).Pairwise (· < ·) ∧ ∀ n ∈ Visit.pages (source.walk page s).1, page ≤ n := by
  induction page, s using walk.induct source with
  | case1 page s h =>
    rw [walk_eq]
    simp [h, walkOn, Visit.pages]
  | case2 page s next h ih =>
    obtain ⟨hrising, hle⟩ := ih
    have hlt : ∀ n ∈ Visit.pages (source.walk next.val (source page s).2).1, page < n := fun n hn =>
      UInt32.lt_of_lt_of_le next.property (hle n hn)
    rw [walk_eq]
    simp only [h, walkOn, Visit.pages, List.map_cons, List.pairwise_cons, List.mem_cons, forall_eq_or_imp]
    exact ⟨⟨hlt, hrising⟩, UInt32.le_refl page, fun n hn => UInt32.le_of_lt (hlt n hn)⟩

/-- A walk goes from the page on from which it is told to. -/
theorem head?_pages (source : PageSource σ α) (page : UInt32) (s : σ) :
    (Visit.pages (source.walk page s).1).head? = some page := by
  rw [walk_eq]
  rfl

/-- The pages asked for are the first ones of the walk from page 1 on. -/
theorem asked_prefix_pages (source : PageSource σ α) (s : σ) (k : Nat) :
    source.asked s k <+: Visit.pages (source.walk 1 s).1 := by
  obtain ⟨y, hc⟩ := told_course source s k
  exact hc.asked_prefix.trans (Visit.demanded_prefix_pages _ _)

end PageSource

/-! ## Polls end -/

namespace Pager

/-- Polls a pager for so many rounds at most: what the poll comes to, where it ends within them. -/
def pollWithin (source : PageSource σ α) : Nat → Pager α → σ → Option (Poll α × Pager α × σ)
  | 0, _, _ => none
  | n + 1, p, s =>
    match (p.step source s).1.told? with
    | some t => some (t, (p.step source s).2)
    | none => pollWithin source n (p.step source s).2.1 (p.step source s).2.2

/-- How many rounds a poll takes at most: two for each page that may still be asked for, since it is asked for in one and arrives in
another, and one to tell something. -/
def rounds : Pager α → Nat
  | .holding page _ _ => 2 * (0xffffffff - page.toNat) + 1
  | .fetching page _ => 2 * (0xffffffff - page.toNat) + 2

theorem rounds_pos (p : Pager α) : 0 < p.rounds := by
  cases p <;> exact Nat.succ_pos _

/-- No poll takes more rounds than one that has all pages before it. -/
theorem rounds_le (p : Pager α) : p.rounds ≤ 0x200000000 := by
  cases p <;> simp only [rounds] <;> omega

/-- A round that tells nothing leaves less rounds. -/
theorem rounds_step (source : PageSource σ α) (p : Pager α) (s : σ) (h : (p.step source s).1.told? = none) :
    (p.step source s).2.1.rounds < p.rounds := by
  match p with
  | .holding page (a :: items) next => cases h
  | .holding page [] none => cases h
  | .holding page [] (some next) =>
    have h1 := UInt32.lt_iff_toNat_lt.mp next.property
    have h2 := next.val.toNat_lt
    simp only [step, rounds]
    omega
  | .fetching page ⟨n + 1, result⟩ => cases h
  | .fetching page ⟨0, .error e⟩ => cases h
  | .fetching page ⟨0, .ok received⟩ =>
    simp only [step] at h ⊢
    cases hr : receive page received with
    | error e =>
      rw [hr] at h
      cases h
    | ok q =>
      obtain ⟨next, rfl⟩ := holding_of_receive hr
      exact Nat.lt_succ_self _

/-- A poll ends within its rounds. -/
theorem pollWithin_rounds (source : PageSource σ α) (p : Pager α) (s : σ) {n : Nat} (hn : p.rounds ≤ n) :
    pollWithin source n p s = some (p.poll source s) := by
  induction p, s using poll_induction source generalizing n with
  | told p s t ht =>
    obtain ⟨n, rfl⟩ : ∃ m, n = m + 1 := Nat.exists_eq_succ_of_ne_zero (Nat.ne_of_gt (Nat.lt_of_lt_of_le p.rounds_pos hn))
    rw [pollWithin, ht, poll_of_told ht]
  | silent p s ht ih =>
    obtain ⟨n, rfl⟩ : ∃ m, n = m + 1 := Nat.exists_eq_succ_of_ne_zero (Nat.ne_of_gt (Nat.lt_of_lt_of_le p.rounds_pos hn))
    rw [pollWithin, ht, poll_of_silent ht]
    exact ih (Nat.le_of_lt_succ (Nat.lt_of_lt_of_le (rounds_step source p s ht) hn))

/-! ## Lists that are taken as a whole -/

/-- What one has who takes a list as a whole, once the answers are known: all items at the end of the list, its first failure, or
nothing yet. -/
def gathered : List (Option (Result α)) → Option (Result (List α))
  | [] => none
  | none :: _ => some (.ok [])
  | some (.error e) :: _ => some (.error e)
  | some (.ok a) :: rest => (gathered rest).map (·.map (a :: ·))

/-- At the end of a list the whole list is there, or its first failure. -/
theorem gathered_ended (items : List (Result α)) : gathered (items.map some ++ [none]) = some (Fallible.whole items) := by
  induction items with
  | nil => rfl
  | cons r rest ih =>
    cases r with
    | error e => rfl
    | ok a =>
      rw [List.map_cons, List.cons_append, gathered, ih]
      rfl

end Pager

/-- Where there is one answer more than a list tells, they are what it tells and its end. -/
theorem PageSource.answers_ended (source : PageSource σ α) (s : σ) {k : Nat}
    (hk : (Pager.answers (source.told s k)).length = (source.listing 1 s).length + 1) :
    Pager.answers (source.told s k) = (source.results s).1.map some ++ [none] := by
  rw [answers_told, hk, results_eq_walk, List.range_succ, List.map_append, List.map_singleton,
    List.getElem?_eq_none (Nat.le_refl _)]
  congr 1
  refine List.ext_getElem (by simp) fun i h1 h2 => ?_
  rw [List.length_map, List.length_range] at h1
  simp [List.getElem?_eq_getElem h1]

/-- Whatever a source answers, its list ends. The pages that are asked for rise from page 1 on, however often the list is polled, and
there are never more than `2 ^ 32 - 1` of them; the number that follows a page where the number of all pages is known is one more, and
does not wrap. Every poll ends, within `2 ^ 33` rounds. As a fetch answers "not yet" only so many times, the answers after some number
of polls are all that the list tells and its end, and one who takes the list as a whole has it then. -/
theorem PageSource.comes_to_its_end (source : PageSource σ α) (s : σ) :
    (∀ k, (source.asked s k).Pairwise (· < ·) ∧ (∀ page ∈ (source.asked s k).head?, page = 1) ∧
        (source.asked s k).length ≤ 2 ^ 32 - 1) ∧
      (∀ (items : List α) (number : UInt32) (total : Option UInt32), ∀ next ∈ (Page.counted items number total).next,
        next.toNat = number.toNat + 1) ∧
      (∀ (p : Pager α) (t : σ), Pager.pollWithin source (2 ^ 33) p t = some (p.poll source t)) ∧
      ∃ k, Pager.answers (source.told s k) = (source.results s).1.map some ++ [none] ∧
        Pager.gathered (Pager.answers (source.told s k)) = some (source.collect s).1 := by
  refine ⟨fun k => ?_, fun items number total next h => Page.toNat_successor h,
    fun p t => Pager.pollWithin_rounds source p t p.rounds_le, ?_⟩
  · have hinit := asked_prefix_pages source s k
    obtain ⟨hrising, hle⟩ := pages_rise source 1 s
    have hasked : (source.asked s k).Pairwise (· < ·) := hrising.sublist hinit.sublist
    refine ⟨hasked, fun page hp => ?_, ?_⟩
    · cases hl : source.asked s k with
      | nil =>
        rw [hl] at hp
        cases hp
      | cons first rest =>
        rw [hl] at hp hinit
        have hhead := head?_pages source 1 s
        obtain ⟨more, hmore⟩ := hinit
        rw [← hmore] at hhead
        cases hp
        cases hhead
        rfl
    · have hone : ∀ n ∈ source.asked s k, 1 ≤ n.toNat := fun n hn => UInt32.le_iff_toNat_le.mp (hle n (hinit.subset hn))
      have := add_length_le_of_rising hasked (show 1 ≤ 0x100000000 by decide) hone
      omega
  · obtain ⟨k, hk⟩ := Pager.exists_polls_answers source ((source.listing 1 s).length + 1) .start s
    have hanswers := answers_ended source s hk
    exact ⟨k, hanswers, by rw [hanswers, Pager.gathered_ended]; rfl⟩

end ControlPlane
