import ControlPlane.Proofs.Paging.Polls

/-!
# Everything a list tells

A pager that takes everything takes what lies ahead of it, and leaves its source where the plain walk leaves it:
`results_eq_walk`.
-/

namespace ControlPlane

variable {σ α : Type}

namespace Course

variable {x y : Position α} {asked : List UInt32}

/-- Without an answer there is as much ahead as before. -/
theorem ahead_of_none (h : Course x asked [] y) : y.ahead = x.ahead := h.left

/-- An answer that is not the end was the first of what lay ahead. -/
theorem ahead_of_answer {a : Result α} (h : Course x asked [some a] y) : x.ahead = a :: y.ahead := by
  have h0 : x.ahead[0]? = some a := (Option.some.inj (h.answered 0 Nat.one_pos)).symm
  have hl := h.left
  rw [List.length_singleton] at hl
  cases hx : x.ahead with
  | nil => rw [hx] at h0; cases h0
  | cons b rest =>
    rw [hx] at h0 hl
    cases h0
    rw [hl]
    rfl

/-- The end is answered only where nothing lies ahead. -/
theorem ahead_of_end (h : Course x asked [none] y) : x.ahead = [] := by
  have h0 : x.ahead[0]? = none := (Option.some.inj (h.answered 0 Nat.one_pos)).symm
  exact List.eq_nil_of_length_eq_zero (Nat.le_zero.mp (List.getElem?_eq_none_iff.mp h0))

end Course

namespace Pager

/-- The state in which a pager will leave its source. -/
def leaves (source : PageSource σ α) : Pager α → σ → σ
  | .holding _ _ next, s => (source.walkOn next s).2
  | .fetching page fetch, s => (source.walkOn (Visit.disclosed page fetch.result).2 s).2

/-- A received page leads to the same state as the fetch of it. -/
theorem leaves_receive (source : PageSource σ α) {page : UInt32} {received : Page α} {p : Pager α} (s : σ)
    (h : receive page received = .ok p) :
    p.leaves source s = (fetching page ⟨0, .ok received⟩).leaves source s := by
  unfold receive at h
  simp only [leaves, Visit.disclosed]
  cases hn : received.next with
  | none =>
    simp only [hn] at h ⊢
    cases h
    rfl
  | some n =>
    simp only [hn] at h ⊢
    by_cases hlt : page < n
    · simp only [hlt, dite_true] at h ⊢
      cases h
      rfl
    · simp [hlt] at h

/-- A page that is refused leaves the source where it is. -/
theorem leaves_refuse (source : PageSource σ α) {page : UInt32} {received : Page α} {e : Failure} (s : σ)
    (h : receive page received = .error e) : (fetching page ⟨0, .ok received⟩).leaves source s = s := by
  unfold receive at h
  simp only [leaves, Visit.disclosed]
  cases hn : received.next with
  | none => simp [hn] at h
  | some n =>
    simp only [hn] at h ⊢
    by_cases hlt : page < n
    · simp [hlt] at h
    · simp only [hlt, dite_false]
      rfl

/-- A step does not change where the source will be left. -/
theorem leaves_step (source : PageSource σ α) (p : Pager α) (s : σ) :
    (p.step source s).2.1.leaves source (p.step source s).2.2 = p.leaves source s := by
  match p with
  | .holding page (a :: items) next | .holding page [] none | .fetching page ⟨n + 1, result⟩
  | .fetching page ⟨0, .error e⟩ => rfl
  | .holding page [] (some next) => simp only [step, leaves, PageSource.walkOn, PageSource.walk_eq source next.val s]
  | .fetching page ⟨0, .ok received⟩ =>
    simp only [step]
    cases h : receive page received with
    | ok q => exact leaves_receive source s h
    | error e => exact (leaves_refuse source s h).symm

/-- Neither does a poll. -/
theorem leaves_poll (source : PageSource σ α) (p : Pager α) (s : σ) :
    (p.poll source s).2.1.leaves source (p.poll source s).2.2 = p.leaves source s := by
  induction p, s using poll_induction source with
  | told p s t ht => rw [poll_of_told ht, leaves_step]
  | silent p s ht ih => rw [poll_of_silent ht, ih, leaves_step]

/-- Neither do any number of polls. -/
theorem leaves_polls (source : PageSource σ α) (k : Nat) (p : Pager α) (s : σ) :
    (polls source k p s).2.1.leaves source (polls source k p s).2.2 = p.leaves source s := by
  induction k generalizing p s with
  | zero => rfl
  | succ k ih => exact (ih _ _).trans (leaves_poll source p s)

/-- A step that tells the end or a failure ends the pager. -/
theorem ended_of_step (source : PageSource σ α) (p : Pager α) (s : σ)
    (h : (p.step source s).1 = .finished ∨ ∃ e, (p.step source s).1 = .failed e) :
    ∃ page, (p.step source s).2.1 = ended page := by
  match p with
  | .holding page (a :: items) next => rcases h with h | ⟨e, h⟩ <;> cases h
  | .holding page [] none => exact ⟨page, rfl⟩
  | .holding page [] (some next) => rcases h with h | ⟨e, h⟩ <;> cases h
  | .fetching page ⟨n + 1, result⟩ => rcases h with h | ⟨e, h⟩ <;> cases h
  | .fetching page ⟨0, .error e⟩ => exact ⟨page, rfl⟩
  | .fetching page ⟨0, .ok received⟩ =>
    refine ⟨page, ?_⟩
    simp only [step] at h ⊢
    cases hr : receive page received with
    | ok q => rw [hr] at h; rcases h with h | ⟨e, h⟩ <;> cases h
    | error e => rfl

/-! ## Taking everything -/

/-- Where a step answers nothing the rest is taken. -/
theorem results_of_unanswered {source : PageSource σ α} {p : Pager α} {s : σ}
    (h : answers (p.step source s).1.told?.toList = []) :
    p.results source s = (p.step source s).2.1.results source (p.step source s).2.2 := by
  rw [results]
  split
  · next heq => rw [heq]
  · next heq => rw [heq]
  · next heq => rw [heq] at h; cases h
  · next heq => rw [heq] at h; cases h
  · next heq => rw [heq] at h; cases h

/-- Where a step hands out an item, it is taken before the rest. -/
theorem results_of_item {source : PageSource σ α} {p q : Pager α} {s t : σ} {a : α}
    (h : p.step source s = (.item a, q, t)) :
    p.results source s = (.ok a :: (q.results source t).1, (q.results source t).2) := by
  rw [results]
  split <;> simp_all

/-- Where a step tells the end, nothing is taken. -/
theorem results_of_finished {source : PageSource σ α} {p q : Pager α} {s t : σ}
    (h : p.step source s = (.finished, q, t)) : p.results source s = ([], t) := by
  rw [results]
  split <;> simp_all

/-- Where a step fails, its failure is all that is taken. -/
theorem results_of_failed {source : PageSource σ α} {p q : Pager α} {s t : σ} {e : Failure}
    (h : p.step source s = (.failed e, q, t)) : p.results source s = ([.error e], t) := by
  rw [results]
  split <;> simp_all

/-- Taking everything takes what lies ahead of a pager, and leaves its source where the pager would leave it. -/
theorem results_eq (source : PageSource σ α) (p : Pager α) (s : σ) :
    p.results source s = ((p.position source s).ahead, p.leaves source s) := by
  induction p, s using results.induct source with
  | case1 p s q t h ih | case2 p s q t h ih =>
    have hc := step_course source p s
    have hl := leaves_step source p s
    rw [results_of_unanswered (by rw [h]; rfl)]
    rw [h] at hc hl ⊢
    rw [ih, hc.ahead_of_none, hl]
  | case3 p s q t h =>
    have hc := step_course source p s
    have hl := leaves_step source p s
    obtain ⟨page, hq⟩ := ended_of_step source p s (.inl (by rw [h]))
    rw [results_of_finished h]
    rw [h] at hc hl hq
    rw [hc.ahead_of_end, ← hl, hq]
    rfl
  | case4 p s a q t h ih =>
    have hc := step_course source p s
    have hl := leaves_step source p s
    rw [results_of_item h, ih]
    rw [h] at hc hl
    rw [hc.ahead_of_answer, ← hl]
  | case5 p s e q t h =>
    have hc := step_course source p s
    have hl := leaves_step source p s
    obtain ⟨page, hq⟩ := ended_of_step source p s (.inr ⟨e, by rw [h]⟩)
    rw [results_of_failed h]
    rw [h] at hc hl hq
    simp only at hq
    rw [hc.ahead_of_answer, ← hl, hq]
    rfl

end Pager

/-- A list that is taken from its beginning tells what the plain walk tells, and leaves its source where the walk leaves
it. -/
theorem PageSource.results_eq_walk (source : PageSource σ α) (s : σ) :
    source.results s = (source.listing 1 s, (source.walk 1 s).2) :=
  Pager.results_eq source .start s

/-- A list that is polled to its end leaves its source where one that is taken as a whole does. -/
theorem PageSource.polls_to_end (source : PageSource σ α) (s : σ) {k : Nat}
    (h : none ∈ Pager.answers (source.told s k)) : (Pager.polls source k .start s).2.2 = (source.results s).2 := by
  obtain ⟨page, hp⟩ := Pager.polls_last source k .start s h (.inl rfl)
  have hl := Pager.leaves_polls source k .start s
  rw [hp] at hl
  rw [results_eq_walk]
  exact hl

end ControlPlane
