import ControlPlane.Page.Pager

/-!
# What can be polled

A pager is one of the things that can be polled (`Polled`). Others are a single result (`Polled.once`), and anything that is polled with
something made of each item (`Polled.mapItems`). Polls are orderly where they hand out items, and then tell the end or a failure with
nothing behind it (`Polled.IsOrderly`): what they tell tapers off (`Polled.IsOrderly.tapers`), and nothing is done any more after that
(`Polled.IsOrderly.times_after`).
-/

namespace ControlPlane

open Pager (Poll)

variable {γ σ α β : Type}

/-- Something that can be polled, in any of its states: what it tells, and its next state. -/
abbrev Polled (γ σ α : Type) := γ → σ → Poll α × γ × σ

namespace Pager.Poll

/-- Whether the end is told, or a failure. -/
def IsLast (t : Poll α) : Prop := t = .finished ∨ ∃ e, t = .failed e

/-- What is told, with something made of the item. -/
def map (f : α → β) : Poll α → Poll β
  | .pending => .pending
  | .finished => .finished
  | .item a => .item (f a)
  | .failed e => .failed e

/-- Whether items are told and then at most one thing more, with nothing behind it but the end. -/
def Tapers (told : List (Poll α)) : Prop :=
  ∃ (items : List α) (rest : List (Poll α)), told = items.map .item ++ rest ∧
    (rest = [] ∨ ∃ t n, IsLast t ∧ rest = t :: List.replicate n .finished)

end Pager.Poll

namespace Polled

/-- Polls something so many times: what it tells each time, and the state after that. -/
def times (p : Polled γ σ α) : Nat → γ → σ → List (Poll α) × γ × σ
  | 0, x, s => ([], x, s)
  | k + 1, x, s =>
    let first := p x s
    let rest := times p k first.2.1 first.2.2
    (first.1 :: rest.1, rest.2)

/-- A single result, and the end behind it. -/
def once (result : σ → Result α × σ) : Polled Bool σ α
  | true, s =>
    match result s with
    | (.ok a, s) => (.item a, false, s)
    | (.error e, s) => (.failed e, false, s)
  | false, s => (.finished, false, s)

/-- A pager. -/
def pager (source : PageSource σ α) : Polled (Pager α) σ α := fun x s => x.poll source s

/-- Something that is polled, with something made of each item that it hands out. -/
def mapItems (f : α → β) (p : Polled γ σ α) : Polled γ σ β := fun x s => ((p x s).1.map f, (p x s).2)

/-- Polls go on from where earlier ones ended. -/
theorem times_add (p : Polled γ σ α) (k j : Nat) (x : γ) (s : σ) :
    p.times (k + j) x s =
      let first := p.times k x s
      let rest := p.times j first.2.1 first.2.2
      (first.1 ++ rest.1, rest.2) := by
  induction k generalizing x s with
  | zero => simp [times]
  | succ k ih =>
    rw [Nat.succ_add, times, ih]
    rfl

/-- What every poll keeps, any number of polls keep. -/
theorem times_keeps (p : Polled γ σ α) {P : σ → Prop} (h : ∀ x s, P s → P (p x s).2.2) (k : Nat) (x : γ) {s : σ} (hs : P s) :
    P (p.times k x s).2.2 := by
  induction k generalizing x s with
  | zero => exact hs
  | succ k ih => exact ih _ (h x s hs)

@[simp] theorem length_times (p : Polled γ σ α) (k : Nat) (x : γ) (s : σ) : (p.times k x s).1.length = k := by
  induction k generalizing x s with
  | zero => rfl
  | succ k ih => exact congrArg Nat.succ (ih _ _)

/-! ## Orderly polls -/

/-- Whether nothing is told or done any more but that the end is told. -/
def IsOver (p : Polled γ σ α) (x : γ) : Prop := ∀ s, p x s = (.finished, x, s)

/-- Whether polls are orderly from some states on: from any of them a poll hands out an item and comes to another of them, or tells the
end or a failure, with nothing behind it. -/
def IsOrderly (p : Polled γ σ α) (Within : γ → Prop) : Prop :=
  ∀ x s, Within x → (∃ a y u, p x s = (.item a, y, u) ∧ Within y) ∨ ((p x s).1.IsLast ∧ p.IsOver (p x s).2.1)

variable {p : Polled γ σ α} {Within : γ → Prop} {x : γ}

/-- What is over stays so. -/
theorem IsOver.times (h : p.IsOver x) (k : Nat) (s : σ) : p.times k x s = (List.replicate k .finished, x, s) := by
  induction k with
  | zero => rfl
  | succ k ih =>
    rw [Polled.times, h s, ih]
    rfl

namespace IsOrderly

/-- Orderly polls tell items, and then at most one thing more. -/
theorem tapers (h : p.IsOrderly Within) (hx : Within x) (k : Nat) (s : σ) : Poll.Tapers (p.times k x s).1 := by
  induction k generalizing x s with
  | zero => exact ⟨[], [], rfl, .inl rfl⟩
  | succ k ih =>
    rw [Polled.times]
    rcases h x s hx with ⟨a, y, u, hp, hy⟩ | ⟨hlast, hover⟩
    · obtain ⟨items, rest, htold, hrest⟩ := ih hy u
      rw [hp]
      exact ⟨a :: items, rest, congrArg (_ :: ·) htold, hrest⟩
    · exact ⟨[], _, rfl, .inr ⟨_, k, hlast, by rw [hover.times]⟩⟩

/-- Once they have told the end or a failure, they are over. -/
theorem isOver (h : p.IsOrderly Within) (hx : Within x) {k : Nat} {s : σ} {t : Poll α} (ht : t ∈ (p.times k x s).1)
    (hl : t.IsLast) : p.IsOver (p.times k x s).2.1 := by
  induction k generalizing x s with
  | zero => cases ht
  | succ k ih =>
    rw [Polled.times] at ht ⊢
    rcases h x s hx with ⟨a, y, u, hp, hy⟩ | ⟨-, hover⟩
    · rw [hp] at ht ⊢
      rcases List.mem_cons.mp ht with rfl | ht
      · rcases hl with h | ⟨e, h⟩ <;> cases h
      · exact ih hy ht
    · rwa [hover.times]

/-- Behind the end and behind a failure, the end is told for ever, and nothing is done. -/
theorem times_after (h : p.IsOrderly Within) (hx : Within x) {k : Nat} {s : σ} {t : Poll α} (ht : t ∈ (p.times k x s).1)
    (hl : t.IsLast) (j : Nat) :
    p.times (k + j) x s = ((p.times k x s).1 ++ List.replicate j .finished, (p.times k x s).2) := by
  rw [times_add]
  simp only [(h.isOver hx ht hl).times]

end IsOrderly

end Polled

end ControlPlane
