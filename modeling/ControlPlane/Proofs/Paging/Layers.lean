import ControlPlane.Proofs.Paging.Polls

/-!
# Lists in layers

Where what is polled hands out lists, these can be read one after another as one list (`Nested`). A poll of nested lists goes through
rounds, in each of which a list is begun or left, until there is something to tell (`Nested.Tells`). The main statement is
`Nested.Follows.runs_iff`: what goes along with nested lists poll by poll tells all that they tell, and nothing else.
-/

namespace ControlPlane

open Pager (Poll)

variable {γ δ ε σ α : Type}

/-- The state of lists that are read one after another: the state of what lists them, and that of the one being read, if there is
one. -/
structure Nested (γ δ : Type) where
  outer : γ
  current : Option δ

namespace Nested

/-- One round: the list being read tells something, or is left at its end; where none is being read, the next one is begun. A failure
leaves everything where it is. -/
def step (outer : Polled γ σ δ) (inner : Polled δ σ α) : Nested γ δ → σ → Option (Poll α) × Nested γ δ × σ
  | ⟨x, some y⟩, s =>
    match inner y s with
    | (.finished, _, u) => (none, ⟨x, none⟩, u)
    | (t, z, u) => (some t, ⟨x, some z⟩, u)
  | ⟨x, none⟩, s =>
    match outer x s with
    | (.item y, z, u) => (none, ⟨z, some y⟩, u)
    | (.pending, z, u) => (some .pending, ⟨z, none⟩, u)
    | (.finished, z, u) => (some .finished, ⟨z, none⟩, u)
    | (.failed e, z, u) => (some (.failed e), ⟨z, none⟩, u)

/-- What a poll tells: there are rounds until one tells something. -/
inductive Tells (outer : Polled γ σ δ) (inner : Polled δ σ α) : Nested γ δ → σ → Poll α → Nested γ δ → σ → Prop
  | now {x y : Nested γ δ} {s u : σ} {t : Poll α} : step outer inner x s = (some t, y, u) → Tells outer inner x s t y u
  | later {x y z : Nested γ δ} {s u v : σ} {t : Poll α} :
      step outer inner x s = (none, y, u) → Tells outer inner y u t z v → Tells outer inner x s t z v

/-- What polls tell, one after another. -/
inductive Runs (outer : Polled γ σ δ) (inner : Polled δ σ α) : Nested γ δ → σ → List (Poll α) → Nested γ δ → σ → Prop
  | nil (x : Nested γ δ) (s : σ) : Runs outer inner x s [] x s
  | cons {x y z : Nested γ δ} {s u v : σ} {t : Poll α} {told : List (Poll α)} :
      Tells outer inner x s t y u → Runs outer inner y u told z v → Runs outer inner x s (t :: told) z v

variable {outer : Polled γ σ δ} {inner : Polled δ σ α} {x y : γ} {z w : δ} {s u : σ}

/-! ### Polls, case by case -/

/-- What the list being read tells is told, but for its end. -/
theorem Tells.of_inner {t : Poll α} (h : inner z s = (t, w, u)) (ht : t ≠ .finished) :
    Tells outer inner ⟨x, some z⟩ s t ⟨x, some w⟩ u := by
  refine .now ?_
  rw [step, h]
  cases t with
  | finished => exact absurd rfl ht
  | pending | item | failed => rfl

/-- At the end of the list being read the next one is begun. -/
theorem Tells.of_inner_finished {t : Poll α} {a : Nested γ δ} {v : σ} (h : inner z s = (.finished, w, u))
    (ht : Tells outer inner ⟨x, none⟩ u t a v) : Tells outer inner ⟨x, some z⟩ s t a v :=
  .later (by rw [step, h]) ht

/-- A list that is begun is read. -/
theorem Tells.of_outer_item {t : Poll α} {a : Nested γ δ} {v : σ} (h : outer x s = (.item z, y, u))
    (ht : Tells outer inner ⟨y, some z⟩ u t a v) : Tells outer inner ⟨x, none⟩ s t a v :=
  .later (by rw [step, h]) ht

/-- Where there is no list to begin, the reason is told. -/
theorem Tells.of_outer_failed {e : Failure} (h : outer x s = (.failed e, y, u)) :
    Tells outer inner ⟨x, none⟩ s (.failed e) ⟨y, none⟩ u :=
  .now (by rw [step, h])

/-- At the end of the lists there is none to begin. -/
theorem Tells.of_outer_finished (h : outer x s = (.finished, y, u)) :
    Tells outer inner ⟨x, none⟩ s .finished ⟨y, none⟩ u :=
  .now (by rw [step, h])

/-! ### What is told is determined -/

/-- A poll tells one thing only. -/
theorem Tells.unique {x y y' : Nested γ δ} {s u u' : σ} {t t' : Poll α} (h : Tells outer inner x s t y u)
    (h' : Tells outer inner x s t' y' u') : t = t' ∧ y = y' ∧ u = u' := by
  induction h with
  | now h =>
    cases h' with
    | now h' => cases h.symm.trans h'; exact ⟨rfl, rfl, rfl⟩
    | later h' => cases h.symm.trans h'
  | later h _ ih =>
    cases h' with
    | now h' => cases h.symm.trans h'
    | later h' ht' => cases h.symm.trans h'; exact ih ht'

/-- So many polls tell one thing each. -/
theorem Runs.unique {x y y' : Nested γ δ} {s u u' : σ} {told told' : List (Poll α)} (h : Runs outer inner x s told y u)
    (h' : Runs outer inner x s told' y' u') (hlength : told.length = told'.length) : told = told' ∧ y = y' ∧ u = u' := by
  induction h generalizing told' with
  | nil x s =>
    cases h' with
    | nil => exact ⟨rfl, rfl, rfl⟩
    | cons => cases hlength
  | cons ht _ ih =>
    cases h' with
    | nil => cases hlength
    | cons ht' hr' =>
      obtain ⟨rfl, rfl, rfl⟩ := ht.unique ht'
      obtain ⟨rfl, rfl, rfl⟩ := ih hr' (Nat.succ.inj hlength)
      exact ⟨rfl, rfl, rfl⟩

/-! ### What goes along with nested lists -/

/-- Whether something goes along with nested lists, where their states are related in some way: it tells what they tell, does what they
do, and the states after that are related too. -/
def Follows (outer : Polled γ σ δ) (inner : Polled δ σ α) (p : Polled ε σ α) (related : Nested γ δ → ε → Prop) : Prop :=
  ∀ x z s, related x z → ∃ y, Tells outer inner x s (p z s).1 y (p z s).2.2 ∧ related y (p z s).2.1

namespace Follows

variable {p : Polled ε σ α} {related : Nested γ δ → ε → Prop}

/-- It goes along with any number of polls. -/
theorem runs (h : Follows outer inner p related) (k : Nat) {x : Nested γ δ} {z : ε} (hx : related x z) (s : σ) :
    ∃ y, Runs outer inner x s (p.times k z s).1 y (p.times k z s).2.2 := by
  induction k generalizing x z s with
  | zero => exact ⟨x, .nil x s⟩
  | succ k ih =>
    obtain ⟨y, ht, hy⟩ := h x z s hx
    obtain ⟨w, hr⟩ := ih hy (p z s).2.2
    exact ⟨w, .cons ht hr⟩

/-- So it tells all that they tell, and nothing else. -/
theorem runs_iff (h : Follows outer inner p related) {x : Nested γ δ} {z : ε} (hx : related x z) (s : σ) (told : List (Poll α))
    (u : σ) :
    (∃ y, Runs outer inner x s told y u) ↔ told = (p.times told.length z s).1 ∧ u = (p.times told.length z s).2.2 := by
  obtain ⟨y, hruns⟩ := h.runs told.length hx s
  refine ⟨fun ⟨y', hr⟩ => ?_, fun ⟨htold, hu⟩ => ⟨y, by rw [htold, hu]; simpa using hruns⟩⟩
  obtain ⟨htold, -, hu⟩ := hr.unique hruns (p.length_times _ z s).symm
  exact ⟨htold, hu⟩

end Follows

end Nested

end ControlPlane
