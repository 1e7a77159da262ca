import Mathlib.Data.List.Forall2

/-!
# Steps that may fail

What comes of two steps, one after the other, and of the same step for each item of a list, where each step may fail.
-/

namespace ControlPlane

variable {ε α β : Type}

/-- What follows a step that did not fail. -/
theorem ok_of_bind {x : Except ε α} {f : α → Except ε β} {b : β} (h : x.bind f = .ok b) : ∃ a, x = .ok a ∧ f a = .ok b := by
  cases x with
  | error e => cases h
  | ok a => exact ⟨a, rfl, h⟩

/-- What comes of each item comes of all. -/
theorem mapM_eq_some {f : α → Option β} {g : α → β} {s : List α} (h : ∀ a ∈ s, f a = some (g a)) : s.mapM f = some (s.map g) := by
  induction s with
  | nil => rfl
  | cons a s ih =>
    rw [List.mapM_cons, h a List.mem_cons_self, ih fun b hb => h b (List.mem_cons_of_mem a hb)]
    rfl

/-- What comes of all items comes of each. -/
theorem forall₂_of_mapM {f : α → Option β} {s : List α} {t : List β} (h : s.mapM f = some t) :
    List.Forall₂ (fun a b => f a = some b) s t := by
  induction s generalizing t with
  | nil =>
    cases h
    exact .nil
  | cons a s ih =>
    rw [List.mapM_cons] at h
    obtain ⟨b, hb, h⟩ := Option.bind_eq_some_iff.mp h
    obtain ⟨t', ht, h⟩ := Option.bind_eq_some_iff.mp h
    cases h
    exact .cons hb (ih ht)

/-- What is among what comes of all items comes of one of them. -/
theorem exists_of_mapM {f : α → Option β} {s : List α} {t : List β} (h : s.mapM f = some t) {b : β} (hb : b ∈ t) :
    ∃ a ∈ s, f a = some b := by
  have hall := forall₂_of_mapM h
  clear h
  induction hall with
  | nil => cases hb
  | @cons a b' s t hf _ ih =>
    rcases List.mem_cons.mp hb with rfl | hb
    · exact ⟨a, List.mem_cons_self, hf⟩
    · obtain ⟨a', ha', hf'⟩ := ih hb
      exact ⟨a', List.mem_cons_of_mem a ha', hf'⟩

end ControlPlane
