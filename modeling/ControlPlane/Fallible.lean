import ControlPlane.Failure

/-!
# Lists that may fail

A list that is read item by item may fail at some item. What it holds up to there counts only for a reader who takes each
item by itself; for one who wants the whole list it comes to its first failure.
-/

namespace ControlPlane.Fallible

variable {α : Type}

/-- Reads a list up to its end or its first failure, and what is left of it. -/
def drain : List (Result α) → Result (List α) × List (Result α)
  | [] => (.ok [], [])
  | .error e :: rest => (.error e, rest)
  | .ok a :: rest => ((drain rest).1.map (a :: ·), (drain rest).2)

/-- The whole list, or its first failure. -/
def whole (items : List (Result α)) : Result (List α) := (drain items).1

/-- The items that are of some kind. Failures stay. -/
def select (isWanted : α → Bool) (items : List (Result α)) : List (Result α) :=
  items.filter fun
    | .ok a => isWanted a
    | .error _ => true

/-- Items before a list are read before it. -/
theorem drain_append (given : List α) (items : List (Result α)) :
    drain (given.map .ok ++ items) = ((drain items).1.map (given ++ ·), (drain items).2) := by
  induction given with
  | nil =>
    rw [List.map_nil, List.nil_append]
    rcases drain items with ⟨_ | _, rest⟩ <;> rfl
  | cons a given ih =>
    rw [List.map_cons, List.cons_append, drain, ih]
    rcases drain items with ⟨_ | _, rest⟩ <;> rfl

/-- A list without failures is read to its end. -/
theorem drain_map_ok (items : List α) : drain (items.map .ok) = (.ok items, []) := by
  have h := drain_append items []
  rw [List.append_nil] at h
  rw [h, drain, Except.map, List.append_nil]

/-- A list without failures holds all its items. -/
theorem whole_map_ok (items : List α) : whole (items.map .ok) = .ok items := congrArg Prod.fst (drain_map_ok items)

/-- Items before a list are items of the whole. -/
theorem whole_append (items : List α) (rest : List (Result α)) :
    whole (items.map .ok ++ rest) = (whole rest).map (items ++ ·) :=
  congrArg Prod.fst (drain_append items rest)

/-- A list that may fail holds items up to its first failure, or to its end. -/
theorem failed_or_whole (items : List (Result α)) :
    (∃ (given : List α) (e : Failure) (rest : List (Result α)), items = given.map .ok ++ .error e :: rest) ∨
      ∃ given : List α, items = given.map .ok := by
  induction items with
  | nil => exact .inr ⟨[], rfl⟩
  | cons r items ih =>
    cases r with
    | error e => exact .inl ⟨[], e, items, rfl⟩
    | ok a =>
      rcases ih with ⟨given, e, rest, rfl⟩ | ⟨given, rfl⟩
      · exact .inl ⟨a :: given, e, rest, rfl⟩
      · exact .inr ⟨a :: given, rfl⟩

end ControlPlane.Fallible
