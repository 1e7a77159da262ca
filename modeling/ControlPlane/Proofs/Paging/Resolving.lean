import ControlPlane.Resolution

/-!
# One entity out of a list that may fail

A list is read item by item. Who looks for one entity need not keep the list: the first item and the number of items are enough
(`Resolution.Tally`). Such a reader gives up at the first failure and leaves what is behind it; at the end of the list it knows whether
there was one entity, none, or how many. The main statement is `Resolution.resolves_three_ways`: a name is resolved as by that reader, and
its result says what the whole list holds.
-/

namespace ControlPlane.Resolution

variable {α : Type}

/-- What is kept of the items read so far. -/
structure Tally (α : Type) where
  first : Option α := none
  count : Nat := 0

namespace Tally

variable (entity name : String)

/-- The tally after one more item. -/
def add (t : Tally α) (a : α) : Tally α := { first := t.first.or (some a), count := t.count + 1 }

/-- What a tally says at the end of a list. -/
def verdict (t : Tally α) : Result α :=
  match t.first with
  | none => .error (.notFound entity name)
  | some a => if t.count = 1 then .ok a else .error (.ambiguous entity name t.count)

/-- Reads on with a tally up to the end or the first failure: the result, and what is left of the list. -/
def read : Tally α → List (Result α) → Result α × List (Result α)
  | t, [] => (t.verdict entity name, [])
  | _, .error e :: rest => (.error e, rest)
  | t, .ok a :: rest => read (t.add a) rest

/-- The tally of items. -/
def of (given : List α) : Tally α := ⟨given.head?, given.length⟩

theorem add_of (given : List α) (a : α) : (of given).add a = of (given ++ [a]) := by
  cases given <;> simp [of, add]

theorem verdict_of (given : List α) : (of given).verdict entity name = single entity name given := by
  match given with
  | [] | [_] | _ :: _ :: _ => rfl

/-- To read on with a tally is to know all items it was made of. -/
theorem read_of (given : List α) (items : List (Result α)) :
    (of given).read entity name items =
      ((Fallible.drain items).1.bind fun more => single entity name (given ++ more), (Fallible.drain items).2) := by
  induction items generalizing given with
  | nil =>
    rw [read, verdict_of, Fallible.drain]
    exact congrArg (fun all => (single entity name all, [])) (List.append_nil given).symm
  | cons r items ih =>
    cases r with
    | error e => rfl
    | ok a =>
      rw [read, add_of, ih, Fallible.drain]
      rcases Fallible.drain items with ⟨_ | more, rest⟩
      · rfl
      · exact congrArg (fun all => (single entity name all, rest)) (List.append_assoc given [a] more)

end Tally

/-- Whether a result says which items there are: the only one, none, or the number of several. -/
structure Tells (entity name : String) (items : List α) (result : Result α) : Prop where
  one : ∀ a, result = .ok a ↔ items = [a]
  none : result = .error (.notFound entity name) ↔ items = []
  several : ∀ count, result = .error (.ambiguous entity name count) ↔ items.length = count ∧ 2 ≤ count

theorem tells_single (entity name : String) (items : List α) : Tells entity name items (single entity name items) := by
  match items with
  | [] => exact ⟨by simp [single], by simp [single], fun count => by simp [single]; omega⟩
  | [a] => exact ⟨by simp [single], by simp [single], fun count => by simp [single]; omega⟩
  | a :: b :: rest => exact ⟨by simp [single], by simp [single], fun count => by simp [single]; omega⟩

/-- Resolving a name reads a list in one pass with a tally, and comes out in one of three ways. Where the list holds a failure, the first
one is the result as it is, however many items come before it, and just what is behind it is left. Otherwise nothing is left, and the
result says whether the whole list holds the one entity, none, or several, whose exact number it tells; both failures carry the kind of
entity and the name. -/
theorem resolves_three_ways (entity name : String) (items : List (Result α)) :
    resolve entity name items = ({} : Tally α).read entity name items ∧
      ((∃ (given : List α) (e : Failure) (rest : List (Result α)),
          items = given.map .ok ++ .error e :: rest ∧ resolve entity name items = (.error e, rest)) ∨
        ∃ given : List α, items = given.map .ok ∧ (resolve entity name items).2 = [] ∧
          Tells entity name given (resolve entity name items).1) := by
  refine ⟨(Tally.read_of entity name [] items).symm, ?_⟩
  rcases Fallible.failed_or_whole items with ⟨given, e, rest, rfl⟩ | ⟨given, rfl⟩
  · refine .inl ⟨given, e, rest, rfl, ?_⟩
    rw [resolve, Fallible.drain_append]
    rfl
  · have hresolve : resolve entity name (given.map .ok) = (single entity name given, []) := by
      rw [resolve, Fallible.drain_map_ok]
      rfl
    rw [hresolve]
    exact .inr ⟨given, rfl, rfl, tells_single entity name given⟩

end ControlPlane.Resolution
