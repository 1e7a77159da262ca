import ControlPlane.Fallible

/-!
# Finding the one entity that carries a name

A name is resolved against the whole list of the entities that match it. The list may fail while it is read; otherwise it
must hold exactly one entity, and the number of all of them is told when it holds several.
-/

namespace ControlPlane.Resolution

variable {α : Type}

/-- The one entity of a list, or the reason why there is none. -/
def single (entity name : String) : List α → Result α
  | [] => .error (.notFound entity name)
  | [a] => .ok a
  | found => .error (.ambiguous entity name found.length)

/-- Resolves a name against a list that may fail, and what is left of the list. -/
def resolve (entity name : String) (items : List (Result α)) : Result α × List (Result α) :=
  ((Fallible.drain items).1.bind (single entity name), (Fallible.drain items).2)

end ControlPlane.Resolution
