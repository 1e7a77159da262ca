import ControlPlane.Json.Value

/-!
# What a list is asked for

A query narrows a list by filters and says how many items a page holds and in which order they come. It is sent as a list
of key and value pairs, in a fixed order, together with the number of the page asked for.
-/

namespace ControlPlane.Query

/-- How a filter compares a field with its values. -/
inductive Comparison where
  | equal | greater | less | greaterOrEqual | lessOrEqual | oneOf
deriving DecidableEq, Repr

/-- The sign for a comparison. -/
def Comparison.sign : Comparison → String
  | equal => ":"
  | greater => ">"
  | less => "<"
  | greaterOrEqual => ">="
  | lessOrEqual => "<="
  | oneOf => " IN "

/-- A condition on one field. -/
structure Filter where
  field : String
  comparison : Comparison
  values : List String
deriving DecidableEq, Repr

namespace Filter

/-- The field has the value. -/
def eq (field value : String) : Filter := ⟨field, .equal, [value]⟩

/-- The field has one of the values. -/
def anyOf (field : String) (values : List String) : Filter := ⟨field, .oneOf, values⟩

/-- The entity carries the name. -/
def named (name : String) : Filter := eq "name" name

/-- A filter as it is sent: the field, the sign, and the values with commas between them. -/
def text (f : Filter) : String := f.field ++ f.comparison.sign ++ ",".intercalate f.values

end Filter

/-- The order in which items come. -/
inductive Direction where
  | ascending | descending
deriving DecidableEq, Repr

/-- The word for an order. -/
def Direction.word : Direction → String
  | ascending => "asc"
  | descending => "desc"

end Query

open ControlPlane.Query

/-- What a list is asked for. -/
structure Query where
  filters : List Filter := []
  perPage : Option UInt32 := none
  direction : Option Direction := none
deriving DecidableEq, Repr

namespace Query

/-- The query that asks for everything. -/
def all : Query := {}

/-- The query for the entities that carry a name. -/
def ofName (name : String) : Query := { filters := [.named name] }

/-- The number of items on a page where the query does not say. -/
def defaultPerPage : UInt32 := 50

/-- The number of items asked for on a page. -/
def pageSize (q : Query) : UInt32 := q.perPage.getD defaultPerPage

/-- The pairs that ask for one page: the filters, the page, its size, and the order where the query names one. -/
def pairs (q : Query) (page : UInt32) : List (String × String) :=
  q.filters.map (fun f => ("q", f.text))
    ++ [("page", toString page.toNat), ("results-per-page", toString q.pageSize.toNat)]
    ++ (q.direction.map fun d => ("order-direction", d.word)).toList

/-- The JSON form of a query: its filters as they are sent. -/
def toJson (q : Query) : Json := .array (q.filters.map fun f => .text f.text)

end Query

end ControlPlane
