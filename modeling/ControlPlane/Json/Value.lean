import ControlPlane.Decimal.Shortest

/-!
# JSON values

The values that a JSON text stands for. The members of an object keep an order, so that a value has one written form.
-/

namespace ControlPlane

/-- A number of a JSON text: a whole number, or a double. -/
inductive Json.Number where
  | integer (n : Int)
  | double (x : Float)

/-- A JSON value. -/
inductive Json where
  | null
  | bool (b : Bool)
  | number (n : Json.Number)
  | text (s : String)
  | array (items : List Json)
  | object (members : List (String × Json))

namespace Json

instance : Inhabited Json := ⟨null⟩

/-- A whole number. -/
def integer (n : Int) : Json := .number (.integer n)

/-- A value that may be missing. -/
def ofOption {α : Type} (f : α → Json) : Option α → Json
  | none => .null
  | some a => f a

/-- The value of a member, the last one where a name is repeated. -/
def member? (name : String) : Json → Option Json
  | .object members => (members.reverse.find? (·.1 == name)).map (·.2)
  | _ => none

/-- The text of a value that is one. -/
def text? : Json → Option String
  | .text s => some s
  | _ => none

end Json

end ControlPlane
