import ControlPlane.Json.Printer
import ControlPlane.Json.Reading
import ControlPlane.Text.Quoted

/-!
# From a reading to a value

A `Decoder` looks at a reading from left to right and gives the value that it stands for, or the first reason why it stands
for none. A `Record` describes the fields of a structure once; it decodes both an object that names the fields and a list
that gives them in their order.
-/

namespace ControlPlane.Json

/-! ## Refusals -/

/-- What was seen where something else was expected. -/
inductive Found where
  | null | list | object | unitVariant
  | bool (b : Bool)
  | number (n : Number)
  | quoted (s : String)

/-- The words for what was seen. -/
def Found.words : Found → String
  | null => "null"
  | list => "sequence"
  | object => "map"
  | unitVariant => "unit variant"
  | bool true => "boolean `true`"
  | bool false => "boolean `false`"
  | number (.integer n) => "integer `" ++ toString n ++ "`"
  | number (.double x) => "floating point `" ++ doubleText x ++ "`"
  | quoted s => "string " ++ Text.quoted s

/-- Why a text stands for no value of a type. -/
inductive Refusal where
  /-- The text is no JSON. -/
  | fault (m : Mark)
  /-- Something other than a name, or than an object with one name, stands where a choice is to be made. -/
  | noChoice
  | missingField (name : String)
  | duplicateField (name : String)
  | unknownField (name : String) (known : List String)
  | unknownVariant (name : String) (known : List String)
  | invalidType (found : Found) (expected : String)
  | invalidValue (found : Found) (expected : String)
  | invalidLength (length : Nat) (expected : String)
  | custom (words : String)

/-- The classes of refusals: a text that is no JSON, one that ended too early, and one that is not of the type. -/
inductive Refusal.Class where
  | malformed | ended | mistyped
deriving DecidableEq, Repr

namespace Refusal

/-- The class of a refusal. -/
def toClass : Refusal → Class
  | fault m => if m.kind.isEnd then .ended else .malformed
  | noChoice => .malformed
  | _ => .mistyped

/-- Names in ticks, as they are listed. -/
def listed : List String → String
  | [] => "there are no fields"
  | [a] => "expected `" ++ a ++ "`"
  | [a, b] => "expected `" ++ a ++ "` or `" ++ b ++ "`"
  | names => "expected one of " ++ ", ".intercalate (names.map fun n => "`" ++ n ++ "`")

/-- The words for a refusal. -/
def message : Refusal → String
  | fault m => m.kind.text
  | noChoice => FaultKind.expectedValue.text
  | missingField name => "missing field `" ++ name ++ "`"
  | duplicateField name => "duplicate field `" ++ name ++ "`"
  | unknownField name known => "unknown field `" ++ name ++ "`, " ++ listed known
  | unknownVariant name known => "unknown variant `" ++ name ++ "`, " ++ listed known
  | invalidType found expected => "invalid type: " ++ found.words ++ ", expected " ++ expected
  | invalidValue found expected => "invalid value: " ++ found.words ++ ", expected " ++ expected
  | invalidLength length expected => "invalid length " ++ toString length ++ ", expected " ++ expected
  | custom words => words

end Refusal

/-- Gives the value that a reading stands for. The first argument is the number of lists and objects that may still be
nested. -/
abbrev Decoder (α : Type) := Nat → Reading → Except Refusal α

/-- The number of lists and objects that may be nested in a text that is looked at. -/
def greatestDepth : Nat := 127

namespace Decoder

variable {α β : Type}

/-- The refusal of something that is not of the expected type. -/
def mismatch (expected : String) : Reading → Refusal
  | .null => .invalidType .null expected
  | .bool b => .invalidType (.bool b) expected
  | .number (.ok n) => .invalidType (.number n) expected
  | .quoted (.ok s) => .invalidType (.quoted s) expected
  | .number (.error m) | .quoted (.error m) | .missing m | .broken _ m _ => .fault m
  | .list .. => .invalidType .list expected
  | .object .. => .invalidType .object expected

/-- Goes into a list or an object, if so many may be nested. -/
def nested (size depth : Nat) (look : Nat → Except Refusal α) : Except Refusal α :=
  match depth with
  | 0 => .error (.fault ⟨.tooDeep, size - 1⟩)
  | depth + 1 => look depth

/-! ## Plain values -/

/-- A text. -/
def text : Decoder String
  | _, .quoted (.ok s) => .ok s
  | _, r => .error (mismatch "a string" r)

/-- A truth value. -/
def bool : Decoder Bool
  | _, .bool b => .ok b
  | _, r => .error (mismatch "a boolean" r)

/-- Nothing. -/
def unit : Decoder Unit
  | _, .null => .ok ()
  | _, r => .error (mismatch "unit" r)

/-- A whole number in a range. -/
def integer (expected : String) (low high : Int) : Decoder Int
  | _, .number (.ok (.integer n)) =>
    if low ≤ n ∧ n ≤ high then .ok n else .error (.invalidValue (.number (.integer n)) expected)
  | _, r => .error (mismatch expected r)

/-- A whole number of 32 bits. -/
def word32 : Decoder UInt32 := fun depth r => (fun n => n.toNat.toUInt32) <$> integer "u32" 0 0xffffffff depth r

/-- A whole number of 64 bits. -/
def word64 : Decoder UInt64 := fun depth r => (fun n => n.toNat.toUInt64) <$> integer "u64" 0 0xffffffffffffffff depth r

/-- A signed number of 64 bits. -/
def int64 : Decoder Int64 := fun depth r => Int64.ofInt <$> integer "i64" (-0x8000000000000000) 0x7fffffffffffffff depth r

/-- A value that may be null. What begins like null is read as null. -/
def optional (d : Decoder α) : Decoder (Option α)
  | _, .null => .ok none
  | depth, .broken first looked skipped =>
    if first = octet 'n' then .error (.fault looked) else some <$> d depth (.broken first looked skipped)
  | depth, r => some <$> d depth r

/-! ## Lists -/

/-- Each item of a list. -/
def items (d : Decoder α) (depth : Nat) : Items → Except Refusal (List α)
  | .done => .ok []
  | .stopped m => .error (.fault m)
  | .cons item rest => do
    let a ← d depth item
    let as ← items d depth rest
    .ok (a :: as)

/-- A list. -/
def list (d : Decoder α) : Decoder (List α)
  | depth, .list size is => nested size depth fun depth => items d depth is
  | _, r => .error (mismatch "a sequence" r)

/-- Checks that a list ends. -/
def noMoreItems : Items → Except Refusal Unit
  | .done => .ok ()
  | .stopped m => .error (.fault m)
  | .cons _ _ => .error (.fault ⟨.trailingCharacters, 0⟩)

/-! ## Any value -/

/-- Puts a member in its place among members in the order of their names. A name that is there already gets the new
value. -/
def insertMember (name : String) (value : Json) : List (String × Json) → List (String × Json)
  | [] => [(name, value)]
  | (n, v) :: rest =>
    if name < n then (name, value) :: (n, v) :: rest
    else if n = name then (name, value) :: rest
    else (n, v) :: insertMember name value rest

mutual

/-- Any value. The members of an object come in the order of their names. -/
def any : Nat → Reading → Except Refusal Json
  | _, .null => .ok .null
  | _, .bool b => .ok (.bool b)
  | _, .number (.ok n) => .ok (.number n)
  | _, .quoted (.ok s) => .ok (.text s)
  | _, .number (.error m) | _, .quoted (.error m) | _, .missing m | _, .broken _ m _ => .error (.fault m)
  | 0, .list size _ | 0, .object size _ => .error (.fault ⟨.tooDeep, size - 1⟩)
  | depth + 1, .list _ is => do
    let vs ← anyItems depth is
    .ok (.array vs)
  | depth + 1, .object _ ms => do
    let members ← anyMembers depth ms []
    .ok (.object members)

/-- Any items. -/
def anyItems (depth : Nat) : Items → Except Refusal (List Json)
  | .done => .ok []
  | .stopped m => .error (.fault m)
  | .cons item rest => do
    let v ← any depth item
    let vs ← anyItems depth rest
    .ok (v :: vs)

/-- Any members, put among others. -/
def anyMembers (depth : Nat) : Members → List (String × Json) → Except Refusal (List (String × Json))
  | .done, others => .ok others
  | .stopped m, _ | .nameless m, _ => .error (.fault m)
  | .cons name value rest, others => do
    let name ← text depth name
    let v ← any depth value
    anyMembers depth rest (insertMember name v others)

end

/-! ## Choices -/

/-- One way of a choice: it is named, and has a value of its own or none. -/
inductive Variant (α : Type) where
  | plain (a : α)
  | holding (d : Decoder α)

/-- The variant with a name. -/
def variant (variants : List (String × Variant α)) : Decoder (Variant α)
  | _, .quoted (.ok s) =>
    match variants.lookup s with
    | some v => .ok v
    | none => .error (.unknownVariant s (variants.map (·.1)))
  | _, r => .error (mismatch "variant identifier" r)

/-- The fault of something other than a brace behind the value of a variant. -/
def closing : Members → Except Refusal Unit
  | .done => .ok ()
  | .stopped m => if m.kind.isEnd then .error (.fault m) else .error .noChoice
  | .nameless .. | .cons .. => .error .noChoice

/-- A choice: the name of a variant, or an object whose one member names a variant and gives its value. -/
def choice (variants : List (String × Variant α)) : Decoder α
  | depth, .quoted s => do
    match ← variant variants depth (.quoted s) with
    | .plain a => .ok a
    | .holding _ => .error (.invalidType .unitVariant "newtype variant")
  | depth, .object size members => do
    let a ← nested size depth fun depth =>
      match members with
      | .cons name value _ => do
        match ← variant variants depth name with
        | .plain a => (fun _ => a) <$> unit depth value
        | .holding d => d depth value
      | .done => .error .noChoice
      | .stopped m | .nameless m => .error (.fault m)
    match members with
    | .cons _ _ rest => (fun _ => a) <$> closing rest
    | _ => .ok a
  | _, .missing m => .error (.fault m)
  | _, .broken first m _ => .error (if first = octet '"' then .fault m else .noChoice)
  | _, .null | _, .bool _ | _, .number _ | _, .list .. => .error .noChoice

/-- The value of a text that holds one value and nothing else. -/
def run (d : Decoder α) (s : Octets) : Except Refusal α := do
  let (r, rest) := Reading.ofOctets s
  let a ← d greatestDepth r
  match skipBlanks (rest.getD []) with
  | [] => .ok a
  | more => .error (.fault (atNext .trailingCharacters more))

end Decoder

/-! ## Records -/

/-- The fields of a structure, in their order. While an object is decoded, the values found so far stand in slots. -/
structure Record (σ α : Type) where
  names : List String
  /-- No value found yet. -/
  blank : σ
  /-- Puts the value of a name into its slot, if the name is one of the fields. -/
  put : String → σ → Option (Decoder σ)
  /-- The structure, if each slot that needs a value has one. -/
  close : σ → Except Refusal α
  /-- The structure from items in the order of the fields, and the items behind them. The number of an item that is
  missing makes a refusal. -/
  take : (Nat → Refusal) → Nat → Items → Except Refusal (α × Items)

namespace Record

variable {σ α β : Type}

/-- A structure without fields. -/
def of (a : α) : Record Unit α where
  names := []
  blank := ()
  put _ _ := none
  close _ := .ok a
  take _ _ items := .ok (a, items)

/-- One more field. Where it is absent it has the value given, if there is one. -/
def field (r : Record σ (α → β)) (name : String) (d : Decoder α) (absent : Option α) : Record (σ × Option α) β where
  names := r.names ++ [name]
  blank := (r.blank, none)
  put key slots :=
    match r.put key slots.1 with
    | some fill => some fun depth v => (·, slots.2) <$> fill depth v
    | none =>
      if key = name then
        some fun depth v =>
          match slots.2 with
          | some _ => .error (.duplicateField name)
          | none => (fun a => (slots.1, some a)) <$> d depth v
      else none
  close slots := do
    let f ← r.close slots.1
    match slots.2, absent with
    | some a, _ => .ok (f a)
    | none, some a => .ok (f a)
    | none, none => .error (.missingField name)
  take short depth items := do
    let (f, items) ← r.take short depth items
    match items, absent with
    | .cons item rest, _ => do
      let a ← d depth item
      .ok (f a, rest)
    | .stopped m, _ => .error (.fault m)
    | .done, some a => .ok (f a, .done)
    | .done, none => .error (short r.names.length)

/-- A field that must be there. -/
def required (r : Record σ (α → β)) (name : String) (d : Decoder α) : Record (σ × Option α) β := r.field name d none

/-- A field that may be absent or null. -/
def optional (r : Record σ (Option α → β)) (name : String) (d : Decoder α) : Record (σ × Option (Option α)) β :=
  r.field name d.optional (some none)

/-- A field that has a value where it is absent. -/
def defaulted (r : Record σ (α → β)) (name : String) (d : Decoder α) (absent : α) : Record (σ × Option α) β :=
  r.field name d (some absent)

/-- Fills the slots from the members of an object. Members with other names are passed over, or refused where no others
are allowed. -/
def fill (r : Record σ α) (othersAllowed : Bool) (depth : Nat) : Members → σ → Except Refusal σ
  | .done, slots => .ok slots
  | .stopped m, _ | .nameless m, _ => .error (.fault m)
  | .cons name value rest, slots => do
    let key ← Decoder.text depth name
    match r.put key slots with
    | some put => do
      let slots ← put depth value
      fill r othersAllowed depth rest slots
    | none =>
      if othersAllowed then
        match value.skipFault? with
        | some m => .error (.fault m)
        | none => fill r othersAllowed depth rest slots
      else .error (.unknownField key r.names)

/-- Decodes a structure. `expected` names it, `whole` names it where items are missing. -/
def decoderNamed (r : Record σ α) (expected whole : String) (othersAllowed : Bool) : Decoder α
  | depth, .list size items => do
    let (a, rest) ← Decoder.nested size depth fun depth => r.take (.invalidLength · whole) depth items
    (fun _ => a) <$> Decoder.noMoreItems rest
  | depth, .object size members =>
    Decoder.nested size depth fun depth => do
      let slots ← r.fill othersAllowed depth members r.blank
      r.close slots
  | _, v => .error (Decoder.mismatch expected v)

/-- Decodes a structure with a name. -/
def decoder (r : Record σ α) (name : String) : Decoder α :=
  r.decoderNamed ("struct " ++ name)
    ("struct " ++ name ++ " with " ++ toString r.names.length ++ (if r.names.length = 1 then " element" else " elements"))
    true

end Record

end ControlPlane.Json
