import ControlPlane.Json.Encoding

/-!
# Resources as the platform sends them

The platform sends each entity as a resource: metadata that every kind of entity has, and the fields of its kind.
-/

namespace ControlPlane

/-- What every resource says of itself. -/
structure Metadata where
  guid : String
  url : Option String := none
  createdAt : Option Timestamp := none
  updatedAt : Option Timestamp := none
deriving DecidableEq, Repr

namespace Metadata

/-- The JSON form of metadata. -/
def toJson (m : Metadata) : Json :=
  .object [("guid", .text m.guid), ("url", .ofOption .text m.url),
    ("created_at", .ofOption Timestamp.toJson m.createdAt), ("updated_at", .ofOption Timestamp.toJson m.updatedAt)]

/-- Reads metadata. -/
def decoder : Json.Decoder Metadata :=
  (Json.Record.of Metadata.mk
    |>.required "guid" .text
    |>.optional "url" .text
    |>.optional "created_at" Timestamp.decoder
    |>.optional "updated_at" Timestamp.decoder).decoder "Metadata"

end Metadata

/-- Metadata and the fields of a kind of entity. -/
structure Resource (ε : Type) where
  metadata : Metadata
  entity : ε
deriving DecidableEq, Repr

namespace Resource

variable {ε : Type}

/-- The id of a resource. -/
def id (r : Resource ε) : String := r.metadata.guid

/-- The JSON form of a resource. -/
def toJson (entityJson : ε → Json) (r : Resource ε) : Json :=
  .object [("metadata", r.metadata.toJson), ("entity", entityJson r.entity)]

/-- Reads a resource. -/
def decoder (entity : Json.Decoder ε) : Json.Decoder (Resource ε) :=
  (Json.Record.of Resource.mk
    |>.required "metadata" Metadata.decoder
    |>.required "entity" entity).decoder "Resource"

/-- How an entity is sent as a resource: how the fields of its kind are read and written, and which entity a resource stands
for. An entity comes back from its resource. -/
structure Form (α ε : Type) where
  fields : Json.Decoder ε
  fieldsJson : ε → Json
  ofResource : Resource ε → α
  toResource : α → Resource ε
  ofResource_toResource : ∀ a, ofResource (toResource a) = a

end Resource

end ControlPlane
