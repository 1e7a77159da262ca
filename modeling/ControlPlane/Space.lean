import ControlPlane.Resource

/-!
# Spaces
-/

namespace ControlPlane

/-- A space of an organization. -/
structure Space where
  id : String
  name : String
  organizationId : Option String := none
  spaceQuotaId : Option String := none
  allowSsh : Bool := false
  createdAt : Option Timestamp := none
deriving DecidableEq, Repr

/-- The fields of a space as the platform sends it. -/
structure Space.Entity where
  name : String
  organizationGuid : Option String := none
  spaceQuotaDefinitionGuid : Option String := none
  allowSsh : Bool := false
deriving DecidableEq, Repr

namespace Space

/-- The word for this kind of entity. -/
def kindName : String := "Space"

/-- The JSON form of a space. -/
def toJson (s : Space) : Json :=
  .object [("id", .text s.id), ("name", .text s.name), ("organization_id", .ofOption .text s.organizationId),
    ("space_quota_id", .ofOption .text s.spaceQuotaId), ("allow_ssh", .bool s.allowSsh),
    ("created_at", .ofOption Timestamp.toJson s.createdAt)]

/-- Reads a space. -/
def decoder : Json.Decoder Space :=
  (Json.Record.of Space.mk
    |>.required "id" .text
    |>.required "name" .text
    |>.optional "organization_id" .text
    |>.optional "space_quota_id" .text
    |>.defaulted "allow_ssh" .bool false
    |>.optional "created_at" Timestamp.decoder).decoder "Space"

/-- The JSON form of the fields. -/
def Entity.toJson (e : Entity) : Json :=
  .object [("name", .text e.name), ("organization_guid", .ofOption .text e.organizationGuid),
    ("space_quota_definition_guid", .ofOption .text e.spaceQuotaDefinitionGuid), ("allow_ssh", .bool e.allowSsh)]

/-- Reads the fields. -/
def Entity.decoder : Json.Decoder Entity :=
  (Json.Record.of Entity.mk
    |>.required "name" .text
    |>.optional "organization_guid" .text
    |>.optional "space_quota_definition_guid" .text
    |>.defaulted "allow_ssh" .bool false).decoder "SpaceEntity"

/-- The space that a resource stands for. -/
def ofResource (r : Resource Entity) : Space where
  id := r.metadata.guid
  name := r.entity.name
  organizationId := r.entity.organizationGuid
  spaceQuotaId := r.entity.spaceQuotaDefinitionGuid
  allowSsh := r.entity.allowSsh
  createdAt := r.metadata.createdAt

/-- The resource that stands for a space. -/
def toResource (s : Space) : Resource Entity where
  metadata := { guid := s.id, url := some ("/v2/spaces/" ++ s.id), createdAt := s.createdAt }
  entity :=
    { name := s.name, organizationGuid := s.organizationId, spaceQuotaDefinitionGuid := s.spaceQuotaId
      allowSsh := s.allowSsh }

/-- A resource keeps the space that it stands for. -/
theorem ofResource_toResource (s : Space) : ofResource s.toResource = s := rfl

/-- How a space is sent. -/
def form : Resource.Form Space Entity where
  fields := Entity.decoder
  fieldsJson := Entity.toJson
  ofResource := ofResource
  toResource := toResource
  ofResource_toResource := ofResource_toResource

end Space

end ControlPlane
