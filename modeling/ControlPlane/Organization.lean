import ControlPlane.Resource

/-!
# Organizations
-/

namespace ControlPlane

/-- An organization. -/
structure Organization where
  id : String
  name : String
  status : Option String := none
  quotaDefinitionId : Option String := none
  createdAt : Option Timestamp := none
deriving DecidableEq, Repr

/-- The fields of an organization as the platform sends it. -/
structure Organization.Entity where
  name : String
  status : Option String := none
  quotaDefinitionGuid : Option String := none
  billingEnabled : Bool := false
deriving DecidableEq, Repr

namespace Organization

/-- The word for this kind of entity. -/
def kindName : String := "Organization"

/-- The JSON form of an organization. -/
def toJson (o : Organization) : Json :=
  .object [("id", .text o.id), ("name", .text o.name), ("status", .ofOption .text o.status),
    ("quota_definition_id", .ofOption .text o.quotaDefinitionId),
    ("created_at", .ofOption Timestamp.toJson o.createdAt)]

/-- Reads an organization. -/
def decoder : Json.Decoder Organization :=
  (Json.Record.of Organization.mk
    |>.required "id" .text
    |>.required "name" .text
    |>.optional "status" .text
    |>.optional "quota_definition_id" .text
    |>.optional "created_at" Timestamp.decoder).decoder "Organization"

/-- The JSON form of the fields. -/
def Entity.toJson (e : Entity) : Json :=
  .object [("name", .text e.name), ("status", .ofOption .text e.status),
    ("quota_definition_guid", .ofOption .text e.quotaDefinitionGuid), ("billing_enabled", .bool e.billingEnabled)]

/-- Reads the fields. -/
def Entity.decoder : Json.Decoder Entity :=
  (Json.Record.of Entity.mk
    |>.required "name" .text
    |>.optional "status" .text
    |>.optional "quota_definition_guid" .text
    |>.defaulted "billing_enabled" .bool false).decoder "OrganizationEntity"

/-- The organization that a resource stands for. -/
def ofResource (r : Resource Entity) : Organization where
  id := r.metadata.guid
  name := r.entity.name
  status := r.entity.status
  quotaDefinitionId := r.entity.quotaDefinitionGuid
  createdAt := r.metadata.createdAt

/-- The resource that stands for an organization. -/
def toResource (o : Organization) : Resource Entity where
  metadata := { guid := o.id, url := some ("/v2/organizations/" ++ o.id), createdAt := o.createdAt }
  entity := { name := o.name, status := o.status, quotaDefinitionGuid := o.quotaDefinitionId }

/-- A resource keeps the organization that it stands for. -/
theorem ofResource_toResource (o : Organization) : ofResource o.toResource = o := rfl

/-- How an organization is sent. -/
def form : Resource.Form Organization Entity where
  fields := Entity.decoder
  fieldsJson := Entity.toJson
  ofResource := ofResource
  toResource := toResource
  ofResource_toResource := ofResource_toResource

end Organization

end ControlPlane
