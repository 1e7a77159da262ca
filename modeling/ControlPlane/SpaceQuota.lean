import ControlPlane.Resource

/-!
# Space quotas
-/

namespace ControlPlane

/-- What the spaces of an organization may use. A negative limit is none. -/
structure SpaceQuota where
  id : String
  name : String
  organizationId : Option String := none
  paidServicePlans : Bool
  totalServices : Int64
  totalRoutes : Int64
  totalMemoryLimit : Int64
  instanceMemoryLimit : Int64
  appInstanceLimit : Option Int64 := none
deriving DecidableEq

/-- The fields of a space quota as the platform sends it. -/
structure SpaceQuota.Entity where
  name : String
  organizationGuid : Option String := none
  nonBasicServicesAllowed : Bool := false
  totalServices : Int64 := 0
  totalRoutes : Int64 := 0
  memoryLimit : Int64 := 0
  instanceMemoryLimit : Int64 := 0
  appInstanceLimit : Option Int64 := none
deriving DecidableEq

namespace SpaceQuota

/-- The word for this kind of entity. -/
def kindName : String := "Space Quota"

/-- The JSON form of a space quota. -/
def toJson (q : SpaceQuota) : Json :=
  .object [("id", .text q.id), ("name", .text q.name), ("organization_id", .ofOption .text q.organizationId),
    ("paid_service_plans", .bool q.paidServicePlans), ("total_services", .ofInt64 q.totalServices),
    ("total_routes", .ofInt64 q.totalRoutes), ("total_memory_limit", .ofInt64 q.totalMemoryLimit),
    ("instance_memory_limit", .ofInt64 q.instanceMemoryLimit),
    ("app_instance_limit", .ofOption .ofInt64 q.appInstanceLimit)]

/-- Reads a space quota. -/
def decoder : Json.Decoder SpaceQuota :=
  (Json.Record.of SpaceQuota.mk
    |>.required "id" .text
    |>.required "name" .text
    |>.optional "organization_id" .text
    |>.required "paid_service_plans" .bool
    |>.required "total_services" .int64
    |>.required "total_routes" .int64
    |>.required "total_memory_limit" .int64
    |>.required "instance_memory_limit" .int64
    |>.optional "app_instance_limit" .int64).decoder "SpaceQuota"

/-- The JSON form of the fields. -/
def Entity.toJson (e : Entity) : Json :=
  .object [("name", .text e.name), ("organization_guid", .ofOption .text e.organizationGuid),
    ("non_basic_services_allowed", .bool e.nonBasicServicesAllowed), ("total_services", .ofInt64 e.totalServices),
    ("total_routes", .ofInt64 e.totalRoutes), ("memory_limit", .ofInt64 e.memoryLimit),
    ("instance_memory_limit", .ofInt64 e.instanceMemoryLimit),
    ("app_instance_limit", .ofOption .ofInt64 e.appInstanceLimit)]

/-- Reads the fields. -/
def Entity.decoder : Json.Decoder Entity :=
  (Json.Record.of Entity.mk
    |>.required "name" .text
    |>.optional "organization_guid" .text
    |>.defaulted "non_basic_services_allowed" .bool false
    |>.defaulted "total_services" .int64 0
    |>.defaulted "total_routes" .int64 0
    |>.defaulted "memory_limit" .int64 0
    |>.defaulted "instance_memory_limit" .int64 0
    |>.optional "app_instance_limit" .int64).decoder "SpaceQuotaDefinitionEntity"

/-- The space quota that a resource stands for. -/
def ofResource (r : Resource Entity) : SpaceQuota where
  id := r.metadata.guid
  name := r.entity.name
  organizationId := r.entity.organizationGuid
  paidServicePlans := r.entity.nonBasicServicesAllowed
  totalServices := r.entity.totalServices
  totalRoutes := r.entity.totalRoutes
  totalMemoryLimit := r.entity.memoryLimit
  instanceMemoryLimit := r.entity.instanceMemoryLimit
  appInstanceLimit := r.entity.appInstanceLimit

/-- The resource that stands for a space quota. -/
def toResource (q : SpaceQuota) : Resource Entity where
  metadata := { guid := q.id, url := some ("/v2/space_quota_definitions/" ++ q.id) }
  entity :=
    { name := q.name, organizationGuid := q.organizationId, nonBasicServicesAllowed := q.paidServicePlans
      totalServices := q.totalServices, totalRoutes := q.totalRoutes, memoryLimit := q.totalMemoryLimit
      instanceMemoryLimit := q.instanceMemoryLimit, appInstanceLimit := q.appInstanceLimit }

/-- A resource keeps the space quota that it stands for. -/
theorem ofResource_toResource (q : SpaceQuota) : ofResource q.toResource = q := rfl

/-- How a space quota is sent. -/
def form : Resource.Form SpaceQuota Entity where
  fields := Entity.decoder
  fieldsJson := Entity.toJson
  ofResource := ofResource
  toResource := toResource
  ofResource_toResource := ofResource_toResource

end SpaceQuota

end ControlPlane
