import ControlPlane.Resource

/-!
# Service instances
-/

namespace ControlPlane

/-- Who looks after a service instance. -/
inductive ServiceInstance.Origin where
  | managed | userProvided
deriving DecidableEq, Repr

/-- The last thing done to a service instance. -/
structure ServiceInstance.LastOperation where
  type : String
  state : String
  description : Option String := none
deriving DecidableEq, Repr

/-- A service instance of a space. -/
structure ServiceInstance where
  id : String
  name : String
  origin : ServiceInstance.Origin
  spaceId : Option String := none
  dashboardUrl : Option String := none
  lastOperation : Option ServiceInstance.LastOperation := none
deriving DecidableEq, Repr

/-- The fields of a service instance as the platform sends it. -/
structure ServiceInstance.Entity where
  name : String
  origin : ServiceInstance.Origin := .managed
  spaceGuid : Option String := none
  servicePlanGuid : Option String := none
  dashboardUrl : Option String := none
  lastOperation : Option ServiceInstance.LastOperation := none
deriving DecidableEq, Repr

namespace ServiceInstance

/-- The word for this kind of entity. -/
def kindName : String := "Service instance"

namespace Origin

/-- The word exchanged for an origin. -/
def word : Origin → String
  | managed => "managed_service_instance"
  | userProvided => "user_provided_service_instance"

/-- The word shown for an origin. -/
def shown : Origin → String
  | managed => "managed"
  | userProvided => "user-provided"

/-- Reads an origin. -/
def decoder : Json.Decoder Origin :=
  .choice [(managed.word, .plain managed), (userProvided.word, .plain userProvided)]

end Origin

namespace LastOperation

/-- The JSON form of a last operation. -/
def toJson (l : LastOperation) : Json :=
  .object [("type", .text l.type), ("state", .text l.state), ("description", .ofOption .text l.description)]

/-- Reads a last operation. -/
def decoder : Json.Decoder LastOperation :=
  (Json.Record.of LastOperation.mk
    |>.required "type" .text
    |>.required "state" .text
    |>.optional "description" .text).decoder "LastOperation"

end LastOperation

/-- Whether the user looks after the service instance. -/
def isUserProvided (i : ServiceInstance) : Bool := i.origin = .userProvided

/-- The JSON form of a service instance. -/
def toJson (i : ServiceInstance) : Json :=
  .object [("id", .text i.id), ("name", .text i.name), ("type", .text i.origin.word),
    ("space_id", .ofOption .text i.spaceId), ("dashboard_url", .ofOption .text i.dashboardUrl),
    ("last_operation", .ofOption LastOperation.toJson i.lastOperation)]

/-- Reads a service instance. -/
def decoder : Json.Decoder ServiceInstance :=
  (Json.Record.of ServiceInstance.mk
    |>.required "id" .text
    |>.required "name" .text
    |>.required "type" Origin.decoder
    |>.optional "space_id" .text
    |>.optional "dashboard_url" .text
    |>.optional "last_operation" LastOperation.decoder).decoder "ServiceInstance"

/-- The JSON form of the fields. -/
def Entity.toJson (e : Entity) : Json :=
  .object [("name", .text e.name), ("type", .text e.origin.word), ("space_guid", .ofOption .text e.spaceGuid),
    ("service_plan_guid", .ofOption .text e.servicePlanGuid), ("dashboard_url", .ofOption .text e.dashboardUrl),
    ("last_operation", .ofOption LastOperation.toJson e.lastOperation)]

/-- Reads the fields. A service instance that does not name its origin is managed. -/
def Entity.decoder : Json.Decoder Entity :=
  (Json.Record.of Entity.mk
    |>.required "name" .text
    |>.defaulted "type" Origin.decoder .managed
    |>.optional "space_guid" .text
    |>.optional "service_plan_guid" .text
    |>.optional "dashboard_url" .text
    |>.optional "last_operation" LastOperation.decoder).decoder "ServiceInstanceEntity"

/-- The service instance that a resource stands for. -/
def ofResource (r : Resource Entity) : ServiceInstance where
  id := r.metadata.guid
  name := r.entity.name
  origin := r.entity.origin
  spaceId := r.entity.spaceGuid
  dashboardUrl := r.entity.dashboardUrl
  lastOperation := r.entity.lastOperation

/-- The resource that stands for a service instance. -/
def toResource (i : ServiceInstance) : Resource Entity where
  metadata := { guid := i.id, url := some ("/v2/service_instances/" ++ i.id) }
  entity :=
    { name := i.name, origin := i.origin, spaceGuid := i.spaceId, dashboardUrl := i.dashboardUrl
      lastOperation := i.lastOperation }

/-- A resource keeps the service instance that it stands for. -/
theorem ofResource_toResource (i : ServiceInstance) : ofResource i.toResource = i := rfl

/-- How a service instance is sent. -/
def form : Resource.Form ServiceInstance Entity where
  fields := Entity.decoder
  fieldsJson := Entity.toJson
  ofResource := ofResource
  toResource := toResource
  ofResource_toResource := ofResource_toResource

end ServiceInstance

end ControlPlane
