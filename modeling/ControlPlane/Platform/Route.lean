import ControlPlane.Http.Message
import ControlPlane.Job.Report
import ControlPlane.Text.Split

/-!
# What the paths of a platform lead to

A path leads to a list, an entity or a job, and may carry the id of one as a segment. An id is any text in percent form; no
segment is empty.
-/

namespace ControlPlane.Platform

/-- What a path leads to. -/
inductive Route where
  | organizations
  | spaces (organization : String)
  | spaceQuotas (organization : String)
  | serviceInstances (space : String)
  | space (id : String)
  | serviceInstance (id : String)
  | userProvidedServiceInstance (id : String)
  | job (version : Job.Version) (id : String)
  | health
deriving DecidableEq

namespace Route

/-- The segments of a path that begins with a slash. -/
def segments? (path : String) : Option (List String) :=
  match Text.split (· == '/') path.toList with
  | [] :: segments => some (segments.map String.ofList)
  | _ => none

/-- The route along segments, with the id as it stands there. -/
def along? : List String → Option Route
  | ["health"] => some health
  | ["v2", "organizations"] => some organizations
  | ["v2", "organizations", id, "spaces"] => if id.isEmpty then none else some (spaces id)
  | ["v2", "organizations", id, "space_quota_definitions"] => if id.isEmpty then none else some (spaceQuotas id)
  | ["v2", "spaces", id] => if id.isEmpty then none else some (space id)
  | ["v2", "spaces", id, "service_instances"] => if id.isEmpty then none else some (serviceInstances id)
  | ["v2", "service_instances", id] => if id.isEmpty then none else some (serviceInstance id)
  | ["v2", "user_provided_service_instances", id] =>
    if id.isEmpty then none else some (userProvidedServiceInstance id)
  | ["v2", "jobs", id] => if id.isEmpty then none else some (job .v2 id)
  | ["v3", "jobs", id] => if id.isEmpty then none else some (job .v3 id)
  | _ => none

/-- The route with another id. -/
def mapId {m : Type → Type} [Monad m] (f : String → m String) : Route → m Route
  | organizations => pure organizations
  | spaces id => spaces <$> f id
  | spaceQuotas id => spaceQuotas <$> f id
  | serviceInstances id => serviceInstances <$> f id
  | space id => space <$> f id
  | serviceInstance id => serviceInstance <$> f id
  | userProvidedServiceInstance id => userProvidedServiceInstance <$> f id
  | job version id => job version <$> f id
  | health => pure health

/-- The text that a segment stands for, if it stands for one. -/
def plainSegment? (segment : String) : Option String := Text.ofUtf8? (Url.percentDecode (Text.octets segment))

/-- The route with the id that its segment stands for. -/
def plain? (r : Route) : Option Route := r.mapId plainSegment?

/-- Whether a route leads to something that can be deleted; all others lead to something that can be asked for. -/
def isDeletable : Route → Bool
  | space _ | serviceInstance _ | userProvidedServiceInstance _ => true
  | _ => false

/-- Whether a method can be used along a route. -/
def allows (r : Route) : Http.Method → Bool
  | .get | .head => !r.isDeletable
  | .delete => r.isDeletable
  | .other _ => false

end Route

end ControlPlane.Platform
