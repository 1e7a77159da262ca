import ControlPlane.Http.Server
import ControlPlane.Platform.Cut
import ControlPlane.Platform.Route
import ControlPlane.Platform.Store

/-!
# How a platform answers

Every request to a store is answered by one response. A request along no route, with a method that cannot be used there, or
with an id or pairs that cannot be read is refused before the store is looked at. All others but the question for health must
show the token, if the store requires one.
-/

namespace ControlPlane.Platform

/-- A request as it arrives at a platform. -/
structure Arrival where
  method : Http.Method
  path : String
  query : Option String := none
  authorization : List (List UInt8) := []
deriving DecidableEq

namespace Arrival

/-- A request as it arrives when it has been sent. -/
def ofRequest (r : Http.Request) : Arrival where
  method := r.method
  path := r.url.path.text
  query := r.url.query
  authorization := r.authorization

/-- A request to a target, which is a path and may have a query behind a question mark. -/
def ofTarget (method : Http.Method) (target : String) (authorization : List (List UInt8)) : Arrival :=
  let target := target.toList.takeWhile (· ≠ '#')
  { method, authorization
    path := String.ofList (target.takeWhile (· ≠ '?'))
    query := if target.contains '?' then some (String.ofList ((target.dropWhile (· ≠ '?')).drop 1)) else none }

/-- The pairs of a request. -/
def pairs (a : Arrival) : List (String × String) := a.query.elim [] fun q => Url.Form.decode (Text.octets q)

end Arrival

/-! ## Responses -/

/-- A response with a JSON body. -/
def jsonResponse (status : UInt16) (v : Json) : Http.Response where
  status := status
  headers := [⟨"content-type", Text.octets "application/json"⟩]
  body := some (.written v.compact)

/-- A response with a plain text as body. -/
def plainResponse (status : UInt16) (text : String) : Http.Response where
  status := status
  headers := [⟨"content-type", Text.octets "text/plain; charset=utf-8"⟩]
  body := some (.written text)

/-- A response without body. -/
def emptyResponse (status : UInt16) : Http.Response := { status }

/-- A refusal with its number, its name and its description. -/
def refusal (status : UInt16) (code : Nat) (name description : String) : Http.Response :=
  jsonResponse status (.object [("code", .integer code), ("description", .text description), ("error_code", .text name)])

/-- The refusal of a request that does not show the token. -/
def unauthorized : Http.Response := refusal 401 1000 "CF-InvalidAuthToken" "Invalid Auth Token"

/-- The refusal for a space that is not there. -/
def noSpace (id : String) : Http.Response :=
  refusal 404 40004 "CF-SpaceNotFound" ("The app space could not be found: " ++ id)

/-- The refusal for a service instance that is not there. -/
def noServiceInstance (id : String) : Http.Response :=
  refusal 404 60004 "CF-ServiceInstanceNotFound" ("The service instance could not be found: " ++ id)

/-- The refusal for a job that is not there. -/
def noJob (id : String) : Http.Response := refusal 404 10000 "CF-NotFound" ("Job not found: " ++ id)

/-! ## Options of deletions -/

/-- How something is to be deleted. -/
structure DeletionOptions where
  asJob : Option Bool := none
  recursive : Option Bool := none
deriving DecidableEq, Repr

namespace DeletionOptions

/-- The truth value that a word stands for. -/
def truth (value : String) : Except String Bool :=
  if value = "true" then .ok true
  else if value = "false" then .ok false
  else .error "provided string was not `true` or `false`"

/-- The options after one more pair. An option is given once. -/
def note (o : DeletionOptions) (pair : String × String) : Except String DeletionOptions :=
  if pair.1 = "async" then
    if o.asJob.isSome then .error "duplicate field `async`"
    else (truth pair.2).map fun b => { o with asJob := some b }
  else if pair.1 = "recursive" then
    if o.recursive.isSome then .error "duplicate field `recursive`"
    else (truth pair.2).map fun b => { o with recursive := some b }
  else .ok o

/-- The options in pairs. -/
def ofPairs (pairs : List (String × String)) : Except String DeletionOptions := pairs.foldlM note {}

end DeletionOptions

/-- The response to options that cannot be read. -/
def unreadableOptions (fault : String) : Http.Response :=
  plainResponse 400 ("Failed to deserialize query string: " ++ fault)

/-- The response to an id that cannot be read. -/
def unreadableId : Http.Response := plainResponse 400 "Invalid UTF-8 in `guid`"

/-! ## Jobs in their two forms -/

/-- The job of a store as the second version reports it. -/
def jobResource (id : String) (state : Job.State) (failure : Option Job.ErrorDetails) : Resource Job.Entity where
  metadata := { guid := id, url := some ("/v2/jobs/" ++ id) }
  entity := { guid := some id, status := state, errorDetails := failure }

/-- The state of a job in the third version. -/
def stateV3 : Job.State → Job.StateV3
  | .queued | .running => .processing
  | .finished => .complete
  | .failed => .failed

/-- The reason of a failure in the third version. -/
def errorV3 (e : Job.ErrorDetails) : Job.ErrorV3 := { code := e.code, title := e.errorCode, detail := e.description }

/-- The job of a store as the third version reports it. -/
def jobReport (id : String) (state : Job.State) (failure : Option Job.ErrorDetails) : Job.ReportV3 where
  guid := id
  state := stateV3 state
  operation := some "service_instance.delete"
  errors := (failure.map errorV3).toList

/-- The JSON form of a job in either version. -/
def jobJson (version : Job.Version) (id : String) (state : Job.State) (failure : Option Job.ErrorDetails) : Json :=
  match version with
  | .v2 => (jobResource id state failure).toJson Job.Entity.toJson
  | .v3 => (jobReport id state failure).toJson

/-! ## Answers -/

/-- A page of a list as a response. -/
def listed {α ε : Type} (pairs : List (String × String)) (path : String) (items : Option String → List α)
    (form : Resource.Form α ε) : Http.Response :=
  let cut := Cut.ofPairs pairs
  let envelope := (cut.envelope path (items cut.name)).map form.toResource
  jsonResponse 200 (envelope.toJson (Resource.toJson form.fieldsJson))

/-- Makes a deletion, at once or as a job. -/
def delete (s : Store) (asJob : Bool) (deletion : Deletion) : Http.Response × Store :=
  if asJob then
    let (task, s) := s.startJob (some deletion)
    (jsonResponse 202 (jobJson .v2 task.id .queued none), s)
  else (emptyResponse 204, s.apply deletion)

/-- Whether pairs ask for a job. -/
def asksForJob (pairs : List (String × String)) : Bool :=
  match DeletionOptions.ofPairs pairs with
  | .ok options => options.asJob.getD false
  | .error _ => false

/-- The answer along a route to a request that can be read and shows the token. -/
def answer (s : Store) (pairs : List (String × String)) : Route → Http.Response × Store
  | .health => (plainResponse 200 "ok", s)
  | .organizations =>
    (listed pairs "/v2/organizations" s.listOrganizations Organization.form, s)
  | .spaces id =>
    (listed pairs ("/v2/organizations/" ++ id ++ "/spaces") (s.listSpaces id) Space.form, s)
  | .spaceQuotas id =>
    (listed pairs ("/v2/organizations/" ++ id ++ "/space_quota_definitions") (fun _ => s.listSpaceQuotas id)
      SpaceQuota.form, s)
  | .serviceInstances id =>
    (listed pairs ("/v2/spaces/" ++ id ++ "/service_instances") (s.listServiceInstances id)
      ServiceInstance.form, s)
  | .space id => if (s.space? id).isSome then delete s (asksForJob pairs) (.space id) else (noSpace id, s)
  | .serviceInstance id =>
    if (s.serviceInstance? id).any (! ·.isUserProvided) then delete s (asksForJob pairs) (.serviceInstance id)
    else (noServiceInstance id, s)
  | .userProvidedServiceInstance id =>
    if (s.serviceInstance? id).any (·.isUserProvided) then delete s false (.serviceInstance id)
    else (noServiceInstance id, s)
  | .job version id =>
    match s.pollJob id with
    | (some (state, failure), s) => (jsonResponse 200 (jobJson version id state failure), s)
    | (none, s) => (noJob id, s)

/-! ## Refusals before the store is looked at -/

/-- What is wrong with the pairs of a request along a route. -/
def pairsFault? (pairs : List (String × String)) : Route → Option String
  | .space _ | .serviceInstance _ =>
    match DeletionOptions.ofPairs pairs with
    | .ok _ => none
    | .error fault => some fault
  | _ => none

/-- Whether the credentials of a request show a token. -/
def shows (token : String) (authorization : List (List UInt8)) : Bool :=
  authorization.head?.bind Http.plainText? == some ("Bearer " ++ token)

/-- Whether a request may go on along a route. -/
def admits (requiredToken : Option String) (authorization : List (List UInt8)) (route : Route) : Bool :=
  route == .health || requiredToken.all (shows · authorization)

/-- A response without what its method does not ask for. -/
def strip (method : Http.Method) (r : Http.Response) : Http.Response :=
  if method = .head then { r with body := some (.written "") } else r

/-- Where a request leads, or the response to one that leads nowhere. -/
def routed (a : Arrival) : Except Http.Response Route :=
  match (Route.segments? a.path).bind Route.along? with
  | none => .error (emptyResponse 404)
  | some route =>
    if route.allows a.method then
      match route.plain? with
      | none => .error unreadableId
      | some route =>
        match pairsFault? a.pairs route with
        | some fault => .error (unreadableOptions fault)
        | none => .ok route
    else .error (emptyResponse 405)

/-- The answer to a request. -/
def respond (s : Store) (a : Arrival) : Http.Response × Store :=
  match routed a with
  | .error r => (strip a.method r, s)
  | .ok route =>
    if admits s.requiredToken a.authorization route then
      (strip a.method (answer s a.pairs route).1, (answer s a.pairs route).2)
    else (strip a.method unauthorized, s)

/-- A platform as a server whose bodies are read as they were written. -/
def server : Http.Server Store := fun request s =>
  (.response (respond s (.ofRequest request)).1, (respond s (.ofRequest request)).2)

end ControlPlane.Platform
