import ControlPlane.Client.Jobs
import ControlPlane.Envelope
import ControlPlane.Organization
import ControlPlane.Page.Pager
import ControlPlane.Query
import ControlPlane.ServiceInstance
import ControlPlane.Space
import ControlPlane.SpaceQuota

/-!
# Lists and deletions of entities

A collection is a list that the platform keeps, at a path of its own: the organizations, or the entities of one kind within
one organization or space. Its pages are asked for with the pairs of a query and read as envelopes of resources. Where the
id of an entity stands in a path, it is one segment of it.
-/

namespace ControlPlane

/-- A list that the platform keeps. -/
structure Collection (α : Type) where
  path : String
  /-- The pairs sent after those of the query. -/
  pairs : List (String × String) := []
  /-- Reads a page. -/
  envelope : Json.Decoder (Envelope α)

namespace Collection

/-- Reads a page of resources as a page of what they stand for. -/
def envelopeOf {ε α : Type} (form : Resource.Form α ε) : Json.Decoder (Envelope α) :=
  fun depth r => (Envelope.decoder (Resource.decoder form.fields) depth r).map (·.map form.ofResource)

/-- All organizations. -/
def organizations : Collection Organization where
  path := "v2/organizations"
  envelope := envelopeOf Organization.form

/-- The spaces of an organization. -/
def spaces (organization : String) : Collection Space where
  path := "v2/organizations/" ++ Url.segmentText organization ++ "/spaces"
  envelope := envelopeOf Space.form

/-- The space quotas of an organization. -/
def spaceQuotas (organization : String) : Collection SpaceQuota where
  path := "v2/organizations/" ++ Url.segmentText organization ++ "/space_quota_definitions"
  envelope := envelopeOf SpaceQuota.form

/-- The service instances of a space, those that users look after included. -/
def serviceInstances (space : String) : Collection ServiceInstance where
  path := "v2/spaces/" ++ Url.segmentText space ++ "/service_instances"
  pairs := [("return_user_provided_service_instances", "true")]
  envelope := envelopeOf ServiceInstance.form

end Collection

namespace Client

variable {σ α : Type}

/-- Asks for a page of a collection. -/
def page (c : Client) (server : Http.Server σ) (list : Collection α) (query : Query) (number : UInt32) :
    Conversation σ (Page α) := do
  let r ← c.getWith server list.path (query.pairs number ++ list.pairs)
  let envelope ← Conversation.known (r.decode list.envelope)
  return envelope.toPage number

/-- The pages of a collection. -/
def pages (c : Client) (server : Http.Server σ) (list : Collection α) (query : Query) : PageSource (Session σ) α :=
  fun number s => (.ready ((c.page server list query number).runOn s).1, ((c.page server list query number).runOn s).2)

/-- Everything in a collection. -/
def list (c : Client) (server : Http.Server σ) (list : Collection α) (query : Query) : Conversation σ (List α) :=
  .of (c.pages server list query).collect

/-- Asks to delete a space and what is in it. -/
def deleteSpace (c : Client) (server : Http.Server σ) (space : Space) : Conversation σ (Mutation.Response Unit) :=
  c.delete server ("v2/spaces/" ++ Url.segmentText space.id) [("async", "true"), ("recursive", "true")]

/-- Asks to delete a service instance. One that users look after is deleted at once. -/
def deleteServiceInstance (c : Client) (server : Http.Server σ) (i : ServiceInstance) :
    Conversation σ (Mutation.Response Unit) :=
  match i.origin with
  | .managed => c.delete server ("v2/service_instances/" ++ Url.segmentText i.id) [("async", "true")]
  | .userProvided => c.delete server ("v2/user_provided_service_instances/" ++ Url.segmentText i.id) []

end Client

end ControlPlane
