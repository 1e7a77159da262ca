import ControlPlane.Client.Collections
import ControlPlane.Operation.Tracking
import ControlPlane.Resolution

/-!
# Operations by name

Operations work on a target: a client with the names of an organization and a space. Entities are found by their names: the
organization among all, spaces and space quotas within the organization, service instances within the space. What is found
must be the only entity of its name.
-/

namespace ControlPlane

/-- Where operations work, and how they wait. -/
structure Target where
  client : Client
  organization : Option String := none
  space : Option String := none
  settings : Job.PollSettings := {}

namespace Target

variable {σ α : Type}

/-- A list that is read while the session goes on. -/
abbrev Listing (σ α : Type) := Session σ → List (Result α) × Session σ

/-- The whole list, or its first failure. -/
def Listing.whole (items : Listing σ α) : Conversation σ (List α) :=
  .of fun s => (Fallible.whole (items s).1, (items s).2)

/-- Resolves a name against a list. -/
def Listing.resolve (entity name : String) (items : Listing σ α) : Conversation σ α :=
  .of fun s => ((Resolution.resolve entity name (items s).1).1, (items s).2)

/-- What a collection holds for a query. -/
def listing (t : Target) (server : Http.Server σ) (list : Collection α) (query : Query) : Listing σ α :=
  (t.client.pages server list query).results

/-- The failure of an operation that needs a target of some kind. -/
def untargeted (kind : String) : Failure := .configMissing ("no " ++ kind ++ " targeted")

/-- Finds an organization. -/
def findOrganization (t : Target) (server : Http.Server σ) (name : String) : Conversation σ Organization :=
  (t.listing server .organizations (.ofName name)).resolve Organization.kindName name

/-- The id of the organization that is targeted. -/
def organizationId (t : Target) (server : Http.Server σ) : Conversation σ String := do
  match t.organization with
  | none => throw (untargeted "organization")
  | some name => return (← t.findOrganization server name).id

/-- Finds a space of the organization. -/
def findSpace (t : Target) (server : Http.Server σ) (name : String) : Conversation σ Space := do
  let organization ← t.organizationId server
  (t.listing server (.spaces organization) (.ofName name)).resolve Space.kindName name

/-- The id of the space that is targeted. -/
def spaceId (t : Target) (server : Http.Server σ) : Conversation σ String := do
  match t.space with
  | none => throw (untargeted "space")
  | some name => return (← t.findSpace server name).id

/-- Finds a service instance of a space that is known by its id. -/
def findServiceInstance (t : Target) (server : Http.Server σ) (space name : String) : Conversation σ ServiceInstance :=
  (t.listing server (.serviceInstances space) (.ofName name)).resolve ServiceInstance.kindName name

/-! ## Lists within the organization -/

/-- A list within the organization, from its beginning: the organization is looked up first, and where that fails, the
failure is all that the list tells. -/
def within (t : Target) (server : Http.Server σ) (list : String → Collection α) : Listing σ α :=
  fun s =>
    match (t.organizationId server).runOn s with
    | (.error e, s) => ([.error e], s)
    | (.ok organization, s) => t.listing server (list organization) .all s

/-- All organizations. -/
def organizations (t : Target) (server : Http.Server σ) : Listing σ Organization :=
  t.listing server .organizations .all

/-- The spaces of the organization. -/
def spaces (t : Target) (server : Http.Server σ) : Listing σ Space := t.within server .spaces

/-- The space quotas of the organization. -/
def spaceQuotas (t : Target) (server : Http.Server σ) : Listing σ SpaceQuota := t.within server .spaceQuotas

/-- Finds a space quota of the organization. The platform does not look for names of quotas, so all are read. -/
def findSpaceQuota (t : Target) (server : Http.Server σ) (name : String) : Conversation σ SpaceQuota :=
  let named : Listing σ SpaceQuota := fun s =>
    let (items, s) := t.spaceQuotas server s
    (Fallible.select (·.name == name) items, s)
  named.resolve SpaceQuota.kindName name

/-! ## Operations -/

/-- An operation that only looks something up. -/
def lookUp (find : Conversation σ α) : Conversation σ α := do
  Conversation.start
  Conversation.enter .resolving
  let found ← find.watched
  Conversation.enter .completed
  return found

/-- Looks up an organization. -/
def getOrganization (t : Target) (server : Http.Server σ) (name : String) : Conversation σ Organization :=
  lookUp (t.findOrganization server name)

/-- Looks up a space. -/
def getSpace (t : Target) (server : Http.Server σ) (name : String) : Conversation σ Space :=
  lookUp (t.findSpace server name)

/-- Looks up a space quota. -/
def getSpaceQuota (t : Target) (server : Http.Server σ) (name : String) : Conversation σ SpaceQuota :=
  lookUp (t.findSpaceQuota server name)

/-- What an operation does when its change is accepted as a job. -/
def acceptance : Mutation.Hook (Session σ) := fun _ _ s => (Conversation.enter .awaitingJob).runOn s

/-- Makes a change and waits for its job. The clock starts with the change. -/
def change (t : Target) (server : Http.Server σ) (allowed : Nat) (answer : Conversation σ (Mutation.Response α)) :
    Undertaking σ (Mutation.Completed α) :=
  .of fun s =>
    let line := Mutation.run (fun s => (0, answer.runOn s)) acceptance (t.client.statuses server .v2) t.settings allowed 0 s
    (line.outcome, line.state)

/-- The last phases of an operation that changes something. -/
def mutate (t : Target) (server : Http.Server σ) (allowed : Nat) (answer : Conversation σ (Mutation.Response α)) :
    Undertaking σ (Mutation.Completed α) := do
  .converse (.enter .mutating)
  let completed ← (t.change server allowed answer).watched
  .converse (.enter .completed)
  return completed

/-- Deletes a service instance of the space. The wait for its job is allowed a number of requests. -/
def deleteServiceInstance (t : Target) (server : Http.Server σ) (allowed : Nat) (name : String) :
    Undertaking σ (Mutation.Completed Unit) := do
  .converse .start
  .converse (.enter .resolving)
  let space ← .converse (t.spaceId server).watched
  let found ← .converse (t.findServiceInstance server space name).watched
  t.mutate server allowed (t.client.deleteServiceInstance server found)

/-- Deletes a space of the organization. The wait for its job is allowed a number of requests. -/
def deleteSpace (t : Target) (server : Http.Server σ) (allowed : Nat) (name : String) :
    Undertaking σ (Mutation.Completed Unit) := do
  .converse .start
  .converse (.enter .resolving)
  let found ← .converse (t.findSpace server name).watched
  t.mutate server allowed (t.client.deleteSpace server found)

end Target

end ControlPlane
