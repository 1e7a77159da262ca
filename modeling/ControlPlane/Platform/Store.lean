import ControlPlane.Job.Report
import ControlPlane.Organization
import ControlPlane.ServiceInstance
import ControlPlane.Space
import ControlPlane.SpaceQuota

/-!
# The store of a platform

A platform kept in memory holds entities in the order in which they came, and jobs by their ids. A job follows a script of
states, one for each time it is polled, and stays in the last one. A job that is to delete something does so when it is first
polled as finished. Each job keeps the script and the failure that were set when it was started.
-/

namespace ControlPlane.Platform

/-- What a job is to delete. -/
inductive Deletion where
  | serviceInstance (id : String)
  | space (id : String)
deriving DecidableEq, Repr

/-- A job of the store. -/
structure Task where
  id : String
  script : List Job.State
  polls : Nat := 0
  /-- What is told of the job when it fails. -/
  failure : Option Job.ErrorDetails := none
  deletion : Option Deletion := none
deriving DecidableEq

namespace Task

/-- The state that the next poll tells. A job without script is finished. -/
def nextState (t : Task) : Job.State := t.script[min t.polls (t.script.length - 1)]?.getD .finished

/-- What the next poll tells of a failure. -/
def nextFailure (t : Task) : Option Job.ErrorDetails := if t.nextState = .failed then t.failure else none

/-- What the next poll deletes. -/
def nextDeletion (t : Task) : Option Deletion := if t.nextState = .finished then t.deletion else none

/-- The job after a poll. -/
def polled (t : Task) : Task :=
  { t with polls := t.polls + 1, deletion := if t.nextState = .finished then none else t.deletion }

end Task

/-- A platform kept in memory. -/
structure Store where
  organizations : List Organization := []
  spaces : List Space := []
  spaceQuotas : List SpaceQuota := []
  serviceInstances : List ServiceInstance := []
  /-- The jobs by their ids. -/
  jobs : List (String × Task) := []
  /-- The script of the jobs to come. -/
  jobScript : List Job.State := []
  /-- What is told of the jobs to come when they fail. -/
  jobFailure : Option Job.ErrorDetails := none
  /-- The token that requests must show. -/
  requiredToken : Option String := none
  /-- How many jobs have been started. -/
  started : Nat := 0
deriving DecidableEq

namespace Store

/-! ## Lists -/

/-- Whether a name is the one asked for, if one is. -/
def isNamed (asked : Option String) (name : String) : Bool := asked.all (name == ·)

/-- The organizations with a name, if one is asked for. -/
def listOrganizations (s : Store) (name : Option String) : List Organization :=
  s.organizations.filter (isNamed name ·.name)

/-- The spaces of an organization, with a name if one is asked for. -/
def listSpaces (s : Store) (organization : String) (name : Option String) : List Space :=
  s.spaces.filter fun x => x.organizationId == some organization && isNamed name x.name

/-- The space quotas of an organization. -/
def listSpaceQuotas (s : Store) (organization : String) : List SpaceQuota :=
  s.spaceQuotas.filter (·.organizationId == some organization)

/-- The service instances of a space, with a name if one is asked for. -/
def listServiceInstances (s : Store) (space : String) (name : Option String) : List ServiceInstance :=
  s.serviceInstances.filter fun x => x.spaceId == some space && isNamed name x.name

/-- The space with an id. -/
def space? (s : Store) (id : String) : Option Space := s.spaces.find? (·.id == id)

/-- The service instance with an id. -/
def serviceInstance? (s : Store) (id : String) : Option ServiceInstance := s.serviceInstances.find? (·.id == id)

/-! ## Deletions -/

/-- Deletes the service instances with an id, and tells whether their number is another one then. -/
def deleteServiceInstance (s : Store) (id : String) : Bool × Store :=
  let left := s.serviceInstances.filter (·.id != id)
  (left.length != s.serviceInstances.length, { s with serviceInstances := left })

/-- Deletes the spaces with an id together with the service instances in them, and tells whether the number of spaces is another one
then. -/
def deleteSpace (s : Store) (id : String) : Bool × Store :=
  let left := s.spaces.filter (·.id != id)
  (left.length != s.spaces.length,
    { s with spaces := left, serviceInstances := s.serviceInstances.filter (·.spaceId != some id) })

/-- The store after a deletion. -/
def apply (s : Store) : Deletion → Store
  | .serviceInstance id => (s.deleteServiceInstance id).2
  | .space id => (s.deleteSpace id).2

/-! ## Jobs -/

/-- The script of a job where none is set. -/
def defaultScript : List Job.State := [.queued, .running, .finished]

/-- The script of the next job. -/
def effectiveScript (s : Store) : List Job.State := if s.jobScript.isEmpty then defaultScript else s.jobScript

/-- The job with an id. -/
def job? (s : Store) (id : String) : Option Task := s.jobs.lookup id

/-- Jobs with the one of an id changed. -/
def modify (id : String) (f : Task → Task) : List (String × Task) → List (String × Task)
  | [] => []
  | (key, task) :: rest => if key = id then (key, f task) :: rest else (key, task) :: modify id f rest

/-- The store with a job of an id, in place of the one that it may hold. -/
def putJob (s : Store) (task : Task) : Store :=
  { s with jobs := if (s.job? task.id).isSome then modify task.id (fun _ => task) s.jobs else s.jobs ++ [(task.id, task)] }

/-- The id of the job that is started after so many. -/
def jobId (started : Nat) : String := "job-" ++ toString (started + 1)

/-- The job that is started next. -/
def nextJob (s : Store) (deletion : Option Deletion) : Task where
  id := jobId s.started
  script := s.effectiveScript
  failure := s.jobFailure
  deletion := deletion

/-- Starts a job. An id that is taken already keeps its job. -/
def startJob (s : Store) (deletion : Option Deletion) : Task × Store :=
  let fresh := s.nextJob deletion
  let s := { s with started := s.started + 1 }
  match s.job? fresh.id with
  | some task => (task, s)
  | none => (fresh, { s with jobs := s.jobs ++ [(fresh.id, fresh)] })

/-- Polls a job: its state, what is told of its failure, and the store in which its deletion, if due, is made. -/
def pollJob (s : Store) (id : String) : Option (Job.State × Option Job.ErrorDetails) × Store :=
  match s.job? id with
  | none => (none, s)
  | some task =>
    let polled := { s with jobs := modify id Task.polled s.jobs }
    (some (task.nextState, task.nextFailure), task.nextDeletion.elim polled polled.apply)

/-- The store whose jobs to come are queued and then fail. -/
def withFailingJobs (s : Store) (failure : Job.ErrorDetails) : Store :=
  { s with jobScript := [.queued, .failed], jobFailure := some failure }

end Store

end ControlPlane.Platform
