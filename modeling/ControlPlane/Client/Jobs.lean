import ControlPlane.Client.Basic
import ControlPlane.Job.Report
import ControlPlane.Mutation

/-!
# Jobs of the platform

The platform makes a deletion at once or accepts it as a job. The job is named by the last segment of the location that the
response gives; where it gives none, by the job in the body. The status of a job is asked for in either version of the
interface.
-/

namespace ControlPlane.Client

variable {σ : Type}

/-- The status of a response to something that was accepted as a job. -/
def acceptedStatus : UInt16 := 202

/-- The last segment of a location, which may have slashes behind it. -/
def lastSegment? (location : String) : Option String :=
  let segment := (location.toList.reverse.dropWhile (· == '/')).takeWhile (· != '/')
  if segment.isEmpty then none else some (String.ofList segment.reverse)

/-- The job that a response of acceptance names. -/
def acceptedJob (r : Http.Response) : Result Job.Handle :=
  match (r.headerText? "location").bind lastSegment? with
  | some id => .ok { id }
  | none => (r.decode (Resource.decoder Job.Entity.decoder)).map fun job => { id := job.id }

/-- What a response of success says of a deletion. -/
def deletionOf (r : Http.Response) : Result (Mutation.Response Unit) :=
  if r.status = acceptedStatus then (acceptedJob r).map .accepted else .ok (.immediate ())

/-- Asks to delete what is at a path. -/
def delete (c : Client) (server : Http.Server σ) (path : String) (pairs : List (String × String)) :
    Conversation σ (Mutation.Response Unit) := do
  Conversation.known (deletionOf (← c.deleteWith server path pairs))

/-! ## Statuses -/

/-- The path of a job. -/
def jobPath (version : Job.Version) (job : String) : String :=
  (match version with
    | .v2 => "v2/jobs/"
    | .v3 => "v3/jobs/") ++ Url.segmentText job

/-- The status in a response. -/
def statusOf (version : Job.Version) (r : Http.Response) : Result Job.Status :=
  match version with
  | .v2 => (r.decode (Resource.decoder Job.Entity.decoder)).map fun job => job.entity.toStatus
  | .v3 => (r.decode Job.ReportV3.decoder).map Job.ReportV3.toStatus

/-- Asks for the status of a job. -/
def status (c : Client) (server : Http.Server σ) (version : Job.Version) (job : String) : Conversation σ Job.Status := do
  Conversation.known (statusOf version (← c.get server (jobPath version job)))

/-- The source of statuses that asks the platform. Its answers are there at once. -/
def statuses (c : Client) (server : Http.Server σ) (version : Job.Version) : Job.StatusSource (Session σ) :=
  fun job _ s => (⟨some 0, ((c.status server version job).runOn s).1⟩, ((c.status server version job).runOn s).2)

end ControlPlane.Client
