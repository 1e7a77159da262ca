import ControlPlane.Job.Status
import ControlPlane.Json.Encoding

/-!
# JSON forms of handles and statuses
-/

namespace ControlPlane.Job

namespace State

/-- The word exchanged for a state. -/
def word : State → String
  | queued => "QUEUED"
  | running => "RUNNING"
  | finished => "FINISHED"
  | failed => "FAILED"

/-- Reads a state. -/
def decoder : Json.Decoder State :=
  .choice [(queued.word, .plain queued), (running.word, .plain running), (finished.word, .plain finished),
    (failed.word, .plain failed)]

end State

/-- Reads why a job failed. -/
def Error.decoder : Json.Decoder Error :=
  (Json.Record.of Error.mk
    |>.required "code" .text
    |>.required "description" .text).decoder "JobError"

/-- Reads a status. -/
def Status.decoder : Json.Decoder Status :=
  (Json.Record.of Status.mk
    |>.required "state" State.decoder
    |>.optional "error" Error.decoder).decoder "JobStatus"

namespace Handle

/-- The JSON form of a handle. A hint that is not there is left out. -/
def toJson (h : Handle) : Json :=
  .object (("id", .text h.id) :: (h.intervalHint.map fun d => ("poll_interval_hint", d.toJson)).toList)

/-- Reads a handle. -/
def decoder : Json.Decoder Handle :=
  (Json.Record.of Handle.mk
    |>.required "id" .text
    |>.optional "poll_interval_hint" Duration.decoder).decoder "JobHandle"

end Handle

end ControlPlane.Job
