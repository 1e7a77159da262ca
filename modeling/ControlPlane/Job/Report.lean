import ControlPlane.Job.Encoding
import ControlPlane.Resource

/-!
# Reports on jobs

The platform reports on a job in two versions of its interface, each with its own words for the states and its own form for
the reason of a failure. Both reports stand for a status.
-/

namespace ControlPlane.Job

/-- The versions of the interface. -/
inductive Version where
  | v2 | v3
deriving DecidableEq, Repr

/-- The code of an error from its name and its number. -/
def errorCode : Option String → Option Int64 → String
  | some name, some number => name ++ "(" ++ toString number.toInt ++ ")"
  | some name, none => name
  | none, some number => toString number.toInt
  | none, none => Error.unknownCode

/-! ## The second version -/

/-- The reason of a failure as the second version reports it. -/
structure ErrorDetails where
  code : Option Int64 := none
  description : Option String := none
  errorCode : Option String := none
deriving DecidableEq

/-- A report of the second version. -/
structure Entity where
  guid : Option String := none
  status : State
  errorDetails : Option ErrorDetails := none
deriving DecidableEq

namespace State

/-- The word for a state in the second version. -/
def wordV2 : State → String
  | queued => "queued"
  | running => "running"
  | finished => "finished"
  | failed => "failed"

/-- Reads a state of the second version. -/
def decoderV2 : Json.Decoder State :=
  .choice [(queued.wordV2, .plain queued), (running.wordV2, .plain running), (finished.wordV2, .plain finished),
    (failed.wordV2, .plain failed)]

end State

namespace ErrorDetails

/-- The JSON form of the reason of a failure. -/
def toJson (e : ErrorDetails) : Json :=
  .object [("code", .ofOption .ofInt64 e.code), ("description", .ofOption .text e.description),
    ("error_code", .ofOption .text e.errorCode)]

/-- Reads the reason of a failure. -/
def decoder : Json.Decoder ErrorDetails :=
  (Json.Record.of ErrorDetails.mk
    |>.optional "code" .int64
    |>.optional "description" .text
    |>.optional "error_code" .text).decoder "JobErrorDetails"

/-- What the reason stands for. -/
def toError (e : ErrorDetails) : Error where
  code := Job.errorCode e.errorCode e.code
  description := e.description.getD Error.unknownDescription

end ErrorDetails

namespace Entity

/-- The JSON form of a report. -/
def toJson (e : Entity) : Json :=
  .object [("guid", .ofOption .text e.guid), ("status", .text e.status.wordV2),
    ("error_details", .ofOption ErrorDetails.toJson e.errorDetails)]

/-- Reads a report. -/
def decoder : Json.Decoder Entity :=
  (Json.Record.of Entity.mk
    |>.optional "guid" .text
    |>.required "status" State.decoderV2
    |>.optional "error_details" ErrorDetails.decoder).decoder "JobEntity"

/-- The status that a report stands for. -/
def toStatus (e : Entity) : Status := ⟨e.status, e.errorDetails.map ErrorDetails.toError⟩

end Entity

/-! ## The third version -/

/-- The states of the third version. -/
inductive StateV3 where
  | processing | polling | complete | failed
deriving DecidableEq, Repr

/-- An error as the third version reports it. -/
structure ErrorV3 where
  code : Option Int64 := none
  title : Option String := none
  detail : Option String := none
deriving DecidableEq

/-- A report of the third version. -/
structure ReportV3 where
  guid : String
  state : StateV3
  operation : Option String := none
  errors : List ErrorV3 := []
deriving DecidableEq

namespace StateV3

/-- The word for a state in the third version. -/
def word : StateV3 → String
  | processing => "PROCESSING"
  | polling => "POLLING"
  | complete => "COMPLETE"
  | failed => "FAILED"

/-- Reads a state of the third version. -/
def decoder : Json.Decoder StateV3 :=
  .choice [(processing.word, .plain processing), (polling.word, .plain polling), (complete.word, .plain complete),
    (failed.word, .plain failed)]

/-- The state that a word stands for. -/
def toState : StateV3 → State
  | processing | polling => .running
  | complete => .finished
  | failed => .failed

end StateV3

namespace ErrorV3

/-- The JSON form of an error. -/
def toJson (e : ErrorV3) : Json :=
  .object [("code", .ofOption .ofInt64 e.code), ("title", .ofOption .text e.title),
    ("detail", .ofOption .text e.detail)]

/-- Reads an error. -/
def decoder : Json.Decoder ErrorV3 :=
  (Json.Record.of ErrorV3.mk
    |>.optional "code" .int64
    |>.optional "title" .text
    |>.optional "detail" .text).decoder "ApiErrorV3"

/-- What an error stands for. -/
def toError (e : ErrorV3) : Error where
  code := errorCode e.title e.code
  description := e.detail.getD Error.unknownDescription

end ErrorV3

namespace ReportV3

/-- The JSON form of a report. -/
def toJson (r : ReportV3) : Json :=
  .object [("guid", .text r.guid), ("state", .text r.state.word), ("operation", .ofOption .text r.operation),
    ("errors", .ofList ErrorV3.toJson r.errors)]

/-- Reads a report. -/
def decoder : Json.Decoder ReportV3 :=
  (Json.Record.of ReportV3.mk
    |>.required "guid" .text
    |>.required "state" StateV3.decoder
    |>.optional "operation" .text
    |>.defaulted "errors" ErrorV3.decoder.list []).decoder "JobV3"

/-- The status that a report stands for: the first error counts. -/
def toStatus (r : ReportV3) : Status := ⟨r.state.toState, r.errors.head?.map ErrorV3.toError⟩

end ReportV3

end ControlPlane.Job
