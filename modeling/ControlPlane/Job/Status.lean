import ControlPlane.Failure

/-!
# The status of a job
-/

namespace ControlPlane.Job

/-- The states of a job. -/
inductive State where
  | queued | running | finished | failed
deriving DecidableEq, Repr

/-- Whether a job in the state is done, well or badly. -/
def State.isTerminal : State → Bool
  | finished | failed => true
  | queued | running => false

/-- Why a job failed. -/
structure Error where
  code : String
  description : String
deriving DecidableEq, Repr

/-- The code of a failed job that does not say why. -/
def Error.unknownCode : String := "UnknownError"

/-- The description of a failed job that does not say why. -/
def Error.unknownDescription : String := "job failed"

/-- What is told of a failed job that does not say why. -/
def Error.unknown : Error := ⟨unknownCode, unknownDescription⟩

/-- A status as it is reported. -/
structure Status where
  state : State
  error : Option Error := none
deriving DecidableEq, Repr

/-- The failure that a failed job means for the one who waits for it. -/
def Status.failure (status : Status) (job : String) : Failure :=
  let error := status.error.getD .unknown
  .jobFailed job error.code error.description

/-- A job that the platform has accepted. -/
structure Handle where
  id : String
  /-- How long the platform suggests to wait between two requests. -/
  intervalHint : Option Duration := none
deriving DecidableEq, Repr

end ControlPlane.Job
