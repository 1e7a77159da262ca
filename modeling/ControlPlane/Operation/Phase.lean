import ControlPlane.Failure

/-!
# The phases of an operation

An operation starts, may look up the entities it needs, may change the platform, may wait for a job, and ends completed or
failed. `Phase.canAdvance` says which phase may come after which; no phase comes after an end.
-/

namespace ControlPlane

/-- A phase of an operation. -/
inductive Phase where
  | started | resolving | mutating | awaitingJob | completed
  | failed (kind : Failure.Kind)
deriving DecidableEq, Repr

namespace Phase

/-- The word for a phase. -/
def word : Phase → String
  | started => "started"
  | resolving => "resolving"
  | mutating => "mutating"
  | awaitingJob => "awaiting_job"
  | completed => "completed"
  | failed _ => "failed"

/-- Whether an operation has ended. -/
def isTerminal : Phase → Bool
  | completed | failed _ => true
  | _ => false

/-- Whether a phase may come next: a failure after any phase that is no end. -/
def canAdvance : Phase → Phase → Bool
  | current, failed _ => !current.isTerminal
  | started, resolving | started, mutating => true
  | resolving, mutating | resolving, completed => true
  | mutating, awaitingJob | mutating, completed => true
  | awaitingJob, completed => true
  | _, _ => false

/-- Goes to another phase, or refuses. -/
def advance (current requested : Phase) : Result Phase :=
  if current.canAdvance requested then .ok requested
  else .error (.invalidTransition current.word requested.word)

/-- Records a failure. A phase that is an end stays. -/
def fail (current : Phase) (e : Failure) : Phase :=
  if current.isTerminal then current else .failed e.kind

/-- Records the failure of a result, if it is one. -/
def track {α : Type} (current : Phase) : Result α → Phase
  | .ok _ => current
  | .error e => current.fail e

end Phase

end ControlPlane
