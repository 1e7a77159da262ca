import ControlPlane.Job.Wait

/-!
# Changing the platform

The platform either makes a change at once or accepts it as a job. `Mutation.run` makes a change and, where it was accepted
as a job, tells the one who asked and waits for the job.
-/

namespace ControlPlane

/-- The answer of the platform to a change. -/
inductive Mutation.Response (α : Type) where
  | immediate (value : α)
  | accepted (handle : Job.Handle)
deriving DecidableEq, Repr

/-- A change that has been made. -/
inductive Mutation.Completed (α : Type) where
  | immediate (value : α)
  | job (handle : Job.Handle)
deriving DecidableEq, Repr

namespace Mutation

variable {σ α : Type}

/-- The value of a change made at once. -/
def Completed.value? : Completed α → Option α
  | .immediate value => some value
  | .job _ => none

/-- The job that made the change. -/
def Completed.job? : Completed α → Option Job.Handle
  | .immediate _ => none
  | .job handle => some handle

/-- What an accepted change is told to, before the first request for its status. -/
abbrev Hook (σ : Type) := Job.Handle → Nat → σ → Result Unit × σ

/-- The hook that agrees to everything. -/
def Hook.agree : Hook σ := fun _ _ s => (.ok (), s)

/-- What follows the answer to a change, from the time at which the answer is there. -/
def settle (hook : Hook σ) (source : Job.StatusSource σ) (settings : Job.PollSettings) (allowed now : Nat)
    (answer : Result (Response α)) (s : σ) : Job.Timeline σ (Completed α) :=
  match answer with
  | .error e => .still (.error (.failure e)) now s
  | .ok (.immediate value) => .still (.ok (.immediate value)) now s
  | .ok (.accepted handle) =>
    .after now (.accepted handle) <|
      match hook handle now s with
      | (.error e, s) => .still (.error (.failure e)) now s
      | (.ok (), s) => (Job.await source handle settings allowed now s).map fun _ => .job handle

/-- Makes a change and waits until it is done. The change takes some milliseconds and goes to the next state. -/
def run (change : σ → Nat × Result (Response α) × σ) (hook : Hook σ) (source : Job.StatusSource σ)
    (settings : Job.PollSettings) (allowed now : Nat) (s : σ) : Job.Timeline σ (Completed α) :=
  let (latency, answer, s) := change s
  settle hook source settings allowed (now + latency) answer s

end Mutation

end ControlPlane
