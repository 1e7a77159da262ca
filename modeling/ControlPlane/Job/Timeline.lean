import ControlPlane.Failure
import ControlPlane.Job.Status

/-!
# Timelines

What happens while something is waited for, on a clock of whole milliseconds: the events in their order, each with its time,
how it ends, and when. A timeline that is given up at some time keeps what happened up to then.
-/

namespace ControlPlane.Job

/-- The number of nanoseconds after the start of the clock that the clock can still tell. -/
def clockLimit : Nat := 0x8000000000000000 * 1000000000

/-- The milliseconds in thirty years, the longest sleep. -/
def longestSleep : Nat := 30 * 365 * 24 * 60 * 60 * 1000

/-- The time at which a sleep ends: the first whole millisecond at which its length, or that of the longest sleep, is
over. -/
def wake (now : Nat) (length : Duration) : Nat := now + min (Duration.ceilMillis length.nanos) longestSleep

/-- Why something comes to no result. -/
inductive Halt where
  | failure (e : Failure)
  /-- The end of the time allowed is beyond what the clock can tell. -/
  | clockOverflow
  /-- A request is never answered, and no time limit ends the wait for it. -/
  | hung
  /-- All requests that were allowed are used up. -/
  | exhausted
deriving DecidableEq, Repr

/-- Whether the one who waits gets an answer, good or bad. -/
def Halt.isSettled : Halt → Bool
  | failure _ | clockOverflow => true
  | hung | exhausted => false

/-- What happens at some time. -/
inductive Event where
  /-- A job is told to the one who asked for it. -/
  | accepted (handle : Handle)
  /-- The status of a job is asked for. -/
  | asked (job : String)
deriving DecidableEq, Repr

/-- What happens, how it ends, and when. -/
structure Timeline (σ α : Type) where
  events : List (Nat × Event)
  outcome : Except Halt α
  time : Nat
  state : σ

namespace Timeline

variable {σ α β : Type}

/-- A timeline on which nothing happens. -/
def still (outcome : Except Halt α) (time : Nat) (state : σ) : Timeline σ α := ⟨[], outcome, time, state⟩

/-- An event before a timeline. -/
def after (time : Nat) (event : Event) (t : Timeline σ α) : Timeline σ α :=
  { t with events := (time, event) :: t.events }

/-- The timeline with another result. -/
def map (f : α → β) (t : Timeline σ α) : Timeline σ β := { t with outcome := t.outcome.map f }

/-- The times at which a status is asked for, with the job. -/
def requests (t : Timeline σ α) : List (Nat × String) :=
  t.events.filterMap fun
    | (time, .asked job) => some (time, job)
    | (_, .accepted _) => none

/-- The jobs that are told to the one who asked for them. -/
def acceptedJobs (t : Timeline σ α) : List Handle :=
  t.events.filterMap fun
    | (_, .accepted handle) => some handle
    | (_, .asked _) => none

/-- Whether the result is there at a time. -/
def isSettledAt (t : Timeline σ α) (time : Nat) : Bool :=
  t.time ≤ time && match t.outcome with
    | .ok _ => true
    | .error halt => halt.isSettled

/-- The timeline given up at a time: it is whole where its result is there by then, and otherwise ends without result,
with the events up to that time. -/
def giveUpAt (time : Nat) (t : Timeline σ α) : Timeline σ (Option α) :=
  if t.isSettledAt time then t.map some
  else { events := t.events.filter (·.1 ≤ time), outcome := .ok none, time, state := t.state }

end Timeline

end ControlPlane.Job
