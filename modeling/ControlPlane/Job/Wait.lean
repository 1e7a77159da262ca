import ControlPlane.Job.Backoff
import ControlPlane.Job.Timeline

/-!
# Waiting for a job

The status of a job is asked for again and again until the job is done. Between an answer and the next request lies the
current delay. A wait with a time limit ends when the limit is reached: a request still open then is given up, and where
the next request would come after the limit the wait sleeps up to the limit and ends without it. An answer that comes
exactly at the limit still counts, and so does a request due exactly then.

A wait is allowed a number of requests; every statement about what a wait does holds for each such number.
-/

namespace ControlPlane.Job

/-- The answer to a request for a status: after how many milliseconds it comes, if ever, and what it says. -/
structure Answer where
  latency : Option Nat
  result : Result Status

/-- Where statuses come from: a job is asked for at a time, and the source goes to its next state. -/
abbrev StatusSource (σ : Type) := String → Nat → σ → Answer × σ

/-- One wait: the job, the time it starts, the nanosecond at which its time is over, and how delays develop. -/
structure Wait where
  job : String
  start : Nat
  deadline : Option Nat
  backoff : Backoff

namespace Wait

variable {σ : Type}

/-- The first whole millisecond at which the time of the wait is over. -/
def limit (w : Wait) : Option Nat := w.deadline.map Duration.ceilMillis

/-- The failure of a wait that gives up at a time. -/
def timeout (w : Wait) (time : Nat) : Failure :=
  .timeout w.job (.clamp ((time - w.start) * Duration.perMilli))

/-- When the answer to a request made at a time comes, or the time at which the wait gives up. A request made after the
limit is given up at once, unless its answer is there at once. -/
def arrival (w : Wait) (now : Nat) (latency : Option Nat) : Except (Except Halt Nat) Nat :=
  match w.limit, latency with
  | none, none => .error (.error .hung)
  | none, some l => .ok (now + l)
  | some limit, none => .error (.ok (max now limit))
  | some limit, some l => if now + l ≤ max now limit then .ok (now + l) else .error (.ok (max now limit))

/-- When the request after an answer is made, or the time at which the wait gives up instead, after it has slept for the time
that is left. -/
def nextRequest (w : Wait) (now : Nat) (delay : Duration) : Except Nat Nat :=
  match w.deadline with
  | none => .ok (wake now delay)
  | some deadline =>
    let remaining : Duration := .clamp (deadline - now * Duration.perMilli)
    if remaining.nanos = 0 ∨ remaining.nanos < delay.nanos then .error (wake now remaining) else .ok (wake now delay)

/-- What an answer means for the wait: its end, or nothing. -/
def verdict (w : Wait) : Result Status → Option (Except Halt Unit)
  | .error e => some (.error (.failure e))
  | .ok status =>
    match status.state with
    | .finished => some (.ok ())
    | .failed => some (.error (.failure (status.failure w.job)))
    | .queued | .running => none

/-- Asks until the wait ends. -/
def run (source : StatusSource σ) (w : Wait) : Nat → Duration → Nat → σ → Timeline σ Unit
  | 0, _, now, s => .still (.error .exhausted) now s
  | allowed + 1, delay, now, s =>
    let (answer, s) := source w.job now s
    .after now (.asked w.job) <|
      match w.arrival now answer.latency with
      | .error (.error halt) => .still (.error halt) now s
      | .error (.ok time) => .still (.error (.failure (w.timeout time))) time s
      | .ok time =>
        match w.verdict answer.result with
        | some outcome => .still outcome time s
        | none =>
          match w.nextRequest time delay with
          | .error time => .still (.error (.failure (w.timeout time))) time s
          | .ok next => run source w allowed (w.backoff.next delay) next s

end Wait

/-- Waits for a job from a time on, with a number of requests allowed. A time limit that the clock cannot tell stops the
wait before its first request. -/
def await {σ : Type} (source : StatusSource σ) (handle : Handle) (settings : PollSettings) (allowed now : Nat) (s : σ) :
    Timeline σ Unit :=
  let deadline := settings.timeout.map fun t => now * Duration.perMilli + t.nanos
  if deadline.any (clockLimit ≤ ·) then .still (.error .clockOverflow) now s
  else
    let w : Wait := { job := handle.id, start := now, deadline, backoff := settings.backoff }
    w.run source allowed (settings.firstDelay handle) now s

end ControlPlane.Job
