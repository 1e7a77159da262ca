import ControlPlane.Proofs.Waiting.Schedule

/-!
# Waits that start later

A wait tells all its times from its start. A wait that starts some milliseconds later, and is told then what the other one is told, does
the same, that much later: round by round in `round_later`, and as a whole in `await_later`.
-/

namespace ControlPlane.Job

open Duration

variable {σ α : Type}

/-- The source as it is on a clock that starts some milliseconds later. -/
def StatusSource.since (start : Nat) (source : StatusSource σ) : StatusSource σ := fun job time s => source job (start + time) s

/-- The timeline some milliseconds later. -/
def Timeline.later (start : Nat) (line : Timeline σ α) : Timeline σ α where
  events := line.events.map fun e => (start + e.1, e.2)
  outcome := line.outcome
  time := start + line.time
  state := line.state

namespace Wait

/-- The wait some milliseconds later. -/
def later (start : Nat) (w : Wait) : Wait where
  job := w.job
  start := start + w.start
  deadline := w.deadline.map fun d => start * perMilli + d
  backoff := w.backoff

/-- The round some milliseconds later. -/
def Round.later (start : Nat) : Round → Round
  | .ends outcome time => .ends outcome (start + time)
  | .asks next => .asks (start + next)

variable (start : Nat) (w : Wait) (now : Nat)

theorem limit_later : (w.later start).limit = w.limit.map (start + ·) := by
  cases hd : w.deadline with
  | none => simp only [limit, later, hd, Option.map_none]
  | some d => simp only [limit, later, hd, Option.map_some, ceilMillis_add]

theorem timeout_later : (w.later start).timeout (start + now) = w.timeout now := by
  rw [timeout, timeout, later, Nat.add_sub_add_left]

theorem wake_later (length : Duration) : wake (start + now) length = start + wake now length := by
  rw [wake, wake, Nat.add_assoc]

/-- An answer arrives as much later as it is asked for, and so does the wait give up. -/
theorem arrival_later (latency : Option Nat) : (w.later start).arrival (start + now) latency =
    ((w.arrival now latency).map (start + ·)).mapError (Except.map (start + ·)) := by
  unfold arrival
  rw [limit_later]
  cases w.limit with
  | none =>
    cases latency with
    | none => rfl
    | some l => exact congrArg Except.ok (Nat.add_assoc start now l)
  | some limit =>
    have hmax : max (start + now) (start + limit) = start + max now limit := Nat.add_max_add_left start now limit
    cases latency with
    | none => exact congrArg (fun time => Except.error (Except.ok time)) hmax
    | some l =>
      simp only [Option.map_some, hmax, Nat.add_assoc, Nat.add_le_add_iff_left]
      split <;> rfl

/-- The next request is made as much later as the answer is there, since as much time is left. -/
theorem nextRequest_later (delay : Duration) : (w.later start).nextRequest (start + now) delay =
    ((w.nextRequest now delay).map (start + ·)).mapError (start + ·) := by
  cases hd : w.deadline with
  | none =>
    simp only [nextRequest, later, hd, Option.map_none, wake_later]
    rfl
  | some d =>
    have hleft : start * perMilli + d - (start + now) * perMilli = d - now * perMilli := by rw [Nat.add_mul, Nat.add_sub_add_left]
    simp only [nextRequest, later, hd, Option.map_some, hleft, wake_later]
    split <;> rfl

/-- What one round of a wait comes to does not depend on when the wait starts. -/
theorem round_later (answer : Answer) (delay : Duration) :
    (w.later start).round answer delay (start + now) = (w.round answer delay now).later start := by
  unfold round
  rw [arrival_later]
  cases w.arrival now answer.latency with
  | error r =>
    cases r with
    | error halt => rfl
    | ok time => exact congrArg (fun e => Round.ends (.error (.failure e)) (start + time)) (w.timeout_later start time)
  | ok time =>
    have harrival : ((Except.ok time : Except (Except Halt Nat) Nat).map (start + ·)).mapError (Except.map (start + ·)) =
        .ok (start + time) := rfl
    have hverdict : (w.later start).verdict answer.result = w.verdict answer.result := rfl
    rw [harrival, hverdict]
    cases w.verdict answer.result with
    | some outcome => rfl
    | none =>
      dsimp only
      rw [nextRequest_later]
      cases w.nextRequest time delay with
      | error ending => exact congrArg (fun e => Round.ends (.error (.failure e)) (start + ending)) (w.timeout_later start ending)
      | ok next => rfl

/-- A wait that starts later does the same later. -/
theorem run_later (source : StatusSource σ) (allowed : Nat) (delay : Duration) (s : σ) :
    (w.later start).run source allowed delay (start + now) s = (w.run (source.since start) allowed delay now s).later start := by
  induction allowed generalizing delay now s with
  | zero => rfl
  | succ allowed ih =>
    rw [run_succ, run_succ]
    have hround : (w.later start).round (source w.job (start + now) s).1 delay (start + now) =
        (w.round (source.since start w.job now s).1 delay now).later start := w.round_later start now _ delay
    rw [show (w.later start).job = w.job from rfl, hround]
    cases w.round (source.since start w.job now s).1 delay now with
    | ends outcome time => rfl
    | asks next =>
      have hrest := ih next (w.backoff.next delay) (source.since start w.job now s).2
      simp only [Round.later]
      exact congrArg (Timeline.after (start + now) (.asked w.job)) hrest

end Wait

/-- The wait for a job that starts later. -/
theorem PollSettings.wait_later (settings : PollSettings) (handle : Handle) (start now : Nat) :
    (settings.wait handle now).later start = settings.wait handle (start + now) := by
  have hlimit : ∀ t : Duration, start * perMilli + (now * perMilli + t.nanos) = (start + now) * perMilli + t.nanos := by
    intro t
    rw [Nat.add_mul, Nat.add_assoc]
  simp only [wait, Wait.later, Option.map_map, Function.comp_def, hlimit]

/-- A wait for a job that starts later does the same later, where the clock can tell its time limit then if it can at all. -/
theorem await_later (source : StatusSource σ) (handle : Handle) (settings : PollSettings) (allowed start now : Nat) (s : σ)
    (hclock : ∀ t ∈ settings.timeout, now * perMilli + t.nanos < clockLimit → (start + now) * perMilli + t.nanos < clockLimit) :
    await source handle settings allowed (start + now) s = (await (source.since start) handle settings allowed now s).later start := by
  by_cases h : ∀ t ∈ settings.timeout, now * perMilli + t.nanos < clockLimit
  · have hlater : ∀ t ∈ settings.timeout, (start + now) * perMilli + t.nanos < clockLimit := fun t ht => hclock t ht (h t ht)
    rw [await_eq_run_of_lt source handle settings allowed s hlater, await_eq_run_of_lt (source.since start) handle settings allowed s h]
    have hwait := settings.wait_later handle start now
    rw [PollSettings.wait, PollSettings.wait] at hwait
    rw [← hwait]
    exact Wait.run_later start _ now source allowed _ s
  · rw [await_of_overflow (source.since start) handle allowed s h, await_of_overflow source handle allowed s]
    · rfl
    · intro hlater
      refine h fun t ht => ?_
      have hfits := hlater t ht
      rw [Nat.add_mul] at hfits
      omega

end ControlPlane.Job
