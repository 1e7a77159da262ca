import ControlPlane.Job.Wait

/-!
# One round of a wait

A wait goes through rounds: a status is asked for, and once the answer is there, or the time is over, the wait ends or says
when it asks next. `Wait.round` is one round, and `run_succ` puts a wait together from its rounds, so that what holds of every
wait is shown for one round. The clock counts milliseconds, while limits and delays are told in nanoseconds; a number of
nanoseconds is over at the first whole millisecond after it.
-/

namespace ControlPlane

/-! ## Whole milliseconds -/

namespace Duration

theorem ceilMillis_eq (n : Nat) : ceilMillis n = (n + 999999) / 1000000 := rfl

/-- A number of nanoseconds is over once its whole milliseconds are. -/
theorem le_ceilMillis (n : Nat) : n ≤ ceilMillis n * perMilli := by
  rw [ceilMillis_eq, perMilli]
  omega

/-- Whole milliseconds before a number of nanoseconds count in full. -/
theorem ceilMillis_add (m n : Nat) : ceilMillis (m * perMilli + n) = m + ceilMillis n := by
  rw [ceilMillis_eq, ceilMillis_eq, perMilli]
  omega

theorem ceilMillis_le {m n : Nat} (h : m ≤ n) : ceilMillis m ≤ ceilMillis n := by
  rw [ceilMillis_eq, ceilMillis_eq]
  omega

theorem ceilMillis_pos {n : Nat} (h : 0 < n) : 0 < ceilMillis n := by
  rw [ceilMillis_eq]
  omega

/-- From a whole millisecond up to a number of nanoseconds, the milliseconds needed are those that are left. -/
theorem add_ceilMillis_sub {now n : Nat} (h : now ≤ ceilMillis n) : now + ceilMillis (n - now * perMilli) = ceilMillis n := by
  rw [ceilMillis_eq] at h ⊢
  rw [ceilMillis_eq, perMilli]
  omega

/-- A number of nanoseconds that the clock can tell is a length of time. -/
theorem nanos_clamp {n : Nat} (h : n ≤ Job.clockLimit) : (clamp n).nanos = n := by
  have h1 : longest.nanos = 0x10000000000000000 * 1000000000 - 1 := rfl
  simp only [Job.clockLimit] at h
  simp only [clamp, h1]
  omega

end Duration

namespace Job

open Duration

/-! ## Sleeps -/

theorem le_wake (now : Nat) (length : Duration) : now ≤ wake now length := Nat.le_add_right _ _

/-- A sleep that is no length of time at all takes a millisecond at least. -/
theorem lt_wake (now : Nat) {length : Duration} (h : 0 < length.nanos) : now < wake now length := by
  have h1 : 0 < ceilMillis length.nanos := ceilMillis_pos h
  have h2 : 0 < longestSleep := by decide
  simp only [wake]
  omega

/-- A sleep is over when its whole milliseconds are, or earlier where it is cut. -/
theorem wake_le (now : Nat) (length : Duration) : wake now length ≤ now + ceilMillis length.nanos :=
  Nat.add_le_add_left (Nat.min_le_left _ _) _

/-- A sleep is over exactly when its whole milliseconds are, unless it takes as long as the longest sleep. -/
theorem wake_eq_or (now : Nat) (length : Duration) :
    wake now length = now + ceilMillis length.nanos ∨ now + longestSleep ≤ wake now length := by
  simp only [wake]
  omega

/-! ## Rounds -/

namespace Wait

variable {σ : Type}

/-- What one round of a wait comes to: the end of the wait at some time, or the time of the next request. -/
inductive Round where
  | ends (outcome : Except Halt Unit) (time : Nat)
  | asks (next : Nat)

/-- The round of a request that is made at a time and gets an answer. -/
def round (w : Wait) (answer : Answer) (delay : Duration) (now : Nat) : Round :=
  match w.arrival now answer.latency with
  | .error (.error halt) => .ends (.error halt) now
  | .error (.ok time) => .ends (.error (.failure (w.timeout time))) time
  | .ok time =>
    match w.verdict answer.result with
    | some outcome => .ends outcome time
    | none =>
      match w.nextRequest time delay with
      | .error time => .ends (.error (.failure (w.timeout time))) time
      | .ok next => .asks next

/-- A wait that is allowed a request makes it, and goes on after the round where that does not end it. -/
theorem run_succ (source : StatusSource σ) (w : Wait) (allowed : Nat) (delay : Duration) (now : Nat) (s : σ) :
    w.run source (allowed + 1) delay now s =
      .after now (.asked w.job)
        (match w.round (source w.job now s).1 delay now with
          | .ends outcome time => .still outcome time (source w.job now s).2
          | .asks next => w.run source allowed (w.backoff.next delay) next (source w.job now s).2) := by
  simp only [run, round]
  congr 1
  cases w.arrival now (source w.job now s).1.latency with
  | error r => cases r <;> rfl
  | ok time =>
    simp only
    cases w.verdict (source w.job now s).1.result with
    | some outcome => rfl
    | none =>
      simp only
      cases w.nextRequest time delay <;> rfl

/-! ### Rounds with a limit -/

variable {w : Wait} {d now : Nat} {answer : Answer} {delay : Duration}

/-- An answer arrives by the limit, or the wait gives up at the limit. -/
theorem arrival_cases (hd : w.deadline = some d) (hnow : now ≤ ceilMillis d) (latency : Option Nat) :
    (∃ l, latency = some l ∧ w.arrival now latency = .ok (now + l) ∧ now + l ≤ ceilMillis d) ∨
      w.arrival now latency = .error (.ok (ceilMillis d)) := by
  have hl : w.limit = some (ceilMillis d) := by rw [limit, hd]; rfl
  have hmax : max now (ceilMillis d) = ceilMillis d := Nat.max_eq_right hnow
  cases latency with
  | none => exact Or.inr (by simp only [arrival, hl, hmax])
  | some l =>
    by_cases h : now + l ≤ ceilMillis d
    · exact Or.inl ⟨l, rfl, by simp only [arrival, hl, hmax, h, if_true], h⟩
    · exact Or.inr (by simp only [arrival, hl, hmax, h, if_false])

/-- The next request is due after the delay and by the limit, or the wait gives up: at the limit, or after the longest
sleep. -/
theorem nextRequest_cases (hd : w.deadline = some d) (hclock : d < clockLimit) (hnow : now ≤ ceilMillis d)
    (delay : Duration) :
    (w.nextRequest now delay = .ok (wake now delay) ∧ wake now delay ≤ ceilMillis d) ∨
      ∃ time, w.nextRequest now delay = .error time ∧ now ≤ time ∧ time ≤ ceilMillis d ∧
        (time = ceilMillis d ∨ now + longestSleep ≤ time) := by
  have hr : (clamp (d - now * perMilli)).nanos = d - now * perMilli := nanos_clamp (by omega)
  have hsum : now + ceilMillis (d - now * perMilli) = ceilMillis d := add_ceilMillis_sub hnow
  by_cases h : (clamp (d - now * perMilli)).nanos = 0 ∨ (clamp (d - now * perMilli)).nanos < delay.nanos
  · refine Or.inr ⟨wake now (clamp (d - now * perMilli)), by simp only [nextRequest, hd, h, if_true], le_wake _ _, ?_, ?_⟩
    · have := wake_le now (clamp (d - now * perMilli))
      rwa [hr, hsum] at this
    · have := wake_eq_or now (clamp (d - now * perMilli))
      rwa [hr, hsum] at this
  · refine Or.inl ⟨by simp only [nextRequest, hd, h, if_false], ?_⟩
    rw [hr] at h
    have h1 : ceilMillis delay.nanos ≤ ceilMillis (d - now * perMilli) := ceilMillis_le (by omega)
    have h2 := wake_le now delay
    omega

/-- What a verdict can be: a failure that is no verdict on the job is that of the request. -/
theorem verdict_timeout {r : Result Status} {job : String} {e : Duration}
    (h : w.verdict r = some (.error (.failure (.timeout job e)))) : r = .error (.timeout job e) := by
  unfold verdict at h
  cases r with
  | error f => cases h; rfl
  | ok status => cases hs : status.state <;> simp [hs, Status.failure] at h

/-- A verdict is a result or a failure. -/
theorem verdict_settled {r : Result Status} {outcome : Except Halt Unit} (h : w.verdict r = some outcome) :
    outcome = .ok () ∨ ∃ e, outcome = .error (.failure e) := by
  unfold verdict at h
  cases r with
  | error f => cases h; exact Or.inr ⟨f, rfl⟩
  | ok status => cases hs : status.state <;> simp [hs] at h <;> simp [← h]

/-- A round that ends a wait with a limit ends it by the limit, with a result or a failure. A failure for the lack of time is
that of the request itself, told as soon as it arrives, or the wait's own: then the limit is reached, or the longest sleep is
over. -/
theorem round_ends (hd : w.deadline = some d) (hclock : d < clockLimit) (hnow : now ≤ ceilMillis d)
    {outcome : Except Halt Unit} {time : Nat} (h : w.round answer delay now = .ends outcome time) :
    now ≤ time ∧ time ≤ ceilMillis d ∧ (outcome = .ok () ∨ ∃ e, outcome = .error (.failure e)) ∧
      ∀ job e, outcome = .error (.failure (.timeout job e)) →
        (∃ l, answer = ⟨some l, .error (.timeout job e)⟩ ∧ time = now + l) ∨
          (.timeout job e = w.timeout time ∧ (time = ceilMillis d ∨ now + longestSleep ≤ time)) := by
  unfold round at h
  rcases arrival_cases hd hnow answer.latency with ⟨l, hl, ha, h2⟩ | ha
  · have h1 : now ≤ now + l := Nat.le_add_right now l
    rw [ha] at h
    simp only at h
    cases hv : w.verdict answer.result with
    | some o =>
      rw [hv] at h
      cases h
      refine ⟨h1, h2, verdict_settled hv, fun job e ho => Or.inl ⟨l, ?_, rfl⟩⟩
      rw [← hl, ← verdict_timeout (ho ▸ hv)]
    | none =>
      rw [hv] at h
      simp only at h
      rcases nextRequest_cases hd hclock h2 delay with ⟨hn, -⟩ | ⟨t, hn, h3, h4, h5⟩
      · rw [hn] at h
        cases h
      · rw [hn] at h
        cases h
        refine ⟨by omega, h4, Or.inr ⟨_, rfl⟩, fun job e ho => Or.inr ⟨?_, by omega⟩⟩
        injection ho with ho
        injection ho with ho
        exact ho.symm
  · rw [ha] at h
    cases h
    refine ⟨hnow, Nat.le_refl _, Or.inr ⟨_, rfl⟩, fun job e ho => Or.inr ⟨?_, Or.inl rfl⟩⟩
    injection ho with ho
    injection ho with ho
    exact ho.symm

/-- A round after which a wait with a limit asks again does so by the limit, and not before the delay is over. -/
theorem round_asks (hd : w.deadline = some d) (hclock : d < clockLimit) (hnow : now ≤ ceilMillis d) {next : Nat}
    (h : w.round answer delay now = .asks next) : next ≤ ceilMillis d ∧ wake now delay ≤ next := by
  unfold round at h
  rcases arrival_cases hd hnow answer.latency with ⟨l, -, ha, h2⟩ | ha
  · rw [ha] at h
    simp only at h
    cases hv : w.verdict answer.result with
    | some o => rw [hv] at h; cases h
    | none =>
      rw [hv] at h
      simp only at h
      rcases nextRequest_cases hd hclock h2 delay with ⟨hn, h3⟩ | ⟨t, hn, -⟩
      · rw [hn] at h
        cases h
        refine ⟨h3, ?_⟩
        simp only [wake]
        omega
      · rw [hn] at h
        cases h
  · rw [ha] at h
    cases h

end Wait

end Job

end ControlPlane
