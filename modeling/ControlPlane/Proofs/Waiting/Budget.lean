import ControlPlane.Job.Script
import ControlPlane.Proofs.Waiting.Round

/-!
# The time that a wait may take

A wait with a time limit asks for no status, and does not end, after the limit rounded up to whole milliseconds. Where it gives
up on its own, its failure names the job and tells a time between the limit and the limit rounded up; only where the longest
sleep was over may it tell less. Where delays take any time at all, the clock goes on between two requests, so that the wait
always ends, after no more requests than there are milliseconds: `await_respects_timeout`.
-/

namespace ControlPlane.Job

open Duration

variable {σ α : Type}

/-! ## Events of a timeline -/

namespace Timeline

@[simp] theorem requests_after_asked (time : Nat) (job : String) (t : Timeline σ α) :
    (t.after time (.asked job)).requests = (time, job) :: t.requests := rfl

@[simp] theorem requests_still (outcome : Except Halt α) (time : Nat) (s : σ) :
    (still outcome time s).requests = [] := rfl

/-- Whether a timeline came to a result or a failure. -/
def IsSettled (t : Timeline σ α) : Prop := (∃ a, t.outcome = .ok a) ∨ ∃ e, t.outcome = .error (.failure e)

end Timeline

/-- The answers of a source in some state to requests for statuses, each made at its time. -/
def StatusSource.answers (source : StatusSource σ) : List (Nat × String) → σ → List Answer
  | [], _ => []
  | (time, job) :: requests, s => (source job time s).1 :: answers source requests (source job time s).2

/-- Whether the answer of a source to the last request for a status, where it began in some state, was a failure, with which
the timeline ended as soon as it arrived. -/
def Timeline.LastRequestFailed (t : Timeline σ α) (source : StatusSource σ) (s : σ) (e : Failure) : Prop :=
  ∃ time job latency, t.requests.getLast? = some (time, job) ∧
    (source.answers t.requests s).getLast? = some ⟨some latency, .error e⟩ ∧
    t.outcome = .error (.failure e) ∧ t.time = time + latency

/-- A request before others is not the last one. -/
theorem Timeline.LastRequestFailed.after {t : Timeline σ α} {source : StatusSource σ} {time : Nat} {job : String} {s : σ}
    {e : Failure} (h : t.LastRequestFailed source (source job time s).2 e) :
    (t.after time (.asked job)).LastRequestFailed source s e := by
  obtain ⟨time', job', latency, hlast, hanswer, houtcome, htime⟩ := h
  refine ⟨time', job', latency, ?_, ?_, houtcome, htime⟩
  · rw [requests_after_asked, List.getLast?_cons, hlast, Option.getD_some]
  · rw [requests_after_asked, StatusSource.answers, List.getLast?_cons, hanswer, Option.getD_some]

/-! ## Delays -/

/-- Whether delays do not develop to nothing. -/
def Backoff.IsPositive : Backoff → Prop
  | fixed => True
  | exponential max => 0 < max.nanos

/-- A delay that takes any time is followed by one that does. -/
theorem Backoff.next_pos {b : Backoff} (hb : b.IsPositive) {delay : Duration} (h : 0 < delay.nanos) :
    0 < (b.next delay).nanos := by
  cases b with
  | fixed => exact h
  | exponential max =>
    have hl : longest.nanos = 0x10000000000000000 * 1000000000 - 1 := rfl
    have hd : 0 < delay.double.nanos := by
      simp only [double, clamp, hl]
      omega
    simp only [next, shorter]
    split
    · exact hd
    · exact hb

/-! ## Waits with a limit -/

namespace Wait

variable {w : Wait} {d : Nat}

/-- What a wait from a time on does where its time is over at a number of nanoseconds. -/
structure Keeps (source : StatusSource σ) (w : Wait) (d now : Nat) (s : σ) (line : Timeline σ Unit) : Prop where
  asked : ∀ r ∈ line.requests, r.2 = w.job ∧ now ≤ r.1 ∧ r.1 ≤ ceilMillis d
  started : now ≤ line.time
  ended : line.time ≤ ceilMillis d
  timedOut : ∀ job e, line.outcome = .error (.failure (.timeout job e)) →
    line.LastRequestFailed source s (.timeout job e) ∨
      (.timeout job e = w.timeout line.time ∧ (line.time = ceilMillis d ∨ now + longestSleep ≤ line.time))

/-- A wait keeps its limit, whatever it is answered. -/
theorem run_keeps (source : StatusSource σ) (hd : w.deadline = some d) (hclock : d < clockLimit) (allowed : Nat) :
    ∀ (delay : Duration) (now : Nat) (s : σ), now ≤ ceilMillis d →
      Keeps source w d now s (w.run source allowed delay now s) := by
  induction allowed with
  | zero =>
    intro delay now s hnow
    exact ⟨by simp [run], Nat.le_refl _, hnow, fun job e h => by cases h⟩
  | succ allowed ih =>
    intro delay now s hnow
    rw [run_succ]
    cases hr : w.round (source w.job now s).1 delay now with
    | ends outcome time =>
      obtain ⟨h1, h2, -, h3⟩ := round_ends hd hclock hnow hr
      refine ⟨?_, h1, h2, fun job e ho => ?_⟩
      · intro r hm
        simp only [Timeline.requests_after_asked, Timeline.requests_still, List.mem_singleton] at hm
        subst hm
        exact ⟨rfl, Nat.le_refl _, hnow⟩
      · rcases h3 job e ho with ⟨latency, hanswer, htime⟩ | ⟨h, h'⟩
        · exact Or.inl ⟨now, w.job, latency, rfl, congrArg some hanswer, ho, htime⟩
        · exact Or.inr ⟨h, h'⟩
    | asks next =>
      obtain ⟨h1, h2⟩ := round_asks hd hclock hnow hr
      have hle : now ≤ next := Nat.le_trans (le_wake _ _) h2
      obtain ⟨ha, hs, he, ht⟩ := ih (w.backoff.next delay) next (source w.job now s).2 h1
      refine ⟨?_, Nat.le_trans hle hs, he, fun job e ho => ?_⟩
      · intro r hm
        rw [Timeline.requests_after_asked, List.mem_cons] at hm
        rcases hm with rfl | hm
        · exact ⟨rfl, Nat.le_refl _, hnow⟩
        · obtain ⟨h3, h4, h5⟩ := ha r hm
          exact ⟨h3, Nat.le_trans hle h4, h5⟩
      · rcases ht job e ho with h3 | ⟨h3, h4⟩
        · exact Or.inl h3.after
        · exact Or.inr ⟨h3, by simp only [Timeline.after]; omega⟩

/-- Where every delay takes time, a wait makes no more requests than there are milliseconds left, and one; allowed that many,
it comes to its end. -/
theorem run_ends (source : StatusSource σ) (hd : w.deadline = some d) (hclock : d < clockLimit)
    (hb : w.backoff.IsPositive) (allowed : Nat) :
    ∀ (delay : Duration) (now : Nat) (s : σ), now ≤ ceilMillis d → 0 < delay.nanos →
      (w.run source allowed delay now s).requests.length ≤ ceilMillis d - now + 1 ∧
        (ceilMillis d - now + 1 ≤ allowed → (w.run source allowed delay now s).IsSettled) := by
  induction allowed with
  | zero =>
    intro delay now s hnow hdelay
    exact ⟨Nat.zero_le _, fun h => absurd h (Nat.not_succ_le_zero _)⟩
  | succ allowed ih =>
    intro delay now s hnow hdelay
    rw [run_succ]
    cases hr : w.round (source w.job now s).1 delay now with
    | ends outcome time =>
      obtain ⟨-, -, hs, -⟩ := round_ends hd hclock hnow hr
      refine ⟨Nat.le_add_left _ _, fun _ => ?_⟩
      rcases hs with h | ⟨e, h⟩
      · exact Or.inl ⟨(), h⟩
      · exact Or.inr ⟨e, h⟩
    | asks next =>
      obtain ⟨h1, h2⟩ := round_asks hd hclock hnow hr
      have hlt : now < next := Nat.lt_of_lt_of_le (lt_wake now hdelay) h2
      obtain ⟨hn, hs⟩ := ih (w.backoff.next delay) next (source w.job now s).2 h1 (Backoff.next_pos hb hdelay)
      refine ⟨?_, fun hallowed => hs (by omega)⟩
      simp only [Timeline.requests_after_asked, List.length_cons]
      omega

end Wait

/-! ## Waits for a job -/

/-- The wait for a job whose time limit, if it has one, the clock can tell. -/
theorem await_eq_run_of_lt (source : StatusSource σ) (handle : Handle) (settings : PollSettings) (allowed : Nat) {now : Nat} (s : σ)
    (hclock : ∀ t ∈ settings.timeout, now * perMilli + t.nanos < clockLimit) :
    await source handle settings allowed now s =
      Wait.run source ⟨handle.id, now, settings.timeout.map fun t => now * perMilli + t.nanos, settings.backoff⟩ allowed
        (settings.firstDelay handle) now s := by
  have h : ¬((settings.timeout.map fun t => now * perMilli + t.nanos).any (clockLimit ≤ ·) = true) := by
    cases ht : settings.timeout with
    | none => exact Bool.false_ne_true
    | some t =>
      rw [Option.map_some, Option.any_some, decide_eq_true_eq]
      exact Nat.not_le.mpr (hclock t ht)
  unfold await
  exact if_neg h

/-- A time limit that the clock cannot tell stops a wait before its first request. -/
theorem await_of_overflow (source : StatusSource σ) (handle : Handle) {settings : PollSettings} (allowed : Nat) {now : Nat} (s : σ)
    (h : ¬∀ t ∈ settings.timeout, now * perMilli + t.nanos < clockLimit) :
    await source handle settings allowed now s = .still (.error .clockOverflow) now s := by
  have hany : (settings.timeout.map fun t => now * perMilli + t.nanos).any (clockLimit ≤ ·) = true := by
    cases ht : settings.timeout with
    | none =>
      rw [ht] at h
      exact absurd nofun h
    | some t =>
      rw [Option.map_some, Option.any_some, decide_eq_true_eq]
      refine Nat.not_lt.mp fun hlt => h ?_
      intro u hu
      cases ht.symm.trans hu
      exact hlt
  unfold await
  exact if_pos hany

/-- The wait for a job with a time limit that the clock can tell. -/
theorem await_eq_run (source : StatusSource σ) (handle : Handle) {settings : PollSettings} {t : Duration}
    (ht : settings.timeout = some t) (allowed : Nat) {now : Nat} (s : σ)
    (hclock : now * perMilli + t.nanos < clockLimit) :
    await source handle settings allowed now s =
      Wait.run source ⟨handle.id, now, some (now * perMilli + t.nanos), settings.backoff⟩ allowed
        (settings.firstDelay handle) now s := by
  have hlt : ∀ u ∈ settings.timeout, now * perMilli + u.nanos < clockLimit := by
    intro u hu
    cases ht.symm.trans hu
    exact hclock
  rw [await_eq_run_of_lt source handle settings allowed s hlt, ht, Option.map_some]

/-- The failure of a wait that gives up names the job, and tells the time since the start where the clock can tell it. -/
theorem Wait.of_eq_timeout {w : Wait} {job : String} {e : Duration} {time : Nat} (h : .timeout job e = w.timeout time)
    (hclock : (time - w.start) * perMilli ≤ clockLimit) : job = w.job ∧ e.nanos = (time - w.start) * perMilli := by
  injection h with h1 h2
  rw [h2]
  exact ⟨h1, nanos_clamp hclock⟩

/-- A number of nanoseconds that the clock can tell stays so when it is rounded up. -/
theorem ceilMillis_mul_le {n : Nat} (h : n < clockLimit) : ceilMillis n * perMilli ≤ clockLimit := by
  have h1 : clockLimit = 9223372036854775808000 * 1000000 := rfl
  rw [h1] at h ⊢
  rw [ceilMillis_eq, perMilli]
  omega

/-- A wait with a time limit that the clock can tell keeps it. Every status is asked for, and the wait ends, by the limit
rounded up. Where the wait ends for the lack of time, and not because the answer to its last request was just that failure, its
failure names the job and tells the time that has passed: no less than the limit, unless the longest sleep is over, and no more
than the limit rounded up. Where the first delay and the greatest one take time, the wait makes at most one request more than
the limit has milliseconds, and comes to a result or a failure as soon as it is allowed that many. -/
theorem await_respects_timeout (source : StatusSource σ) (handle : Handle) (settings : PollSettings) (t : Duration)
    (ht : settings.timeout = some t) (now : Nat) (hclock : now * perMilli + t.nanos < clockLimit) (allowed : Nat) (s : σ) :
    (∀ r ∈ (await source handle settings allowed now s).requests,
        r.2 = handle.id ∧ now ≤ r.1 ∧ r.1 ≤ now + ceilMillis t.nanos) ∧
      (await source handle settings allowed now s).time ≤ now + ceilMillis t.nanos ∧
      (∀ job e, (await source handle settings allowed now s).outcome = .error (.failure (.timeout job e)) →
        (await source handle settings allowed now s).LastRequestFailed source s (.timeout job e) ∨
          (job = handle.id ∧ (t.nanos ≤ e.nanos ∨ longestSleep * perMilli ≤ e.nanos) ∧
            e.nanos ≤ ceilMillis t.nanos * perMilli)) ∧
      (0 < (settings.firstDelay handle).nanos → settings.backoff.IsPositive →
        (await source handle settings allowed now s).requests.length ≤ ceilMillis t.nanos + 1 ∧
          (ceilMillis t.nanos + 1 ≤ allowed → (await source handle settings allowed now s).IsSettled)) := by
  rw [await_eq_run source handle ht allowed s hclock]
  have hceil : ceilMillis (now * perMilli + t.nanos) = now + ceilMillis t.nanos := ceilMillis_add now t.nanos
  have hnow : now ≤ ceilMillis (now * perMilli + t.nanos) := by omega
  have hround : ceilMillis t.nanos * perMilli ≤ clockLimit := ceilMillis_mul_le (by omega)
  generalize hd : now * perMilli + t.nanos = d at hclock hceil hnow
  generalize hw : (⟨handle.id, now, some d, settings.backoff⟩ : Wait) = w
  have hdeadline : w.deadline = some d := by rw [← hw]
  have hjob : w.job = handle.id := by rw [← hw]
  have hstart : w.start = now := by rw [← hw]
  obtain ⟨ha, hs, he, hg⟩ := Wait.run_keeps source hdeadline hclock allowed (settings.firstDelay handle) now s hnow
  rw [hceil] at ha he hg
  refine ⟨fun r hr => ?_, he, fun job e ho => ?_, fun hpos hb => ?_⟩
  · rw [← hjob]
    exact ha r hr
  · rcases hg job e ho with h | ⟨h1, h2⟩
    · exact Or.inl h
    · have hlen : (w.run source allowed (settings.firstDelay handle) now s).time - w.start ≤ ceilMillis t.nanos := by omega
      have hle := Nat.mul_le_mul_right perMilli hlen
      obtain ⟨hj, hn⟩ := Wait.of_eq_timeout h1 (Nat.le_trans hle hround)
      rw [hn]
      refine Or.inr ⟨hj.trans hjob, ?_, hle⟩
      rcases h2 with h2 | h2
      · left
        rw [h2, hstart, Nat.add_sub_cancel_left]
        exact le_ceilMillis t.nanos
      · right
        exact Nat.mul_le_mul_right _ (by omega)
  · obtain ⟨hn, hsettled⟩ := Wait.run_ends source hdeadline hclock (by rw [← hw]; exact hb) allowed
      (settings.firstDelay handle) now s hnow hpos
    rw [hceil, Nat.add_sub_cancel_left] at hn hsettled
    exact ⟨hn, hsettled⟩

/-- A wait of 25.5 ms from millisecond 7 on, whose second request is never answered: it comes to a result or a failure, and by
millisecond 33. -/
theorem await_respects_timeout_hung :
    let settings : PollSettings := { interval := some (.clamp 10000000), timeout := some (.clamp 25500000) }
    let source := Script.source { answers := [⟨some 3, .ok ⟨.running, none⟩⟩, ⟨none, .ok ⟨.finished, none⟩⟩] }
    settings.timeout = some (.clamp 25500000) ∧ 7 * perMilli + (clamp 25500000).nanos < clockLimit ∧
      (∀ r ∈ (await source ⟨"job-1", none⟩ settings 27 7 0).requests, r.2 = "job-1" ∧ 7 ≤ r.1 ∧ r.1 ≤ 33) ∧
      (await source ⟨"job-1", none⟩ settings 27 7 0).time ≤ 33 ∧ (await source ⟨"job-1", none⟩ settings 27 7 0).IsSettled := by
  intro settings source
  have hclock : 7 * perMilli + (clamp 25500000).nanos < clockLimit := by decide
  obtain ⟨h1, h2, -, h3⟩ := await_respects_timeout source ⟨"job-1", none⟩ settings (.clamp 25500000) rfl 7 hclock 27 0
  exact ⟨rfl, hclock, h1, h2, (h3 (by decide) trivial).2 (by decide)⟩

/-- Whether a wait that ends for the lack of time names the job, and tells no less than its limit and no more than the limit
rounded up. -/
def TimesOutExactly (line : Timeline σ Unit) (handle : Handle) (t : Duration) : Prop :=
  ∀ job e, line.outcome = .error (.failure (.timeout job e)) →
    job = handle.id ∧ t.nanos ≤ e.nanos ∧ e.nanos ≤ ceilMillis t.nanos * perMilli

/-- Not every wait that ends for the lack of time does so: a request that itself fails for the lack of time ends the wait with
its own failure, and a last sleep of more than thirty years is cut, here the one of a wait of a thousand million seconds. -/
theorem not_timesOutExactly :
    ¬TimesOutExactly
        (await (Script.source { answers := [⟨some 0, .error (.timeout "other" (.clamp 1000000000))⟩] }) ⟨"job-1", none⟩
          { timeout := some (.clamp 5000000000) } 300 0 0)
        ⟨"job-1", none⟩ (.clamp 5000000000) ∧
      ¬TimesOutExactly
        (await (Script.source { answers := [⟨some 0, .ok ⟨.running, none⟩⟩] }) ⟨"job-1", none⟩
          { interval := some (.clamp 2000000000000000000), timeout := some (.clamp 1000000000000000000) } 300 0 0)
        ⟨"job-1", none⟩ (.clamp 1000000000000000000) := by
  constructor
  · intro h
    exact absurd (h "other" (.clamp 1000000000) rfl).1 (by decide)
  · intro h
    exact absurd (h "job-1" (.clamp 946080000000000000) rfl).2.1 (by decide)

end ControlPlane.Job
