import ControlPlane.Proofs.Waiting.Lockstep
import ControlPlane.Proofs.Waiting.Schedule

/-!
# Waits with one interval

Where every answer is there at once and says that the job is not done, a wait with one interval asks at the multiples of it. How many
requests follow the first one is counted by `Intervals.within`: each of them is due by the limit. No sleep is longer than the longest one,
so that the requests of a wait with a longer interval come at the multiples of that. The main statement is `await_at_multiples`.
-/

namespace ControlPlane.Job

open Duration

/-! ## Counting intervals -/

namespace Intervals

/-- How many intervals that begin a step after each other end within a limit. -/
def within (interval step limit : Nat) : Nat := if limit < interval then 0 else (limit - interval) / step + 1

/-- The intervals that end within a limit are the first ones, up to their number. -/
theorem lt_within_iff {step : Nat} (hstep : 0 < step) (interval limit i : Nat) :
    i < within interval step limit ↔ i * step + interval ≤ limit := by
  unfold within
  split
  · omega
  · rw [Nat.lt_succ_iff, Nat.le_div_iff_mul_le hstep]
    omega

/-- Intervals that follow each other without a gap fit into a limit as often as it can be divided by them. -/
theorem within_self {interval : Nat} (h : 0 < interval) (limit : Nat) : within interval interval limit = limit / interval := by
  unfold within
  split
  · exact (Nat.div_eq_of_lt ‹_›).symm
  · exact (Nat.div_eq_sub_div h (Nat.not_lt.mp ‹_›)).symm

end Intervals

/-! ## Waits that are told at once that the job is not done -/

/-- The answer that is there at once and says that the job is not done. -/
def Answer.running : Answer := ⟨some 0, .ok ⟨.running, none⟩⟩

theorem Answer.running_isOpen : Answer.running.IsOpen := ⟨_, rfl, rfl⟩

/-- A wait that is told at once, whenever it asks, that the job is not done goes as if it were told that it is running. -/
theorem await_matches_running {σ : Type} {source : StatusSource σ} {handle : Handle}
    (h : ∀ time s, (source handle.id time s).1.latency = some 0 ∧ (source handle.id time s).1.IsOpen) (settings : PollSettings)
    (allowed now : Nat) (s : σ) :
    (await (answering fun _ => .running) handle settings allowed now 0).Matches (fun _ _ => True)
      (await source handle settings allowed now s) := by
  refine await_lockstep (fun w hw => ⟨?_, ?_, fun _ _ _ _ => trivial⟩) settings allowed now trivial
  · intro time _ s _
    rw [hw]
    exact (h time s).1
  · intro time _ s _
    rw [hw, Wait.verdict_of_isOpen (h time s).2]
    exact (Wait.verdict_of_isOpen Answer.running_isOpen).symm

/-- The requests of a wait that ends after a round are those of the rounds up to it. -/
theorem Wait.run_until_end {w : Wait} {answers : Nat → Answer} {delay : Nat → Duration}
    (hdelay : ∀ j, delay (j + 1) = w.backoff.next (delay j)) {asked : Nat → Nat} {i : Nat}
    (h : ∀ j < i, w.round (answers j) (delay j) (asked j) = .asks (asked (j + 1))) {outcome : Except Halt Unit} {time : Nat}
    (hends : w.round (answers i) (delay i) (asked i) = .ends outcome time) {allowed : Nat} (hi : i < allowed) :
    let line := w.run (answering answers) allowed (delay 0) (asked 0) 0
    line.requests = ((List.range (i + 1)).map fun j => (asked j, w.job)) ∧ line.outcome = outcome ∧ line.time = time := by
  intro line
  obtain ⟨more, rfl⟩ := Nat.exists_eq_add_of_lt hi
  obtain ⟨hrequests, houtcome, htime⟩ := run_asks hdelay i h (more + 1)
  rw [run_succ] at hrequests houtcome htime
  simp only [answering, hends] at hrequests houtcome htime
  refine ⟨?_, houtcome, htime⟩
  rw [List.range_succ, List.map_append]
  exact hrequests

section Multiples

variable {handle : Handle} {settings : PollSettings} {interval : Nat} {t : Duration} {now allowed : Nat}

/-- The milliseconds from one request to the next, where they are told to be an interval apart. -/
def gap (interval : Nat) : Nat := min interval longestSleep

theorem gap_pos (h : 0 < interval) : 0 < gap interval := by
  have hlongest : 0 < longestSleep := by decide
  unfold gap
  omega

/-- How many requests follow the first one, where they are told to be an interval apart and are to be due within a limit. -/
def followers (interval : Nat) (t : Duration) : Nat :=
  Intervals.within (interval * perMilli) (gap interval * perMilli) t.nanos

theorem ceilMillis_mul (n : Nat) : ceilMillis (n * perMilli) = n := by
  have h := ceilMillis_add n 0
  rwa [Nat.add_zero] at h

variable (hfixed : settings.backoff = .fixed) (hinterval : (settings.firstDelay handle).nanos = interval * perMilli)

include hfixed in
/-- Where delays stay, each is the first one. -/
theorem PollSettings.delay_fixed (i : Nat) : settings.delay handle i = settings.firstDelay handle := by
  rw [delay, hfixed, show Backoff.fixed.next = id from rfl, Function.iterate_id, id]

include hfixed hinterval in
/-- Where answers are there at once and delays stay, requests are made at the multiples of the gap. -/
theorem askedAfter_fixed (i : Nat) : askedAfter (fun _ => 0) (settings.delay handle) i = i * gap interval := by
  induction i with
  | zero => rw [askedAfter, Nat.zero_mul]
  | succ i ih =>
    rw [askedAfter, ih, PollSettings.delay_fixed hfixed, sleepMillis, hinterval, ceilMillis_mul, Nat.succ_mul]
    rfl

variable (ht : settings.timeout = some t) (hpos : 0 < interval)

include hfixed hinterval ht hpos in
/-- A wait goes on after an answer as long as the next request is due within the limit. -/
theorem PollSettings.goesOn_running (i : Nat) :
    settings.GoesOn handle (fun _ => .running) (fun _ => 0) i ↔ i < followers interval t := by
  have hstep : 0 < gap interval * perMilli := Nat.mul_pos (gap_pos hpos) (by decide)
  have hdelay : 0 < interval * perMilli := Nat.mul_pos hpos (by decide)
  rw [GoesOn, and_iff_right Answer.running_isOpen, Nat.add_zero, askedAfter_fixed hfixed hinterval, delay_fixed hfixed, HasRoom, ht,
    hinterval, followers, Intervals.lt_within_iff hstep, ← Nat.mul_assoc]
  constructor
  · intro h
    exact (h t rfl).2
  · rintro h u ⟨⟩
    exact ⟨by omega, h⟩

include hfixed hinterval ht hpos in
/-- A wait that is told again and again that the job is running asks at the multiples of the gap as long as a request is due within the
limit, and gives up at the limit, or after the longest sleep. -/
theorem await_running (hclock : now * perMilli + t.nanos < clockLimit) (hallowed : followers interval t < allowed) :
    let line := await (answering fun _ => .running) handle settings allowed now 0
    let last := followers interval t
    line.requests = ((List.range (last + 1)).map fun i => (now + i * gap interval, handle.id)) ∧
      line.time = now + min (ceilMillis t.nanos) (last * gap interval + longestSleep) ∧
      line.outcome = .error (.failure (.timeout handle.id (.clamp ((line.time - now) * perMilli)))) := by
  intro line last
  have hall : ∀ i, ((fun _ => .running : Nat → Answer) i).latency = some ((fun _ => 0 : Nat → Nat) i) := fun _ => rfl
  have hlimit : ∀ u ∈ settings.timeout, now * perMilli + u.nanos < clockLimit := by
    intro u hu
    cases ht.symm.trans hu
    exact hclock
  have hgoesOn : ∀ i, settings.GoesOn handle (fun _ => .running) (fun _ => 0) i ↔ i < last :=
    PollSettings.goesOn_running hfixed hinterval ht hpos
  have hbefore : ∀ i < last, settings.GoesOn handle (fun _ => .running) (fun _ => 0) i := fun i => (hgoesOn i).mpr
  have hfull : ¬settings.HasRoom (askedAfter (fun _ => 0) (settings.delay handle) last + 0) (settings.delay handle last) := by
    intro h
    exact Nat.lt_irrefl last ((hgoesOn last).mp ⟨Answer.running_isOpen, h⟩)
  have hends := PollSettings.round_of_not_hasRoom hall hlimit hbefore ht hfull (Or.inl Answer.running_isOpen)
  have hline : line = (settings.wait handle now).run (answering fun _ => .running) allowed (settings.delay handle 0)
      (now + askedAfter (fun _ => 0) (settings.delay handle) 0) 0 :=
    await_eq_run_of_lt _ handle settings allowed 0 hlimit
  let asked : Nat → Nat := fun i => now + askedAfter (fun _ => 0) (settings.delay handle) i
  have hrounds : ∀ i < last, (settings.wait handle now).round .running (settings.delay handle i) (asked i) = .asks (asked (i + 1)) :=
    fun i hi => (hbefore i hi).round_eq hall hlimit
  obtain ⟨hrequests, houtcome, htime⟩ := Wait.run_until_end (settings.delay_succ handle) hrounds hends hallowed
  rw [← hline] at hrequests houtcome htime
  rw [← htime] at houtcome
  simp only [asked, askedAfter_fixed hfixed hinterval, Nat.add_zero] at hrequests htime
  exact ⟨hrequests, htime, houtcome⟩

end Multiples

/-- Within a whole number of intervals that are no longer than the longest sleep, the last of them ends at the limit rounded up or
later. -/
theorem ceilMillis_le_gap {interval : Nat} (hpos : 0 < interval) (hshort : interval ≤ longestSleep) (n : Nat) :
    ceilMillis n ≤ n / (interval * perMilli) * interval + longestSleep := by
  have hmillis : 0 < interval * perMilli := Nat.mul_pos hpos (by decide)
  calc ceilMillis n ≤ ceilMillis ((n / (interval * perMilli) + 1) * interval * perMilli) := by
        rw [Nat.mul_assoc, Nat.succ_mul]
        exact ceilMillis_le (Nat.le_of_lt (Nat.lt_div_mul_add hmillis))
    _ = (n / (interval * perMilli) + 1) * interval := ceilMillis_mul _
    _ ≤ n / (interval * perMilli) * interval + longestSleep := by
        rw [Nat.succ_mul]
        exact Nat.add_le_add_left hshort _

/-- The requests of a wait with one interval, a whole number of milliseconds, that is told at once, whenever it asks, that the job is not
done. They are made at the multiples of the interval up to the limit, as many as the limit is long in intervals, and one; and the wait
gives up at the limit rounded up, and tells that time. An interval that is longer than the longest sleep is cut: then the requests are
made at the multiples of the longest sleep, as long as an interval ends within the limit, and the wait gives up at the limit rounded up,
or one more longest sleep after its last request where that is earlier. -/
theorem await_at_multiples {σ : Type} (source : StatusSource σ) (handle : Handle)
    (htold : ∀ time s, (source handle.id time s).1.latency = some 0 ∧ (source handle.id time s).1.IsOpen) (settings : PollSettings)
    (hfixed : settings.backoff = .fixed) (interval : Nat) (hpos : 0 < interval)
    (hinterval : (settings.firstDelay handle).nanos = interval * perMilli) (t : Duration) (ht : settings.timeout = some t)
    (now : Nat) (hclock : now * perMilli + t.nanos < clockLimit) (allowed : Nat) (s : σ) :
    let line := await source handle settings allowed now s
    (interval ≤ longestSleep → t.nanos / (interval * perMilli) < allowed →
      line.requests = ((List.range (t.nanos / (interval * perMilli) + 1)).map fun i => (now + i * interval, handle.id)) ∧
        line.time = now + ceilMillis t.nanos ∧
        ∃ elapsed, line.outcome = .error (.failure (.timeout handle.id elapsed)) ∧ elapsed.nanos = ceilMillis t.nanos * perMilli) ∧
      (longestSleep < interval →
        let last := Intervals.within (interval * perMilli) (longestSleep * perMilli) t.nanos
        last < allowed →
        line.requests = ((List.range (last + 1)).map fun i => (now + i * longestSleep, handle.id)) ∧
          line.time = now + min (ceilMillis t.nanos) ((last + 1) * longestSleep) ∧
          ∃ elapsed, line.outcome = .error (.failure (.timeout handle.id elapsed)) ∧
            elapsed.nanos = (line.time - now) * perMilli) := by
  intro line
  have hsame : (await (answering fun _ => .running) handle settings allowed now 0).Matches (fun _ _ => True) line :=
    await_matches_running htold settings allowed now s
  have hrequests : line.requests = (await (answering fun _ => .running) handle settings allowed now 0).requests := by
    rw [Timeline.requests, hsame.events, Timeline.requests]
  have htimes := @await_running handle settings interval t now allowed hfixed hinterval ht hpos hclock
  simp only [← hrequests, ← hsame.outcome, ← hsame.time] at htimes
  have hround : ceilMillis t.nanos * perMilli ≤ clockLimit := ceilMillis_mul_le (by omega)
  constructor
  · intro hshort
    have hgap : gap interval = interval := Nat.min_eq_left hshort
    have hlast : followers interval t = t.nanos / (interval * perMilli) := by
      rw [followers, hgap, Intervals.within_self (Nat.mul_pos hpos (by decide))]
    rw [hlast, hgap, Nat.min_eq_left (ceilMillis_le_gap hpos hshort t.nanos)] at htimes
    intro hallowed
    obtain ⟨hmade, hend, houtcome⟩ := htimes hallowed
    rw [hend, Nat.add_sub_cancel_left] at houtcome
    exact ⟨hmade, hend, _, houtcome, nanos_clamp hround⟩
  · intro hlong last
    have hgap : gap interval = longestSleep := Nat.min_eq_right (Nat.le_of_lt hlong)
    have hlast : followers interval t = last := by rw [followers, hgap]
    rw [hlast, hgap, ← Nat.add_one_mul] at htimes
    intro hallowed
    obtain ⟨hmade, hend, houtcome⟩ := htimes hallowed
    refine ⟨hmade, hend, _, houtcome, nanos_clamp (Nat.le_trans (Nat.mul_le_mul_right _ ?_) hround)⟩
    rw [hend, Nat.add_sub_cancel_left]
    exact Nat.min_le_left _ _

/-- A wait of 25.5 ms from millisecond 7 on, with an interval of 10 ms: the limit is no whole number of milliseconds, and no multiple of
the interval. -/
theorem await_at_multiples_three :
    let settings : PollSettings := { interval := some (.clamp 10000000), timeout := some (.clamp 25500000) }
    let source : StatusSource Unit := fun _ _ _ => (⟨some 0, .ok ⟨.queued, none⟩⟩, ())
    let line := await source ⟨"job-1", none⟩ settings 300 7 ()
    ((∀ time s, (source "job-1" time s).1.latency = some 0 ∧ (source "job-1" time s).1.IsOpen) ∧ settings.backoff = .fixed ∧
        (settings.firstDelay ⟨"job-1", none⟩).nanos = 10 * perMilli ∧ settings.timeout = some (.clamp 25500000) ∧
        7 * perMilli + (clamp 25500000).nanos < clockLimit) ∧
      line.requests = [(7, "job-1"), (17, "job-1"), (27, "job-1")] ∧ line.time = 33 ∧
      ∃ elapsed, line.outcome = .error (.failure (.timeout "job-1" elapsed)) ∧ elapsed.nanos = 26000000 := by
  intro settings source line
  have htold : ∀ time s, (source "job-1" time s).1.latency = some 0 ∧ (source "job-1" time s).1.IsOpen :=
    fun _ _ => ⟨rfl, _, rfl, rfl⟩
  have hclock : 7 * perMilli + (clamp 25500000).nanos < clockLimit := by decide
  have hlast : (clamp 25500000).nanos / (10 * perMilli) = 2 := by decide
  have hlimit : ceilMillis (clamp 25500000).nanos = 26 := by decide
  obtain ⟨hmade, hend, elapsed, houtcome, helapsed⟩ := (await_at_multiples source ⟨"job-1", none⟩ htold settings rfl 10 (by decide) rfl
    (.clamp 25500000) rfl 7 hclock 300 ()).1 (by decide) (by decide)
  rw [hlast] at hmade
  rw [hlimit] at hend helapsed
  exact ⟨⟨htold, rfl, rfl, rfl, hclock⟩, hmade, hend, elapsed, houtcome, helapsed.trans rfl⟩

/-- Whether a wait asks at the multiples of an interval up to its limit, and gives up at the limit rounded up. -/
def AsksAtMultiples {σ : Type} (line : Timeline σ Unit) (handle : Handle) (interval : Nat) (t : Duration) : Prop :=
  line.requests = ((List.range (t.nanos / (interval * perMilli) + 1)).map fun i => (i * interval, handle.id)) ∧
    line.time = ceilMillis t.nanos

/-- Sleeps of more than thirty years are cut: with an interval that is a millisecond longer than that, the second request comes too early,
and a wait of a thousand million seconds with an interval of twice as much gives up too early. -/
theorem not_asksAtMultiples :
    ¬AsksAtMultiples
        (await (answering fun _ => .running) ⟨"job-1", none⟩
          { interval := some (.clamp 946080000001000000), timeout := some (.clamp 2000000000000000000) } 300 0 0)
        ⟨"job-1", none⟩ 946080000001 (.clamp 2000000000000000000) ∧
      ¬AsksAtMultiples
        (await (answering fun _ => .running) ⟨"job-1", none⟩
          { interval := some (.clamp 2000000000000000000), timeout := some (.clamp 1000000000000000000) } 300 0 0)
        ⟨"job-1", none⟩ 2000000000000 (.clamp 1000000000000000000) := by
  constructor
  · intro h
    exact absurd (congrArg (fun requests => requests[1]?) h.1) (by decide)
  · intro h
    exact absurd h.2 (by decide)

end ControlPlane.Job
