import Mathlib.Logic.Function.Iterate
import ControlPlane.Proofs.Waiting.Verdicts

/-!
# When the requests of a wait are made

A wait asks again when an answer is there that does not end it, and the delay after it is over. `askedAfter` adds these times up, from
one request to the next. `run_asks` follows a wait over the rounds after which it asks again, and `round_of_hasRoom` and
`round_of_not_hasRoom` say what its round comes to at such a time. The main statement is `await_schedule`: which requests a wait makes,
when each is made, and when a wait gives up whose next request would come too late.
-/

namespace ControlPlane.Job

open Duration

/-! ## Times -/

/-- The milliseconds that a sleep takes. -/
def sleepMillis (length : Duration) : Nat := min (ceilMillis length.nanos) longestSleep

/-- When the request with a number is made, counted from the first one, where each answer takes its time and is followed by its delay. -/
def askedAfter (latency : Nat → Nat) (delay : Nat → Duration) : Nat → Nat
  | 0 => 0
  | i + 1 => askedAfter latency delay i + latency i + sleepMillis (delay i)

/-- Whether a wait has time left after some milliseconds, and the delay after them is over within its limit. -/
def PollSettings.HasRoom (settings : PollSettings) (passed : Nat) (delay : Duration) : Prop :=
  ∀ t ∈ settings.timeout, passed * perMilli < t.nanos ∧ passed * perMilli + delay.nanos ≤ t.nanos

/-! ## Rounds at a time -/

namespace Wait

variable {w : Wait} {a : Answer} {answers : Nat → Answer} {delay : Duration} {now latency : Nat}

/-- Whether a wait has time left at a time, and the delay after it is over within its limit. -/
def HasRoom (w : Wait) (time : Nat) (delay : Duration) : Prop :=
  ∀ d ∈ w.deadline, time * perMilli < d ∧ time * perMilli + delay.nanos ≤ d

/-- A time before a number of nanoseconds is within it rounded up. -/
theorem le_ceilMillis_of_lt {time d : Nat} (h : time * perMilli < d) : time ≤ ceilMillis d := by
  rw [ceilMillis_eq]
  rw [perMilli] at h
  omega

/-- An answer that is there by the limit arrives. -/
theorem arrival_of_le (h : ∀ d ∈ w.deadline, now + latency ≤ ceilMillis d) :
    w.arrival now (some latency) = .ok (now + latency) := by
  cases hd : w.deadline with
  | none => simp only [arrival, limit, hd, Option.map_none]
  | some d =>
    have hmax : now + latency ≤ max now (ceilMillis d) := Nat.le_trans (h d hd) (Nat.le_max_right _ _)
    simp only [arrival, limit, hd, Option.map_some, if_pos hmax]

/-- Where there is room, the next request is made after the delay. -/
theorem nextRequest_of_hasRoom (hclock : ∀ d ∈ w.deadline, d < clockLimit) (h : w.HasRoom now delay) :
    w.nextRequest now delay = .ok (wake now delay) := by
  cases hd : w.deadline with
  | none => simp only [nextRequest, hd]
  | some d =>
    obtain ⟨hleft, hover⟩ := h d hd
    have hlimit := hclock d hd
    have hr : (clamp (d - now * perMilli)).nanos = d - now * perMilli := nanos_clamp (by omega)
    have hroom : ¬((clamp (d - now * perMilli)).nanos = 0 ∨ (clamp (d - now * perMilli)).nanos < delay.nanos) := by omega
    simp only [nextRequest, hd, if_neg hroom]

/-- Where there is no room, the wait sleeps up to its limit, or as long as it can. -/
theorem nextRequest_of_not_hasRoom {d : Nat} (hd : w.deadline = some d) (hclock : d < clockLimit) (hnow : now ≤ ceilMillis d)
    (h : ¬w.HasRoom now delay) : w.nextRequest now delay = .error (min (ceilMillis d) (now + longestSleep)) := by
  have hr : (clamp (d - now * perMilli)).nanos = d - now * perMilli := nanos_clamp (by omega)
  have hsum : now + ceilMillis (d - now * perMilli) = ceilMillis d := add_ceilMillis_sub hnow
  have hover : ¬(now * perMilli < d ∧ now * perMilli + delay.nanos ≤ d) := by
    intro hboth
    refine h fun e he => ?_
    cases hd.symm.trans he
    exact hboth
  have hroom : (clamp (d - now * perMilli)).nanos = 0 ∨ (clamp (d - now * perMilli)).nanos < delay.nanos := by omega
  have hwake : wake now (clamp (d - now * perMilli)) = min (ceilMillis d) (now + longestSleep) := by
    rw [wake, hr]
    omega
  simp only [nextRequest, hd, if_pos hroom, hwake]

/-- A wait asks again after the delay where its answer does not end it and there is room. -/
theorem round_of_hasRoom (hclock : ∀ d ∈ w.deadline, d < clockLimit) (hl : a.latency = some latency) (ho : a.IsOpen)
    (h : w.HasRoom (now + latency) delay) : w.round a delay now = .asks (wake (now + latency) delay) := by
  have harrival : w.arrival now (some latency) = .ok (now + latency) :=
    arrival_of_le fun d hd => le_ceilMillis_of_lt (h d hd).1
  simp only [round, hl, harrival, verdict_of_isOpen ho, nextRequest_of_hasRoom hclock h]

/-- A wait gives up where its answer is late, or does not end it and there is no room. -/
theorem round_of_not_hasRoom {d : Nat} (hd : w.deadline = some d) (hclock : d < clockLimit) (hnow : now ≤ ceilMillis d)
    (hl : a.latency = some latency) (ho : a.IsOpen ∨ ceilMillis d < now + latency) (h : ¬w.HasRoom (now + latency) delay) :
    let time := min (ceilMillis d) (now + latency + longestSleep)
    w.round a delay now = .ends (.error (.failure (w.timeout time))) time := by
  intro time
  have hlimit : w.limit = some (ceilMillis d) := by rw [limit, hd]; rfl
  have hmax : max now (ceilMillis d) = ceilMillis d := Nat.max_eq_right hnow
  by_cases hle : now + latency ≤ ceilMillis d
  · have harrival : w.arrival now (some latency) = .ok (now + latency) := by
      simp only [arrival, hlimit, hmax, if_pos hle]
    have hopen : a.IsOpen := ho.resolve_right (Nat.not_lt.mpr hle)
    simp only [round, hl, harrival, verdict_of_isOpen hopen, nextRequest_of_not_hasRoom hd hclock hle h, time]
  · have harrival : w.arrival now (some latency) = .error (.ok (ceilMillis d)) := by
      simp only [arrival, hlimit, hmax, if_neg hle]
    have htime : time = ceilMillis d := by
      simp only [time]
      omega
    simp only [round, hl, harrival, htime]

/-- Where there is room, the delay is over by the limit. -/
theorem wake_le_of_hasRoom (h : w.HasRoom now delay) : ∀ d ∈ w.deadline, wake now delay ≤ ceilMillis d := by
  intro d hd
  calc wake now delay ≤ now + ceilMillis delay.nanos := wake_le now delay
    _ = ceilMillis (now * perMilli + delay.nanos) := (ceilMillis_add now delay.nanos).symm
    _ ≤ ceilMillis d := ceilMillis_le (h d hd).2

/-- An answer that does not end a wait says that the job is not done. -/
theorem isOpen_of_verdict (h : w.verdict a.result = none) : a.IsOpen := by
  cases hr : a.result with
  | error e =>
    rw [hr] at h
    cases h
  | ok status =>
    rw [hr, verdict] at h
    refine ⟨status, hr, ?_⟩
    cases hs : status.state with
    | queued => rfl
    | running => rfl
    | finished => simp [hs] at h
    | failed => simp [hs] at h

/-- A wait asks again only where its answer does not end it and there is room. -/
theorem hasRoom_of_asks (hclock : ∀ d ∈ w.deadline, d < clockLimit) (hnow : ∀ d ∈ w.deadline, now ≤ ceilMillis d)
    (hl : a.latency = some latency) {next : Nat} (h : w.round a delay now = .asks next) :
    a.IsOpen ∧ w.HasRoom (now + latency) delay := by
  cases hv : w.verdict a.result with
  | some outcome =>
    simp only [round, hv] at h
    split at h <;> cases h
  | none =>
    have hopen := isOpen_of_verdict hv
    refine ⟨hopen, ?_⟩
    intro d hd
    by_cases hroom : w.HasRoom (now + latency) delay
    · exact hroom d hd
    · rw [round_of_not_hasRoom hd (hclock d hd) (hnow d hd) hl (Or.inl hopen) hroom] at h
      cases h

/-! ## Rounds one after another -/

/-- A wait that asks again after each of its first rounds goes on as the wait that starts with the request after them. -/
theorem run_asks {delay : Nat → Duration} (hdelay : ∀ j, delay (j + 1) = w.backoff.next (delay j)) {asked : Nat → Nat} (i : Nat)
    (h : ∀ j < i, w.round (answers j) (delay j) (asked j) = .asks (asked (j + 1))) (allowed : Nat) :
    let whole := w.run (answering answers) (i + allowed) (delay 0) (asked 0) 0
    let rest := w.run (answering answers) allowed (delay i) (asked i) i
    whole.requests = ((List.range i).map fun j => (asked j, w.job)) ++ rest.requests ∧ whole.outcome = rest.outcome ∧
      whole.time = rest.time := by
  induction i generalizing allowed with
  | zero =>
    rw [Nat.zero_add]
    exact ⟨rfl, rfl, rfl⟩
  | succ i ih =>
    -- The wait that starts with the request before makes it, and goes on as the rest does.
    obtain ⟨hrequests, houtcome, htime⟩ := ih (fun j hj => h j (Nat.lt_succ_of_lt hj)) (allowed + 1)
    have hround := h i (Nat.lt_succ_self i)
    rw [run_succ] at hrequests houtcome htime
    simp only [answering, hround, ← hdelay] at hrequests houtcome htime
    rw [Nat.add_right_comm]
    refine ⟨?_, houtcome, htime⟩
    refine hrequests.trans ?_
    rw [Timeline.requests_after_asked, List.range_succ, List.map_append, List.append_assoc]
    rfl

/-- A wait that ends after a round makes no request beyond it. -/
theorem run_of_ends {delay : Nat → Duration} (hdelay : ∀ j, delay (j + 1) = w.backoff.next (delay j)) {asked : Nat → Nat} {i : Nat}
    (h : ∀ j < i, w.round (answers j) (delay j) (asked j) = .asks (asked (j + 1))) {outcome : Except Halt Unit} {time : Nat}
    (hends : w.round (answers i) (delay i) (asked i) = .ends outcome time) {allowed : Nat} (hi : i < allowed) :
    let line := w.run (answering answers) allowed (delay 0) (asked 0) 0
    line.requests.length = i + 1 ∧ line.outcome = outcome ∧ line.time = time := by
  intro line
  obtain ⟨more, rfl⟩ := Nat.exists_eq_add_of_lt hi
  obtain ⟨hrequests, houtcome, htime⟩ := run_asks hdelay i h (more + 1)
  rw [run_succ] at hrequests houtcome htime
  simp only [answering, hends] at hrequests houtcome htime
  refine ⟨?_, houtcome, htime⟩
  refine (congrArg List.length hrequests).trans ?_
  simp

/-- A wait makes the request with a number after as many rounds, where it is allowed that many. -/
theorem run_request {delay : Nat → Duration} (hdelay : ∀ j, delay (j + 1) = w.backoff.next (delay j)) {asked : Nat → Nat} {i : Nat}
    (h : ∀ j < i, w.round (answers j) (delay j) (asked j) = .asks (asked (j + 1))) {allowed : Nat} (hi : i < allowed) :
    (w.run (answering answers) allowed (delay 0) (asked 0) 0).requests[i]? = some (asked i, w.job) := by
  obtain ⟨more, rfl⟩ := Nat.exists_eq_add_of_lt hi
  obtain ⟨hrequests, -, -⟩ := run_asks hdelay i h (more + 1)
  rw [run_succ, Timeline.requests_after_asked] at hrequests
  rw [Nat.add_assoc, hrequests, List.getElem?_append_right (by simp)]
  simp

/-- A wait makes no more requests than it is allowed. -/
theorem run_length_le {σ : Type} (source : StatusSource σ) (allowed : Nat) (delay : Duration) (now : Nat) (s : σ) :
    (w.run source allowed delay now s).requests.length ≤ allowed := by
  induction allowed generalizing delay now s with
  | zero => exact Nat.le_refl 0
  | succ allowed ih =>
    rw [run_succ, Timeline.requests_after_asked, List.length_cons]
    refine Nat.succ_le_succ ?_
    cases w.round (source w.job now s).1 delay now with
    | ends outcome time => exact Nat.zero_le allowed
    | asks next => exact ih (w.backoff.next delay) next _

end Wait

/-! ## Waits for a job -/

section Schedule

variable {answers : Nat → Answer} {latency : Nat → Nat} {handle : Handle} {settings : PollSettings} {now : Nat}

/-- The wait for a job from a time on. -/
def PollSettings.wait (settings : PollSettings) (handle : Handle) (now : Nat) : Wait :=
  ⟨handle.id, now, settings.timeout.map fun t => now * perMilli + t.nanos, settings.backoff⟩

/-- The delay after the answer with a number. -/
def PollSettings.delay (settings : PollSettings) (handle : Handle) (i : Nat) : Duration :=
  settings.backoff.next^[i] (settings.firstDelay handle)

theorem PollSettings.delay_succ (settings : PollSettings) (handle : Handle) (i : Nat) :
    settings.delay handle (i + 1) = settings.backoff.next (settings.delay handle i) :=
  Function.iterate_succ_apply' _ _ _

/-- A limit of a wait is that of its settings, from its start on. -/
theorem PollSettings.of_mem_deadline {d : Nat} (h : d ∈ (settings.wait handle now).deadline) :
    ∃ t ∈ settings.timeout, d = now * perMilli + t.nanos := by
  obtain ⟨t, ht, hd⟩ := Option.map_eq_some_iff.mp h
  exact ⟨t, ht, hd.symm⟩

/-- A wait has room where its settings leave it. -/
theorem PollSettings.hasRoom_wait {passed : Nat} {delay : Duration} :
    (settings.wait handle now).HasRoom (now + passed) delay ↔ settings.HasRoom passed delay := by
  constructor
  · intro h t ht
    have hroom := h (now * perMilli + t.nanos) (Option.map_eq_some_iff.mpr ⟨t, ht, rfl⟩)
    rw [Nat.add_mul] at hroom
    omega
  · intro h d hd
    obtain ⟨t, ht, rfl⟩ := of_mem_deadline hd
    have hroom := h t ht
    rw [Nat.add_mul]
    omega

/-- Whether a wait asks again after the answer with a number: the job is not done, and there is room. -/
def PollSettings.GoesOn (settings : PollSettings) (handle : Handle) (answers : Nat → Answer) (latency : Nat → Nat) (i : Nat) : Prop :=
  (answers i).IsOpen ∧ settings.HasRoom (askedAfter latency (settings.delay handle) i + latency i) (settings.delay handle i)

/-- Where a wait goes on after an answer, there is room. -/
theorem PollSettings.GoesOn.hasRoom {i : Nat} (h : settings.GoesOn handle answers latency i) (now : Nat) :
    (settings.wait handle now).HasRoom (now + askedAfter latency (settings.delay handle) i + latency i)
      (settings.delay handle i) := by
  rw [Nat.add_assoc]
  exact hasRoom_wait.mpr h.2

variable (hall : ∀ i, (answers i).latency = some (latency i))
  (hclock : ∀ t ∈ settings.timeout, now * perMilli + t.nanos < clockLimit)

include hclock in
/-- The clock can tell the limit of a wait whose settings let it. -/
theorem PollSettings.deadline_lt : ∀ d ∈ (settings.wait handle now).deadline, d < clockLimit := by
  intro d hd
  obtain ⟨t, ht, rfl⟩ := of_mem_deadline hd
  exact hclock t ht

/-- A request after answers after which the wait goes on is made within the limit. -/
theorem PollSettings.asked_le {i : Nat} (h : ∀ j < i, settings.GoesOn handle answers latency j) :
    ∀ d ∈ (settings.wait handle now).deadline, now + askedAfter latency (settings.delay handle) i ≤ ceilMillis d := by
  cases i with
  | zero =>
    intro d hd
    obtain ⟨t, -, rfl⟩ := of_mem_deadline hd
    rw [ceilMillis_add]
    exact Nat.le_add_right now _
  | succ i =>
    have hroom := (h i (Nat.lt_succ_self i)).hasRoom now
    simpa only [askedAfter, wake, sleepMillis, Nat.add_assoc] using Wait.wake_le_of_hasRoom hroom

include hall hclock in
/-- An answer after which a wait goes on is followed by the next request. -/
theorem PollSettings.GoesOn.round_eq {i : Nat} (h : settings.GoesOn handle answers latency i) :
    (settings.wait handle now).round (answers i) (settings.delay handle i) (now + askedAfter latency (settings.delay handle) i) =
      .asks (now + askedAfter latency (settings.delay handle) (i + 1)) := by
  rw [Wait.round_of_hasRoom (deadline_lt hclock) (hall i) h.1 (h.hasRoom now)]
  simp only [askedAfter, wake, sleepMillis, Nat.add_assoc]

include hall hclock in
/-- A wait that makes a request has gone on after all answers before. -/
theorem PollSettings.goesOn_of_lt_length {allowed i : Nat}
    (hi : i < ((settings.wait handle now).run (answering answers) allowed (settings.firstDelay handle) now 0).requests.length) :
    ∀ j < i, settings.GoesOn handle answers latency j := by
  have hallowed := Nat.lt_of_lt_of_le hi (Wait.run_length_le _ allowed _ now 0)
  -- The first answer after which it does not go on would have been that to its last request.
  suffices hfirst : ∀ k ≤ i, ∀ j < k, settings.GoesOn handle answers latency j from hfirst i (Nat.le_refl i)
  intro k
  induction k with
  | zero =>
    intro _ j hj
    exact absurd hj (Nat.not_lt_zero j)
  | succ k ih =>
    intro hk
    have hbefore := ih (Nat.le_of_succ_le hk)
    have hlast : settings.GoesOn handle answers latency k := by
      cases hround : (settings.wait handle now).round (answers k) (settings.delay handle k)
          (now + askedAfter latency (settings.delay handle) k) with
      | asks next =>
        obtain ⟨hopen, hroom⟩ := Wait.hasRoom_of_asks (deadline_lt hclock) (asked_le hbefore) (hall k) hround
        rw [Nat.add_assoc] at hroom
        exact ⟨hopen, hasRoom_wait.mp hroom⟩
      | ends outcome time =>
        obtain ⟨hlength, -, -⟩ := Wait.run_of_ends (settings.delay_succ handle)
          (fun j hj => (hbefore j hj).round_eq hall hclock) hround (Nat.lt_trans (Nat.lt_of_succ_le hk) hallowed)
        rw [PollSettings.delay, Function.iterate_zero, id, askedAfter, Nat.add_zero] at hlength
        omega
    intro j hj
    rcases Nat.lt_succ_iff_lt_or_eq.mp hj with hj | rfl
    · exact hbefore j hj
    · exact hlast

include hall hclock in
/-- A wait makes the request with a number if it is allowed so many and has gone on after all answers before. -/
theorem PollSettings.request_iff {allowed i : Nat} {r : Nat × String} :
    ((settings.wait handle now).run (answering answers) allowed (settings.firstDelay handle) now 0).requests[i]? = some r ↔
      i < allowed ∧ (∀ j < i, settings.GoesOn handle answers latency j) ∧
        r = (now + askedAfter latency (settings.delay handle) i, handle.id) := by
  have hmade : ∀ i < allowed, (∀ j < i, settings.GoesOn handle answers latency j) →
      ((settings.wait handle now).run (answering answers) allowed (settings.firstDelay handle) now 0).requests[i]? =
        some (now + askedAfter latency (settings.delay handle) i, handle.id) := by
    intro i hi h
    exact Wait.run_request (settings.delay_succ handle) (fun j hj => (h j hj).round_eq hall hclock) hi
  constructor
  · intro hr
    have hlength := (List.getElem?_eq_some_iff.mp hr).1
    have hi := Nat.lt_of_lt_of_le hlength (Wait.run_length_le _ allowed _ now 0)
    have hbefore := goesOn_of_lt_length hall hclock hlength
    exact ⟨hi, hbefore, Option.some_inj.mp (hr.symm.trans (hmade i hi hbefore))⟩
  · rintro ⟨hi, h, rfl⟩
    exact hmade i hi h

include hall hclock in
/-- A wait that has gone on so far gives up where there is no room after its next answer, or that answer is late. -/
theorem PollSettings.round_of_not_hasRoom {i : Nat} (h : ∀ j < i, settings.GoesOn handle answers latency j) {t : Duration}
    (ht : t ∈ settings.timeout)
    (hroom : ¬settings.HasRoom (askedAfter latency (settings.delay handle) i + latency i) (settings.delay handle i))
    (hanswer : (answers i).IsOpen ∨ ceilMillis t.nanos < askedAfter latency (settings.delay handle) i + latency i) :
    let time := now + min (ceilMillis t.nanos) (askedAfter latency (settings.delay handle) i + latency i + longestSleep)
    (settings.wait handle now).round (answers i) (settings.delay handle i) (now + askedAfter latency (settings.delay handle) i) =
      .ends (.error (.failure (.timeout handle.id (.clamp ((time - now) * perMilli))))) time := by
  intro time
  have hdeadline : (settings.wait handle now).deadline = some (now * perMilli + t.nanos) := by
    rw [PollSettings.wait, ht, Option.map_some]
  have hlate : (answers i).IsOpen ∨
      ceilMillis (now * perMilli + t.nanos) < now + askedAfter latency (settings.delay handle) i + latency i := by
    refine hanswer.imp_right fun hlater => ?_
    rw [ceilMillis_add]
    omega
  have hnone : ¬(settings.wait handle now).HasRoom (now + askedAfter latency (settings.delay handle) i + latency i)
      (settings.delay handle i) := by
    rw [Nat.add_assoc, hasRoom_wait]
    exact hroom
  have htime : min (ceilMillis (now * perMilli + t.nanos))
      (now + askedAfter latency (settings.delay handle) i + latency i + longestSleep) = time := by
    rw [ceilMillis_add]
    simp only [time]
    omega
  rw [Wait.round_of_not_hasRoom hdeadline (hclock t ht) (asked_le h _ hdeadline) (hall i) hlate hnone, htime]
  rfl

end Schedule

/-- A wait whose time limit the clock can tell makes its first request at its start. After an answer that says that the job is not done,
it makes the next one when the delay is over, if at the answer time is left and the delay is over within the limit, also if it is over
just then, and makes no other. So no request is made before the answer to the one before. Without that room, or where the answer
is not there by the limit rounded up, the wait makes no further request and gives up: at the limit rounded up. No sleep is longer than the
longest one, so that a delay beyond it ends early, and a wait that gives up does so early where its limit is further away than that. -/
theorem await_schedule (answers : Nat → Answer) (latency : Nat → Nat) (hall : ∀ i, (answers i).latency = some (latency i))
    (handle : Handle) (settings : PollSettings) (allowed now : Nat)
    (hclock : ∀ t ∈ settings.timeout, now * perMilli + t.nanos < clockLimit) :
    let asked := askedAfter latency (settings.delay handle)
    let goesOn := settings.GoesOn handle answers latency
    let line := await (answering answers) handle settings allowed now 0
    (∀ i r, line.requests[i]? = some r ↔ i < allowed ∧ (∀ j < i, goesOn j) ∧ r = (now + asked i, handle.id)) ∧
      (∀ i r next, line.requests[i]? = some r → line.requests[i + 1]? = some next → r.1 + latency i ≤ next.1) ∧
      ∀ i < allowed, (∀ j < i, goesOn j) → ∀ t ∈ settings.timeout,
        ¬settings.HasRoom (asked i + latency i) (settings.delay handle i) →
        (answers i).IsOpen ∨ ceilMillis t.nanos < asked i + latency i →
        line.requests.length = i + 1 ∧ line.time = now + min (ceilMillis t.nanos) (asked i + latency i + longestSleep) ∧
          line.outcome = .error (.failure (.timeout handle.id (.clamp ((line.time - now) * perMilli)))) := by
  intro asked goesOn line
  have hline : line = (settings.wait handle now).run (answering answers) allowed (settings.firstDelay handle) now 0 :=
    await_eq_run_of_lt (answering answers) handle settings allowed 0 hclock
  have hmade : ∀ i r, line.requests[i]? = some r ↔ i < allowed ∧ (∀ j < i, goesOn j) ∧ r = (now + asked i, handle.id) := by
    intro i r
    rw [hline]
    exact PollSettings.request_iff hall hclock
  refine ⟨hmade, ?_, ?_⟩
  · intro i r next hr hnext
    obtain ⟨-, -, rfl⟩ := (hmade i r).mp hr
    obtain ⟨-, -, rfl⟩ := (hmade (i + 1) next).mp hnext
    simp only [asked, askedAfter]
    omega
  · intro i hi h t ht hroom hanswer
    have hrounds : ∀ j < i, (settings.wait handle now).round (answers j) (settings.delay handle j) (now + asked j) =
        .asks (now + asked (j + 1)) := by
      intro j hj
      exact (h j hj).round_eq hall hclock
    have hends := PollSettings.round_of_not_hasRoom hall hclock h ht hroom hanswer
    obtain ⟨hlength, houtcome, htime⟩ := Wait.run_of_ends (settings.delay_succ handle) hrounds hends hi
    rw [hline]
    refine ⟨hlength, htime, ?_⟩
    refine houtcome.trans ?_
    rw [← htime]
    rfl

/-- A wait of 20 ms with delays of 10 ms asks at its limit still, and gives up at once when the answer comes. -/
theorem await_schedule_at_limit :
    let settings : PollSettings := { interval := some (.clamp 10000000), timeout := some (.clamp 20000000) }
    let answers : Nat → Answer := fun _ => ⟨some 0, .ok ⟨.running, none⟩⟩
    let line := await (answering answers) ⟨"job-1", none⟩ settings 5 7 0
    (∀ i, (answers i).latency = some 0) ∧ (∀ t ∈ settings.timeout, 7 * perMilli + t.nanos < clockLimit) ∧
      line.requests[2]? = some (27, "job-1") ∧ line.requests.length = 3 ∧ line.time = 27 ∧
      line.outcome = .error (.failure (.timeout "job-1" (.clamp ((line.time - 7) * perMilli)))) := by
  intro settings answers line
  have hall : ∀ i, (answers i).latency = some 0 := fun i => rfl
  have hclock : ∀ t ∈ settings.timeout, 7 * perMilli + t.nanos < clockLimit := by
    intro t ht
    cases ht
    decide
  have hopen : ∀ i, (answers i).IsOpen := fun i => ⟨_, rfl, rfl⟩
  obtain ⟨hmade, -, hgivesUp⟩ := await_schedule answers (fun _ => 0) hall ⟨"job-1", none⟩ settings 5 7 hclock
  have hbefore : ∀ j < 2, settings.GoesOn ⟨"job-1", none⟩ answers (fun _ => 0) j := by
    intro j hj
    refine ⟨hopen j, ?_⟩
    rintro t ⟨⟩
    rcases Nat.lt_succ_iff_lt_or_eq.mp hj with hj | rfl
    · rw [Nat.lt_one_iff.mp hj]
      decide
    · decide
  have hnone : ¬settings.HasRoom (askedAfter (fun _ => 0) (settings.delay ⟨"job-1", none⟩) 2 + 0)
      (settings.delay ⟨"job-1", none⟩ 2) := by
    intro h
    exact absurd (h _ rfl).1 (by decide)
  obtain ⟨hlength, htime, houtcome⟩ := hgivesUp 2 (by decide) hbefore _ rfl hnone (Or.inl (hopen 2))
  exact ⟨hall, hclock, (hmade 2 _).mpr ⟨by decide, hbefore, by decide⟩, hlength, htime, houtcome⟩

/-- Whether a wait asks again when the delay after an answer is over, whatever the delay. -/
def AsksOnTime {σ : Type} (line : Timeline σ Unit) (latency : Nat → Nat) (delay : Nat → Duration) : Prop :=
  ∀ i r next, line.requests[i]? = some r → line.requests[i + 1]? = some next →
    next.1 = r.1 + latency i + ceilMillis (delay i).nanos

/-- Whether a wait that gives up does so at its limit rounded up, or with an answer that comes later. -/
def GivesUpOnTime {σ : Type} (line : Timeline σ Unit) (handle : Handle) (t : Duration) (latency : Nat → Nat) : Prop :=
  ∀ r e, line.requests.getLast? = some r → line.outcome = .error (.failure (.timeout handle.id e)) →
    line.time = max (r.1 + latency (line.requests.length - 1)) (ceilMillis t.nanos)

/-- Sleeps of more than thirty years are cut, here a delay that is a nanosecond longer, and the last sleep of a wait of a thousand million
seconds. So the first of these waits asks again too early, and the second gives up too early. -/
theorem not_asksOnTime :
    ¬AsksOnTime
        (await (Script.source { answers := [⟨some 0, .ok ⟨.running, none⟩⟩, ⟨some 0, .ok ⟨.finished, none⟩⟩] }) ⟨"job-1", none⟩
          { interval := some (.clamp 946080000000000001) } 300 0 0)
        (fun _ => 0) (fun _ => .clamp 946080000000000001) ∧
      ¬GivesUpOnTime
        (await (Script.source { answers := [⟨some 0, .ok ⟨.running, none⟩⟩] }) ⟨"job-1", none⟩
          { interval := some (.clamp 2000000000000000000), timeout := some (.clamp 1000000000000000000) } 300 0 0)
        ⟨"job-1", none⟩ (.clamp 1000000000000000000) (fun _ => 0) := by
  constructor
  · intro h
    exact absurd (h 0 (0, "job-1") (946080000000, "job-1") rfl rfl) (by decide)
  · intro h
    exact absurd (h (0, "job-1") (.clamp 946080000000000000) rfl rfl) (by decide)

end ControlPlane.Job
