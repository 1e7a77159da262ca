import ControlPlane.Proofs.Waiting.Budget

/-!
# Waits that are given more time

A wait that is given more time, or all the time there is, goes through the same rounds, up to the one in which it gave up
(`Wait.round_extended`). So more time changes what a wait comes to only where the time was too short. The main statement is
`await_given_more_time`.
-/

namespace ControlPlane.Job

open Duration

variable {σ : Type}

namespace Wait

/-- The wait whose time is over at another nanosecond, or never. -/
def extended (w : Wait) (deadline : Option Nat) : Wait := { w with deadline }

/-- Whether time that is over at a nanosecond, or never, is over no earlier than that of a wait. -/
def EndsBy (w : Wait) (later : Option Nat) : Prop := ∀ d' ∈ later, ∃ d, w.deadline = some d ∧ d ≤ d'

variable {w : Wait} {later : Option Nat}

/-- Time that is over no earlier has its limit no earlier. -/
theorem EndsBy.limit (h : w.EndsBy later) : ∀ l' ∈ (w.extended later).limit, ∃ l, w.limit = some l ∧ l ≤ l' := by
  intro l' hl
  obtain ⟨d', hd', rfl⟩ := Option.map_eq_some_iff.mp hl
  obtain ⟨d, hd, hle⟩ := h d' hd'
  exact ⟨ceilMillis d, by rw [Wait.limit, hd, Option.map_some], ceilMillis_le hle⟩

/-- With more time an answer arrives when it did, or the wait gave up before. -/
theorem arrival_extended (h : w.EndsBy later) (now : Nat) (latency : Option Nat) :
    (∃ time, w.arrival now latency = .error (.ok time)) ∨ (w.extended later).arrival now latency = w.arrival now latency := by
  have hlimit := h.limit
  cases hl : w.limit with
  | none =>
    -- A wait that has no limit cannot be given more time.
    have hnone : (w.extended later).limit = none := by
      cases hl' : (w.extended later).limit with
      | none => rfl
      | some l' =>
        obtain ⟨l, hsome, -⟩ := hlimit l' hl'
        cases hl.symm.trans hsome
    right
    simp only [arrival, hl, hnone]
  | some limit =>
    cases latency with
    | none => exact Or.inl ⟨max now limit, by simp only [arrival, hl]⟩
    | some l =>
      by_cases hin : now + l ≤ max now limit
      · right
        have hok : w.arrival now (some l) = .ok (now + l) := by simp only [arrival, hl, hin, if_true]
        rw [hok]
        cases hl' : (w.extended later).limit with
        | none => simp only [arrival, hl']
        | some limit' =>
          obtain ⟨_, hsome, hle⟩ := hlimit limit' hl'
          cases hl.symm.trans hsome
          have hin' : now + l ≤ max now limit' := by omega
          simp only [arrival, hl', hin', if_true]
      · exact Or.inl ⟨max now limit, by simp only [arrival, hl, hin, if_false]⟩

/-- A shorter length of time is no longer when both are cut to the longest one. -/
theorem nanos_clamp_le {m n : Nat} (h : m ≤ n) : (clamp m).nanos ≤ (clamp n).nanos := by
  simp only [clamp]
  omega

/-- With more time the next request is due when it was, or the wait gave up before. -/
theorem nextRequest_extended (h : w.EndsBy later) (now : Nat) (delay : Duration) :
    (∃ time, w.nextRequest now delay = .error time) ∨ (w.extended later).nextRequest now delay = w.nextRequest now delay := by
  cases hn : w.nextRequest now delay with
  | error time => exact Or.inl ⟨time, rfl⟩
  | ok next =>
    right
    have hdue : next = wake now delay := by
      unfold nextRequest at hn
      split at hn
      · cases hn
        rfl
      · simp only at hn
        split at hn
        · cases hn
        · cases hn
          rfl
    rw [hdue]
    cases hlater : later with
    | none => rfl
    | some d' =>
      obtain ⟨d, hd, hle⟩ := h d' hlater
      have hleft : ¬((clamp (d - now * perMilli)).nanos = 0 ∨ (clamp (d - now * perMilli)).nanos < delay.nanos) := by
        intro hshort
        simp only [nextRequest, hd, if_pos hshort] at hn
        cases hn
      have hmore : (clamp (d - now * perMilli)).nanos ≤ (clamp (d' - now * perMilli)).nanos :=
        nanos_clamp_le (Nat.sub_le_sub_right hle _)
      have hleft' : ¬((clamp (d' - now * perMilli)).nanos = 0 ∨ (clamp (d' - now * perMilli)).nanos < delay.nanos) := by
        omega
      exact if_neg hleft'

/-- With more time a round is as it was, unless the wait gave up in it. -/
theorem round_extended (h : w.EndsBy later) (answer : Answer) (delay : Duration) (now : Nat) :
    (∃ time, w.round answer delay now = .ends (.error (.failure (w.timeout time))) time) ∨
      (w.extended later).round answer delay now = w.round answer delay now := by
  rcases arrival_extended h now answer.latency with ⟨time, ha⟩ | ha
  · left
    exact ⟨time, by simp only [round, ha]⟩
  · unfold round
    rw [ha, show (w.extended later).verdict answer.result = w.verdict answer.result from rfl]
    cases w.arrival now answer.latency with
    | error r =>
      cases r with
      | error halt => exact Or.inr rfl
      | ok time => exact Or.inl ⟨time, rfl⟩
    | ok time =>
      simp only
      cases w.verdict answer.result with
      | some outcome => exact Or.inr rfl
      | none =>
        rcases nextRequest_extended h time delay with ⟨late, hn⟩ | hn
        · exact Or.inl ⟨late, by simp only [hn]⟩
        · exact Or.inr (by rw [hn]; rfl)

/-- With more time a wait is as it was, unless it gave up: then it makes at least the requests that it made. -/
theorem run_extended (source : StatusSource σ) (h : w.EndsBy later) (allowed : Nat) (delay : Duration) (now : Nat) (s : σ) :
    (w.extended later).run source allowed delay now s = w.run source allowed delay now s ∨
      (∃ time, (w.run source allowed delay now s).outcome = .error (.failure (w.timeout time))) ∧
        (w.run source allowed delay now s).requests <+: ((w.extended later).run source allowed delay now s).requests := by
  induction allowed generalizing delay now s with
  | zero => exact Or.inl rfl
  | succ allowed ih =>
    have hjob : (w.extended later).job = w.job := rfl
    have hbackoff : (w.extended later).backoff = w.backoff := rfl
    rw [run_succ, run_succ, hjob, hbackoff]
    rcases round_extended h (source w.job now s).1 delay now with ⟨time, hround⟩ | hround
    · rw [hround]
      refine Or.inr ⟨⟨time, rfl⟩, ?_⟩
      simp only [Timeline.requests_after_asked, Timeline.requests_still]
      exact List.cons_prefix_cons.mpr ⟨rfl, List.nil_prefix⟩
    · rw [hround]
      cases w.round (source w.job now s).1 delay now with
      | ends outcome time => exact Or.inl rfl
      | asks next =>
        simp only
        rcases ih (w.backoff.next delay) next (source w.job now s).2 with hsame | ⟨⟨time, hout⟩, hinit⟩
        · exact Or.inl (by rw [hsame])
        · refine Or.inr ⟨⟨time, hout⟩, ?_⟩
          simp only [Timeline.requests_after_asked]
          exact List.cons_prefix_cons.mpr ⟨rfl, hinit⟩

end Wait

/-- More time changes nothing for a wait whose time was long enough. A wait for a job with a time limit, and one with a limit that is
no shorter or with none at all, make the same requests at the same times as long as the first one makes any; where it does not end for
the lack of time, the second one is as the first one as a whole, with its requests, its outcome and its end. -/
theorem await_given_more_time (source : StatusSource σ) (handle : Handle) (settings : PollSettings) (t : Duration)
    (longer : Option Duration) (hle : ∀ u ∈ longer, t.nanos ≤ u.nanos) (allowed now : Nat) (s : σ)
    (hclock : now * perMilli + t.nanos < clockLimit) (hclock' : ∀ u ∈ longer, now * perMilli + u.nanos < clockLimit) :
    let before := await source handle { settings with timeout := some t } allowed now s
    let after := await source handle { settings with timeout := longer } allowed now s
    before.requests <+: after.requests ∧
      ((∀ job e, before.outcome ≠ .error (.failure (.timeout job e))) → after = before) := by
  intro before after
  let w : Wait := ⟨handle.id, now, some (now * perMilli + t.nanos), settings.backoff⟩
  let later : Option Nat := longer.map fun u => now * perMilli + u.nanos
  have hends : w.EndsBy later := by
    intro d' hd'
    obtain ⟨u, hu, rfl⟩ := Option.map_eq_some_iff.mp hd'
    exact ⟨_, rfl, Nat.add_le_add_left (hle u hu) _⟩
  have hbefore : before = w.run source allowed (settings.firstDelay handle) now s :=
    await_eq_run source handle rfl allowed s hclock
  have hafter : after = (w.extended later).run source allowed (settings.firstDelay handle) now s :=
    await_eq_run_of_lt source handle { settings with timeout := longer } allowed s hclock'
  rw [hbefore, hafter]
  rcases Wait.run_extended source hends allowed (settings.firstDelay handle) now s with hsame | ⟨⟨time, hout⟩, hinit⟩
  · exact ⟨hsame.symm ▸ List.prefix_rfl, fun _ => hsame⟩
  · exact ⟨hinit, fun hne => absurd hout (hne _ _)⟩

/-- A wait of 25.5 ms for a job that is running after 3 ms, and finished 4 ms after the second request: with more time, or without any
limit, it is the same wait. With 12 ms the time is too short, and only the first requests are made. -/
theorem await_given_more_time_finished :
    let source := Script.source { answers := [⟨some 3, .ok ⟨.running, none⟩⟩, ⟨some 4, .ok ⟨.finished, none⟩⟩] }
    let settings : PollSettings := { interval := some (.clamp 10000000) }
    let line (timeout : Option Duration) := await source ⟨"job-1", none⟩ { settings with timeout } 300 7 0
    (7 * perMilli + (clamp 25500000).nanos < clockLimit ∧ (clamp 25500000).nanos ≤ (clamp 40000000).nanos) ∧
      line (some (.clamp 40000000)) = line (some (.clamp 25500000)) ∧ line none = line (some (.clamp 25500000)) ∧
      (line (some (.clamp 12000000))).requests <+: (line none).requests := by
  have hdone :
      (await (Script.source { answers := [⟨some 3, .ok ⟨.running, none⟩⟩, ⟨some 4, .ok ⟨.finished, none⟩⟩] }) ⟨"job-1", none⟩
        { interval := some (.clamp 10000000), timeout := some (.clamp 25500000) } 300 7 0).outcome = .ok () := rfl
  intro source settings line
  have hclock : 7 * perMilli + (clamp 25500000).nanos < clockLimit := by decide
  have hle : (clamp 25500000).nanos ≤ (clamp 40000000).nanos := by decide
  have hlonger : ∀ u ∈ some (clamp 40000000), (clamp 25500000).nanos ≤ u.nanos ∧ 7 * perMilli + u.nanos < clockLimit := by
    rintro u ⟨⟩
    exact ⟨hle, by decide⟩
  have hfinished : ∀ job e, (line (some (.clamp 25500000))).outcome ≠ .error (.failure (.timeout job e)) := by
    intro job e h
    cases hdone.symm.trans h
  have hmore := await_given_more_time source ⟨"job-1", none⟩ settings (.clamp 25500000) (some (.clamp 40000000))
    (fun u hu => (hlonger u hu).1) 300 7 0 hclock fun u hu => (hlonger u hu).2
  have hforever := await_given_more_time source ⟨"job-1", none⟩ settings (.clamp 25500000) none nofun
    300 7 0 hclock nofun
  have hshort := await_given_more_time source ⟨"job-1", none⟩ settings (.clamp 12000000) none nofun
    300 7 0 (by decide) nofun
  exact ⟨⟨hclock, hle⟩, hmore.2 hfinished, hforever.2 hfinished, hshort.1⟩

end ControlPlane.Job
