import ControlPlane.CommandLine.Arguments
import ControlPlane.Proofs.Waiting.Verdicts

/-!
# Waits with the settings of a command line

A wait whose answers arrive, up to one that decides, comes to a result or a failure, whatever its delays and its limit are
(`Wait.run_isSettled`). Only the end of the time allowed may be more than the clock can tell. The main statement is `await_isSettled_iff`:
with the settings of a command line, a wait comes to a result or a failure just if its limit is none of these, and the interval does not
matter.
-/

namespace ControlPlane.Job

open Duration

/-! ## Answers that arrive -/

/-- That a job is done decides, well or badly. -/
theorem Answer.exists_decides {a : Answer} {status : Status} (hr : a.result = .ok status) (ht : status.state.isTerminal = true)
    (job : String) : ∃ outcome, a.Decides job outcome := by
  cases hs : status.state with
  | queued | running =>
    rw [hs] at ht
    cases ht
  | finished => exact ⟨_, .finished hr hs⟩
  | failed =>
    cases he : status.error with
    | none => exact ⟨_, .unexplained hr hs he⟩
    | some error => exact ⟨_, .failed hr hs he⟩

namespace Wait

variable {w : Wait} {a : Answer} {delay : Duration} {now : Nat}

/-- For an answer that arrives, no wait hangs. -/
theorem arrival_ne_halt (hl : a.latency.isSome = true) (halt : Halt) : w.arrival now a.latency ≠ .error (.error halt) := by
  obtain ⟨latency, hlatency⟩ := Option.isSome_iff_exists.mp hl
  intro h
  unfold arrival at h
  rw [hlatency] at h
  cases hlimit : w.limit with
  | none => simp [hlimit] at h
  | some limit =>
    simp only [hlimit] at h
    split at h <;> cases h

/-- A round that ends a wait with an answer that arrives ends it with a result or a failure. -/
theorem round_settles (hl : a.latency.isSome = true) {outcome : Except Halt Unit} {time : Nat}
    (h : w.round a delay now = .ends outcome time) : outcome = .ok () ∨ ∃ e, outcome = .error (.failure e) := by
  unfold round at h
  cases ha : w.arrival now a.latency with
  | error r =>
    cases r with
    | error halt => exact absurd ha (arrival_ne_halt hl halt)
    | ok time =>
      rw [ha] at h
      cases h
      exact Or.inr ⟨_, rfl⟩
  | ok time =>
    simp only [ha] at h
    cases hv : w.verdict a.result with
    | some o =>
      rw [hv] at h
      cases h
      exact verdict_settled hv
    | none =>
      simp only [hv] at h
      split at h <;> cases h
      exact Or.inr ⟨_, rfl⟩

/-- After an answer that decides nothing is asked. -/
theorem round_ne_asks {outcome : Except Halt Unit} (hd : a.Decides w.job outcome) (next : Nat) : w.round a delay now ≠ .asks next := by
  intro h
  unfold round at h
  cases ha : w.arrival now a.latency with
  | error r =>
    rw [ha] at h
    cases r <;> cases h
  | ok time =>
    simp only [ha, verdict_of_decides hd] at h
    cases h

/-- A wait whose answers arrive, up to one that decides, comes to a result or a failure, if it may ask so often. -/
theorem run_isSettled {answers : Nat → Answer} {n : Nat} (hall : ∀ i ≤ n, (answers i).latency.isSome = true)
    {outcome : Except Halt Unit} (hd : (answers n).Decides w.job outcome) (allowed : Nat) (delay : Duration) (now : Nat) :
    ∀ i ≤ n, n < i + allowed → (w.run (answering answers) allowed delay now i).IsSettled := by
  induction allowed generalizing delay now with
  | zero =>
    intro i hi hallowed
    omega
  | succ allowed ih =>
    intro i hi hallowed
    rw [run_succ]
    cases hr : w.round (answering answers w.job now i).1 delay now with
    | ends outcome time =>
      rcases round_settles (hall i hi) hr with h | ⟨e, h⟩
      · exact Or.inl ⟨(), h⟩
      · exact Or.inr ⟨e, h⟩
    | asks next =>
      -- The answer that decides is still to come, since another request is made.
      have hne : i ≠ n := by
        rintro rfl
        exact round_ne_asks hd next hr
      exact ih (w.backoff.next delay) next (i + 1) (by omega) (by omega)

end Wait

/-! ## Scripts -/

/-- Whether the answers of a script arrive, and the last of them says that the job is done. -/
structure Script.IsFinal (script : Script) : Prop where
  arrives : ∀ a ∈ script.answers, a.latency.isSome = true
  done : ∃ a status, script.answers.getLast? = some a ∧ a.result = .ok status ∧ status.state.isTerminal = true

namespace Script.IsFinal

variable {script : Script}

/-- Each answer of such a script arrives, the ones beyond it included. -/
theorem arrives_answer (h : script.IsFinal) (i : Nat) : (script.answer i).latency.isSome = true := by
  unfold answer
  split
  · rfl
  · split
    · next a hget => exact h.arrives a (List.mem_of_getElem? hget)
    · obtain ⟨a, -, hlast, -⟩ := h.done
      rw [hlast]
      exact h.arrives a (List.mem_of_getLast? hlast)
    · rfl

/-- One of the answers of such a script decides. -/
theorem exists_decides (h : script.IsFinal) (job : String) :
    ∃ n < script.answers.length, ∃ outcome, (script.answer n).Decides job outcome := by
  obtain ⟨a, status, hlast, hr, ht⟩ := h.done
  have hpos : 0 < script.answers.length := List.length_pos_of_mem (List.mem_of_getLast? hlast)
  by_cases hlimit : script.limit ≤ script.answers.length - 1
  · have hbeyond : script.answer script.limit = beyond := by rw [answer, if_pos (Nat.le_refl _)]
    exact ⟨script.limit, by omega, _, by rw [hbeyond]; exact .refused rfl⟩
  · have hget : script.answer (script.answers.length - 1) = a := by
      rw [List.getLast?_eq_getElem?] at hlast
      simp only [answer, if_neg hlimit, hlast]
    exact ⟨script.answers.length - 1, by omega, by rw [hget]; exact Answer.exists_decides hr ht job⟩

end Script.IsFinal

/-! ## Settings of a command line -/

/-- The clock can tell the end of the time that a command line allows just if it can tell that many seconds. -/
theorem forall_timeout_iff (a : CommandLine.Arguments) (now : Nat) :
    (∀ t ∈ a.pollSettings.timeout, now * perMilli + t.nanos < clockLimit) ↔
      ∀ secs ∈ a.timeoutSecs, now * perMilli + secs.toNat * perSecond < clockLimit := by
  rw [CommandLine.Arguments.pollSettings]
  cases a.timeoutSecs with
  | none => simp
  | some secs => simp [ofSecs, perSecond]

/-- With the settings of a command line, a wait for a job of which the answers arrive and the last one says that it is done comes to a
result or a failure just if the clock can tell the end of the time allowed, whatever the interval is. Otherwise it is stopped before its
first request. -/
theorem await_isSettled_iff (a : CommandLine.Arguments) (handle : Handle) {script : Script} (h : script.IsFinal) {allowed : Nat}
    (hallowed : script.answers.length ≤ allowed) (now : Nat) :
    let line := await script.source handle a.pollSettings allowed now 0
    (line.IsSettled ↔ ∀ secs ∈ a.timeoutSecs, now * perMilli + secs.toNat * perSecond < clockLimit) ∧
      ((∃ secs ∈ a.timeoutSecs, clockLimit ≤ now * perMilli + secs.toNat * perSecond) →
        line = .still (.error .clockOverflow) now 0) := by
  intro line
  have hstopped : (¬∀ secs ∈ a.timeoutSecs, now * perMilli + secs.toNat * perSecond < clockLimit) →
      line = .still (.error .clockOverflow) now 0 := by
    intro hoverflow
    exact await_of_overflow script.source handle allowed 0 (mt (forall_timeout_iff a now).mp hoverflow)
  refine ⟨⟨fun hsettled => ?_, fun hclock => ?_⟩, ?_⟩
  · refine Classical.byContradiction fun hoverflow => ?_
    rw [hstopped hoverflow] at hsettled
    rcases hsettled with ⟨_, hok⟩ | ⟨e, hfailed⟩
    · cases hok
    · cases hfailed
  · have hrun := await_eq_run_of_lt script.source handle a.pollSettings allowed 0 ((forall_timeout_iff a now).mpr hclock)
    obtain ⟨n, hn, outcome, hdecides⟩ := h.exists_decides handle.id
    simp only [line, hrun]
    exact Wait.run_isSettled (fun i _ => h.arrives_answer i) hdecides allowed _ now 0 (Nat.zero_le n) (by omega)
  · rintro ⟨secs, hsecs, hlimit⟩
    exact hstopped fun hclock => absurd (hclock secs hsecs) (Nat.not_lt.mpr hlimit)

/-- With the longest interval, and the longest time that the clock can tell from its start on, a wait comes to a result or a failure. -/
theorem await_isSettled_iff_longest :
    let a : CommandLine.Arguments :=
      ⟨false, none, none, some 18446744073709551615, some 9223372036854775807, .delete .space "dev"⟩
    let script : Script := { answers := [⟨some 3, .ok ⟨.running, none⟩⟩, ⟨some 0, .ok ⟨.finished, none⟩⟩] }
    script.IsFinal ∧ script.answers.length ≤ 2 ∧ (await script.source ⟨"job-1", none⟩ a.pollSettings 2 0 0).IsSettled := by
  intro a script
  have hfinal : script.IsFinal := by
    refine ⟨?_, _, _, rfl, rfl, rfl⟩
    intro x hx
    simp only [script, List.mem_cons, List.not_mem_nil, or_false] at hx
    rcases hx with rfl | rfl <;> rfl
  have hclock : ∀ secs ∈ a.timeoutSecs, 0 * perMilli + secs.toNat * perSecond < clockLimit := by
    intro secs hsecs
    obtain rfl : 9223372036854775807 = secs := Option.some.inj hsecs
    decide
  exact ⟨hfinal, by decide, (await_isSettled_iff a ⟨"job-1", none⟩ hfinal (by decide) 0).1.mpr hclock⟩

/-- Not all settings of a command line let a wait come to a result or a failure: the longest time that can be given stops the wait for a
job that is done. -/
theorem not_forall_isSettled :
    ¬∀ (a : CommandLine.Arguments) (handle : Handle) (script : Script), script.IsFinal → ∀ allowed, script.answers.length ≤ allowed →
      (await script.source handle a.pollSettings allowed 0 0).IsSettled := by
  intro hall
  let a : CommandLine.Arguments := ⟨false, none, none, none, some 18446744073709551615, .delete .space "dev"⟩
  let script : Script := { answers := [⟨some 0, .ok ⟨.finished, none⟩⟩] }
  have hfinal : script.IsFinal := by
    refine ⟨?_, _, _, rfl, rfl, rfl⟩
    intro x hx
    obtain rfl := List.mem_singleton.mp hx
    rfl
  have hoverflow : ¬∀ t ∈ a.pollSettings.timeout, 0 * perMilli + t.nanos < clockLimit := by
    intro hclock
    exact absurd (hclock (.ofSecs 18446744073709551615) rfl) (by decide)
  have hsettled := hall a ⟨"job-1", none⟩ script hfinal 1 (Nat.le_refl 1)
  rw [await_of_overflow script.source ⟨"job-1", none⟩ 1 0 hoverflow] at hsettled
  rcases hsettled with ⟨_, hok⟩ | ⟨e, hfailed⟩
  · cases hok
  · cases hfailed

end ControlPlane.Job
