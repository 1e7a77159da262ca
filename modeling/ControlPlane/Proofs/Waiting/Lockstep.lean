import ControlPlane.Proofs.Waiting.Round

/-!
# Waits that go in lockstep

A wait looks at nothing of an answer but the time at which it comes and what it means for the wait. So two sources whose answers agree
in these, and go on agreeing, are the same to every wait (`Wait.run_lockstep`): it asks both at the same times, and comes to the same.
What a source counts with each answer is counted once for each time that it is asked (`Wait.run_counts`).
-/

namespace ControlPlane.Job

variable {σ τ α β : Type} {related : σ → τ → Prop}

/-- Whether the same happens on two timelines, and both end alike, in states that are related. -/
structure Timeline.Matches (related : σ → τ → Prop) (line : Timeline σ α) (other : Timeline τ α) : Prop where
  events : other.events = line.events
  outcome : other.outcome = line.outcome
  time : other.time = line.time
  state : related line.state other.state

/-- An event before timelines that match leaves them matching. -/
theorem Timeline.Matches.after {line : Timeline σ α} {other : Timeline τ α} (h : line.Matches related other) (time : Nat)
    (event : Event) : (line.after time event).Matches related (other.after time event) :=
  ⟨congrArg _ h.events, h.outcome, h.time, h.state⟩

/-- Timelines that match do so with other results. -/
theorem Timeline.Matches.map {line : Timeline σ α} {other : Timeline τ α} (h : line.Matches related other) (f : α → β) :
    (line.map f).Matches related (other.map f) :=
  ⟨h.events, congrArg (Except.map f) h.outcome, h.time, h.state⟩

namespace Wait

variable {w : Wait} {source : StatusSource σ} {other : StatusSource τ}

/-- Whether two sources tell a wait the same: in states that are related they answer after the same time, their answers mean the same
for the wait, and the states stay related. -/
structure Lockstep (w : Wait) (related : σ → τ → Prop) (source : StatusSource σ) (other : StatusSource τ) : Prop where
  latency : ∀ now s t, related s t → (other w.job now t).1.latency = (source w.job now s).1.latency
  verdict : ∀ now s t, related s t → w.verdict (other w.job now t).1.result = w.verdict (source w.job now s).1.result
  state : ∀ now s t, related s t → related (source w.job now s).2 (other w.job now t).2

/-- A round depends on when an answer comes, and on what it means for the wait. -/
theorem round_congr {answer answer' : Answer} (hlatency : answer'.latency = answer.latency)
    (hverdict : w.verdict answer'.result = w.verdict answer.result) (delay : Duration) (now : Nat) :
    w.round answer' delay now = w.round answer delay now := by
  simp only [round, hlatency, hverdict]

/-- A wait goes the same way with sources that tell it the same. -/
theorem run_lockstep (h : w.Lockstep related source other) (allowed : Nat) (delay : Duration) (now : Nat) {s : σ} {t : τ}
    (hst : related s t) : (w.run source allowed delay now s).Matches related (w.run other allowed delay now t) := by
  -- Each round is the same with both, and leaves states that are related.
  induction allowed generalizing delay now s t with
  | zero => exact ⟨rfl, rfl, rfl, hst⟩
  | succ allowed ih =>
    have hround := round_congr (h.latency now s t hst) (h.verdict now s t hst) delay now
    have hnext := h.state now s t hst
    rw [run_succ, run_succ, hround]
    refine Timeline.Matches.after ?_ now (.asked w.job)
    cases w.round (source w.job now s).1 delay now with
    | ends outcome time => exact ⟨rfl, rfl, rfl, hnext⟩
    | asks next => exact ih (w.backoff.next delay) next hnext

/-- What grows by one with each answer grows by one each time that the source is asked. -/
theorem run_counts {count : σ → Nat} (h : ∀ now s, count (source w.job now s).2 = count s + 1) (allowed : Nat) (delay : Duration)
    (now : Nat) (s : σ) :
    count (w.run source allowed delay now s).state = count s + (w.run source allowed delay now s).events.length := by
  induction allowed generalizing delay now s with
  | zero => rfl
  | succ allowed ih =>
    have hone := h now s
    rw [run_succ]
    cases w.round (source w.job now s).1 delay now with
    | ends outcome time => exact hone
    | asks next =>
      have hrest := ih (w.backoff.next delay) next (source w.job now s).2
      simp only [Timeline.after, List.length_cons]
      omega

end Wait

/-- Waiting for a job counts each time that the source is asked. -/
theorem await_counts {source : StatusSource σ} {handle : Handle} {count : σ → Nat}
    (h : ∀ now s, count (source handle.id now s).2 = count s + 1) (settings : PollSettings) (allowed now : Nat) (s : σ) :
    count (await source handle settings allowed now s).state =
      count s + (await source handle settings allowed now s).events.length := by
  unfold await
  dsimp only
  split
  · rfl
  · exact Wait.run_counts h allowed _ now s

/-- Waiting for a job goes the same way with sources that tell every wait for it the same. -/
theorem await_lockstep {source : StatusSource σ} {other : StatusSource τ} {handle : Handle}
    (h : ∀ w : Wait, w.job = handle.id → w.Lockstep related source other) (settings : PollSettings) (allowed now : Nat) {s : σ}
    {t : τ} (hst : related s t) :
    (await source handle settings allowed now s).Matches related (await other handle settings allowed now t) := by
  unfold await
  dsimp only
  split
  · exact ⟨rfl, rfl, rfl, hst⟩
  · exact Wait.run_lockstep (h _ rfl) allowed _ now hst

end ControlPlane.Job
