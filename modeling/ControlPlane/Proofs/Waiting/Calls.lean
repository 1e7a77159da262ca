import ControlPlane.Mutation
import ControlPlane.Proofs.Waiting.Later
import ControlPlane.Proofs.Waiting.Lockstep

/-!
# What a change calls, and when

A change calls three others: what makes it, what it tells of an accepted job, and what it asks for the status of that job. Where each of
them notes that it is called, the notes are the one call that makes the change, and then the events of its timeline (`run_noted`). The
main statement is `run_in_order`: what these calls are for each answer to the change, and what comes of them.
-/

namespace ControlPlane.Mutation

open Job

variable {σ τ α : Type}

/-! ## Notes of calls -/

/-- A call: to what makes the change, to what is told of the accepted job, or to what knows the status of the job. -/
inductive Call where
  | changed
  | told (handle : Handle) (time : Nat)
  | asked (job : String) (time : Nat)
deriving DecidableEq

/-- The call that an event tells of. -/
def Call.ofEvent : Nat × Event → Call
  | (time, .accepted handle) => .told handle time
  | (time, .asked job) => .asked job time

/-- The change with a note of its call. -/
def noteChange (change : σ → Nat × Result (Response α) × σ) (s : σ × List Call) : Nat × Result (Response α) × σ × List Call :=
  let (latency, answer, t) := change s.1
  (latency, answer, t, s.2 ++ [.changed])

/-- The hook with notes of its calls. -/
def noteHook (hook : Hook σ) : Hook (σ × List Call) := fun handle time s =>
  let (result, t) := hook handle time s.1
  (result, t, s.2 ++ [.told handle time])

/-- The source with notes of its calls. -/
def noteSource (source : StatusSource σ) : StatusSource (σ × List Call) := fun job time s =>
  let (answer, t) := source job time s.1
  (answer, t, s.2 ++ [.asked job time])

/-- The timeline with notes of its events, behind other notes. -/
def noted (calls : List Call) (line : Timeline σ α) : Timeline (σ × List Call) α where
  events := line.events
  outcome := line.outcome
  time := line.time
  state := (line.state, calls ++ line.events.map .ofEvent)

/-- An event that is noted comes before the notes of what follows. -/
theorem noted_after (calls : List Call) (time : Nat) (event : Event) (line : Timeline σ α) :
    noted calls (line.after time event) = (noted (calls ++ [.ofEvent (time, event)]) line).after time event := by
  simp only [noted, Timeline.after, List.map_cons, List.append_assoc, List.singleton_append]

theorem noted_still (calls : List Call) (outcome : Except Halt α) (time : Nat) (s : σ) :
    noted calls (.still outcome time s) = .still outcome time (s, calls) := by
  simp only [noted, Timeline.still, List.map_nil, List.append_nil]

/-- The notes of a wait are its requests. -/
theorem wait_noted (source : StatusSource σ) (w : Wait) (allowed : Nat) (delay : Duration) (now : Nat) (s : σ) (calls : List Call) :
    w.run (noteSource source) allowed delay now (s, calls) = noted calls (w.run source allowed delay now s) := by
  induction allowed generalizing delay now s calls with
  | zero => exact (noted_still calls _ now s).symm
  | succ allowed ih =>
    have hround : w.round (noteSource source w.job now (s, calls)).1 delay now = w.round (source w.job now s).1 delay now := rfl
    rw [Wait.run_succ, Wait.run_succ, noted_after, hround]
    congr 1
    cases w.round (source w.job now s).1 delay now with
    | ends outcome time => exact (noted_still _ outcome time _).symm
    | asks next => exact ih (w.backoff.next delay) next (source w.job now s).2 _

theorem await_noted (source : StatusSource σ) (handle : Handle) (settings : PollSettings) (allowed now : Nat) (s : σ)
    (calls : List Call) :
    await (noteSource source) handle settings allowed now (s, calls) = noted calls (await source handle settings allowed now s) := by
  unfold await
  dsimp only
  split
  · exact (noted_still calls _ now s).symm
  · exact wait_noted source _ allowed _ now s calls

/-- The notes of what follows the answer to a change are its events. -/
theorem settle_noted (hook : Hook σ) (source : StatusSource σ) (settings : PollSettings) (allowed now : Nat)
    (answer : Result (Response α)) (s : σ) (calls : List Call) :
    settle (noteHook hook) (noteSource source) settings allowed now answer (s, calls) =
      noted calls (settle hook source settings allowed now answer s) := by
  match answer with
  | .error e => exact (noted_still calls _ now s).symm
  | .ok (.immediate value) => exact (noted_still calls _ now s).symm
  | .ok (.accepted handle) =>
    simp only [settle, noteHook, noted_after]
    congr 1
    match hook handle now s with
    | (.error e, s) => exact (noted_still _ _ now s).symm
    | (.ok (), s) => exact congrArg (Timeline.map fun _ => Completed.job handle) (await_noted source handle settings allowed now s _)

/-- The notes of a change with its wait are the call that makes it, and then its events. -/
theorem run_noted (change : σ → Nat × Result (Response α) × σ) (hook : Hook σ) (source : StatusSource σ) (settings : PollSettings)
    (allowed now : Nat) (s : σ) :
    run (noteChange change) (noteHook hook) (noteSource source) settings allowed now (s, []) =
      noted [.changed] (run change hook source settings allowed now s) :=
  settle_noted hook source settings allowed (now + (change s).1) (change s).2.1 (change s).2.2 [.changed]

/-! ## Hooks that differ -/

/-- What follows the answer to a change goes the same way with hooks that come to the same, and sources that tell every wait the same. -/
theorem settle_lockstep {related : σ → τ → Prop} {hook : Hook σ} {other : Hook τ} {source : StatusSource σ}
    {source' : StatusSource τ} (hhook : ∀ handle now s t, related s t →
      (other handle now t).1 = (hook handle now s).1 ∧ related (hook handle now s).2 (other handle now t).2)
    (hsource : ∀ w : Wait, w.Lockstep related source source') (settings : PollSettings) (allowed now : Nat)
    (answer : Result (Response α)) {s : σ} {t : τ} (hst : related s t) :
    (settle hook source settings allowed now answer s).Matches related (settle other source' settings allowed now answer t) := by
  match answer with
  | .error e => exact ⟨rfl, rfl, rfl, hst⟩
  | .ok (.immediate value) => exact ⟨rfl, rfl, rfl, hst⟩
  | .ok (.accepted handle) =>
    refine Timeline.Matches.after ?_ now (.accepted handle)
    obtain ⟨hresult, hnext⟩ := hhook handle now s t hst
    -- Both hooks fail in the same way, or neither does.
    revert hresult hnext
    match hook handle now s, other handle now t with
    | (.error e, s), (_, t) =>
      rintro rfl hnext
      exact ⟨rfl, rfl, rfl, hnext⟩
    | (.ok (), s), (_, t) =>
      rintro rfl hnext
      exact (await_lockstep (fun w _ => hsource w) settings allowed now hnext).map _

/-! ## The order of the calls -/

/-- A wait does nothing but ask. -/
theorem run_events (source : StatusSource σ) (w : Wait) (allowed : Nat) (delay : Duration) (now : Nat) (s : σ) :
    (w.run source allowed delay now s).events =
      (w.run source allowed delay now s).requests.map fun r => (r.1, .asked r.2) := by
  induction allowed generalizing delay now s with
  | zero => rfl
  | succ allowed ih =>
    rw [Wait.run_succ]
    cases w.round (source w.job now s).1 delay now with
    | ends outcome time => rfl
    | asks next => exact congrArg (List.cons _) (ih (w.backoff.next delay) next (source w.job now s).2)

theorem await_events (source : StatusSource σ) (handle : Handle) (settings : PollSettings) (allowed now : Nat) (s : σ) :
    (await source handle settings allowed now s).events =
      (await source handle settings allowed now s).requests.map fun r => (r.1, .asked r.2) := by
  unfold await
  dsimp only
  split
  · rfl
  · exact run_events source _ allowed _ now s

section Accepted

variable {hook : Hook σ} (source : StatusSource σ) (settings : PollSettings) (allowed : Nat) {now : Nat} {handle : Handle} {s : σ}

/-- An accepted change ends where the hook fails. -/
theorem settle_of_refused {e : Failure} (h : (hook handle now s).1 = .error e) :
    (settle hook source settings allowed now (.ok (.accepted handle)) s : Timeline σ (Completed α)) =
      .after now (.accepted handle) (.still (.error (.failure e)) now (hook handle now s).2) := by
  simp only [settle]
  generalize hook handle now s = r at h ⊢
  obtain ⟨result, s⟩ := r
  obtain rfl : result = .error e := h
  rfl

/-- An accepted change is waited for where the hook does not fail. -/
theorem settle_of_agreed (h : (hook handle now s).1 = .ok ()) :
    (settle hook source settings allowed now (.ok (.accepted handle)) s : Timeline σ (Completed α)) =
      .after now (.accepted handle)
        ((await source handle settings allowed now (hook handle now s).2).map fun _ => .job handle) := by
  simp only [settle]
  generalize hook handle now s = r at h ⊢
  obtain ⟨result, s⟩ := r
  obtain rfl : result = .ok () := h
  rfl

end Accepted

/-- The calls of a change with its wait, in their order, and what comes of them. The change is made once, and first. Where it fails, or is
made at once, nothing else is called, and it comes to that failure or value when its answer is there. Where it was accepted as a job, the
hook is told of that job once, then. Where the hook fails, nothing else is called, and the change comes to the failure of the hook. Where
not, the requests for the status are those of the wait for the job from then on, and the change comes to the job, or to the failure of
that wait. This is the wait from the start of the clock on, as much later, if the clock can tell the limit then. A hook that never fails,
and does nothing that a status depends on, makes no difference. -/
theorem run_in_order (change : σ → Nat × Result (Response α) × σ) (hook : Hook σ) (source : StatusSource σ)
    (settings : PollSettings) (allowed now : Nat) (s : σ) :
    let line := run change hook source settings allowed now s
    let noting := run (noteChange change) (noteHook hook) (noteSource source) settings allowed now (s, [])
    let time := now + (change s).1
    let told := fun handle => hook handle time (change s).2.2
    noting.Matches (fun t u => u = t.1) line ∧
      (∀ e, (change s).2.1 = .error e →
        noting.state.2 = [.changed] ∧ line.outcome = .error (.failure e) ∧ line.time = time) ∧
      (∀ value, (change s).2.1 = .ok (.immediate value) →
        noting.state.2 = [.changed] ∧ line.outcome = .ok (.immediate value) ∧ line.time = time) ∧
      (∀ handle, (change s).2.1 = .ok (.accepted handle) →
        (∀ e, (told handle).1 = .error e →
          noting.state.2 = [.changed, .told handle time] ∧ line.outcome = .error (.failure e) ∧ line.time = time) ∧
        ((told handle).1 = .ok () →
          let wait := await source handle settings allowed time (told handle).2
          noting.state.2 = .changed :: .told handle time :: wait.requests.map (fun r => .asked r.2 r.1) ∧
            line.outcome = wait.outcome.map (fun _ => .job handle) ∧ line.time = wait.time ∧ line.state = wait.state ∧
            ((∀ t ∈ settings.timeout, t.nanos < clockLimit → time * Duration.perMilli + t.nanos < clockLimit) →
              wait = (await (source.since time) handle settings allowed 0 (told handle).2).later time))) ∧
      ∀ related : σ → σ → Prop, (∀ s, related s s) → (∀ handle time s, (hook handle time s).1 = .ok ()) →
        (∀ handle time s t, related s t → related s (hook handle time t).2) → (∀ w : Wait, w.Lockstep related source source) →
        (run change .agree source settings allowed now s).Matches related line := by
  intro line noting time told
  have hnoting : noting = noted [.changed] line := run_noted change hook source settings allowed now s
  have hcalls : noting.state.2 = .changed :: line.events.map .ofEvent := by
    rw [hnoting]
    rfl
  have hline : line = settle hook source settings allowed time (change s).2.1 (change s).2.2 := rfl
  refine ⟨?_, ?_, ?_, ?_, ?_⟩
  · rw [hnoting]
    exact ⟨rfl, rfl, rfl, rfl⟩
  · intro e he
    rw [hcalls, hline, he]
    exact ⟨rfl, rfl, rfl⟩
  · intro value hvalue
    rw [hcalls, hline, hvalue]
    exact ⟨rfl, rfl, rfl⟩
  · intro handle hhandle
    rw [hcalls, hline, hhandle]
    constructor
    · intro e he
      rw [settle_of_refused source settings allowed he]
      exact ⟨rfl, rfl, rfl⟩
    · intro hok wait
      rw [settle_of_agreed source settings allowed hok]
      refine ⟨?_, rfl, rfl, rfl, fun hclock => await_later source handle settings allowed time 0 (told handle).2 ?_⟩
      · have hevents : wait.events = wait.requests.map fun r => (r.1, .asked r.2) :=
          await_events source handle settings allowed time _
        show .changed :: .told handle time :: wait.events.map Call.ofEvent = _
        rw [hevents, List.map_map]
        rfl
      · intro t ht
        rw [Nat.zero_mul, Nat.zero_add]
        exact hclock t ht
  · intro related hrefl hagrees hkeeps hsource
    have hhook : ∀ handle now s t, related s t →
        (hook handle now t).1 = (Hook.agree handle now s).1 ∧ related (Hook.agree handle now s).2 (hook handle now t).2 :=
      fun handle now s t hst => ⟨hagrees handle now t, hkeeps handle now s t hst⟩
    exact settle_lockstep hhook hsource settings allowed time (change s).2.1 (hrefl _)

/-- A change that takes 5 ms from millisecond 7 on and is accepted as a job that is done at the second request, with a hook that counts
what it is told. -/
theorem run_in_order_accepted :
    let handle : Handle := ⟨"job-1", none⟩
    let settings : PollSettings := { interval := some (.clamp 10000000), timeout := some (.ofSecs 60) }
    let script : Script := { answers := [⟨some 3, .ok ⟨.running, none⟩⟩, ⟨some 0, .ok ⟨.finished, none⟩⟩] }
    let source : StatusSource (Nat × Nat) := fun job time s => ((script.source job time s.1).1, (script.source job time s.1).2, s.2)
    let change : Nat × Nat → Nat × Result (Response Unit) × Nat × Nat := fun s => (5, .ok (.accepted handle), s)
    let hook : Hook (Nat × Nat) := fun _ _ s => (.ok (), s.1, s.2 + 1)
    let related : Nat × Nat → Nat × Nat → Prop := fun s t => t.1 = s.1
    let line := run change hook source settings 300 7 (0, 0)
    ((hook handle 12 (0, 0)).1 = .ok () ∧ 12 * Duration.perMilli + (Duration.ofSecs 60).nanos < clockLimit ∧
        ∀ w : Wait, w.Lockstep related source source) ∧
      (run (noteChange change) (noteHook hook) (noteSource source) settings 300 7 ((0, 0), [])).state.2 =
        [.changed, .told handle 12, .asked "job-1" 12, .asked "job-1" 25] ∧
      line.outcome.toOption = some (.job handle) ∧ line.time = 12 + (await (source.since 12) handle settings 300 0 (0, 1)).time ∧
      (run change .agree source settings 300 7 (0, 0)).Matches related line := by
  intro handle settings script source change hook related line
  have hclock : 12 * Duration.perMilli + (Duration.ofSecs 60).nanos < clockLimit := by decide
  have hsource : ∀ w : Wait, w.Lockstep related source source := by
    intro w
    constructor <;> rintro now ⟨i, n⟩ ⟨j, m⟩ ⟨⟩ <;> rfl
  obtain ⟨-, -, -, haccepted, hagreed⟩ := run_in_order change hook source settings 300 7 (0, 0)
  obtain ⟨hcalls, houtcome, htime, -, hlater⟩ := (haccepted handle rfl).2 rfl
  have hwait := hlater (by rintro t ⟨⟩ -; exact hclock)
  refine ⟨⟨rfl, hclock, hsource⟩, hcalls.trans (by decide), (congrArg Except.toOption houtcome).trans (by decide), ?_, ?_⟩
  · exact htime.trans (congrArg Timeline.time hwait)
  · exact hagreed related (fun _ => rfl) (fun _ _ _ => rfl) (fun _ _ _ _ hst => hst) hsource

end ControlPlane.Mutation
