import ControlPlane.Mutation
import ControlPlane.Proofs.Waiting.Budget
import ControlPlane.Proofs.Waiting.Processes
import ControlPlane.Proofs.Waiting.Schedule

/-!
# Waits that are dropped

A wait as a process is asking, or sleeping up to its next request, or sleeping up to its limit; a change that is made is on its way, and
then waits. `Wait.follows` and `Mutation.follows` say that timelines tell what these processes do, stage by stage, as long as delays take
time. The main statement is `dropped_cleanly`: a wait, or a change with its wait, that is dropped at some time has made the requests that
it makes up to that time if it is left alone, and makes no other.
-/

namespace ControlPlane.Job

open Duration

variable {σ : Type}

namespace Wait

/-! ## Rounds, case by case -/

/-- What a round comes to: there is no answer ever; or none in time; or one that ends the wait; or one that does not, after which the
wait has no time left, or sleeps up to its next request. -/
inductive Turn (w : Wait) (answer : Answer) (delay : Duration) (now : Nat) : Round → Prop
  | hung : w.arrival now answer.latency = .error (.error .hung) → Turn w answer delay now (.ends (.error .hung) now)
  | late {time : Nat} : w.arrival now answer.latency = .error (.ok time) → now ≤ time →
      Turn w answer delay now (.ends (.error (.failure (w.timeout time))) time)
  | decided {time : Nat} {outcome : Except Halt Unit} : w.arrival now answer.latency = .ok time → now ≤ time →
      w.verdict answer.result = some outcome → Turn w answer delay now (.ends outcome time)
  | resigned {time ending : Nat} : w.arrival now answer.latency = .ok time → now ≤ time → w.verdict answer.result = none →
      w.nextRequest time delay = .error ending → time ≤ ending →
      Turn w answer delay now (.ends (.error (.failure (w.timeout ending))) ending)
  | slept {time : Nat} : w.arrival now answer.latency = .ok time → now ≤ time → w.verdict answer.result = none →
      w.nextRequest time delay = .ok (wake time delay) → Turn w answer delay now (.asks (wake time delay))

/-- An answer arrives after its request, or the wait gives up after it, or there is none. -/
theorem le_arrival (w : Wait) (now : Nat) (latency : Option Nat) :
    w.arrival now latency = .error (.error .hung) ∨ (∃ time, w.arrival now latency = .error (.ok time) ∧ now ≤ time) ∨
      ∃ time, w.arrival now latency = .ok time ∧ now ≤ time := by
  unfold arrival
  cases w.limit with
  | none =>
    cases latency with
    | none => exact Or.inl rfl
    | some l => exact Or.inr (Or.inr ⟨now + l, rfl, Nat.le_add_right _ _⟩)
  | some limit =>
    cases latency with
    | none => exact Or.inr (Or.inl ⟨max now limit, rfl, Nat.le_max_left _ _⟩)
    | some l =>
      dsimp only
      split
      · exact Or.inr (Or.inr ⟨now + l, rfl, Nat.le_add_right _ _⟩)
      · exact Or.inr (Or.inl ⟨max now limit, rfl, Nat.le_max_left _ _⟩)

/-- A wait sleeps for the delay, or up to a time at which it gives up. -/
theorem le_nextRequest (w : Wait) (now : Nat) (delay : Duration) :
    w.nextRequest now delay = .ok (wake now delay) ∨ ∃ ending, w.nextRequest now delay = .error ending ∧ now ≤ ending := by
  unfold nextRequest
  cases w.deadline with
  | none => exact Or.inl rfl
  | some d =>
    dsimp only
    split
    · exact Or.inr ⟨_, rfl, le_wake _ _⟩
    · exact Or.inl rfl

theorem turn_round (w : Wait) (answer : Answer) (delay : Duration) (now : Nat) :
    w.Turn answer delay now (w.round answer delay now) := by
  unfold round
  rcases w.le_arrival now answer.latency with h | ⟨time, h, hle⟩ | ⟨time, h, hle⟩
  · rw [h]
    exact .hung h
  · rw [h]
    exact .late h hle
  · rw [h]
    dsimp only
    cases hv : w.verdict answer.result with
    | some outcome => exact .decided h hle hv
    | none =>
      dsimp only
      rcases w.le_nextRequest time delay with hn | ⟨ending, hn, hover⟩
      · rw [hn]
        exact .slept h hle hv hn
      · rw [hn]
        exact .resigned h hle hv hn hover

/-! ## The process of a wait -/

/-- The stages of a wait. -/
inductive Stage where
  /-- A request made at a time is open. -/
  | asking (answer : Answer) (delay : Duration) (since : Nat)
  /-- The next request is made when a sleep is over. -/
  | sleeping (delay : Duration) (ending : Nat)
  /-- The wait gives up when a sleep is over. -/
  | resigning (ending : Nat)

/-- The process of a wait. -/
def process (source : StatusSource σ) (w : Wait) : Process Stage σ Unit where
  due
    | .asking answer _ since =>
      match w.arrival since answer.latency with
      | .ok time | .error (.ok time) => some time
      | .error (.error _) => none
    | .sleeping _ ending | .resigning ending => some ending
  wake time stage s :=
    match stage with
    | .asking answer delay since =>
      match w.arrival since answer.latency with
      | .error _ => { place := .ended (.error (.failure (w.timeout time))) time, state := s }
      | .ok _ =>
        match w.verdict answer.result with
        | some outcome => { place := .ended outcome time, state := s }
        | none =>
          match w.nextRequest time delay with
          | .error ending => { place := .amid (.resigning ending), state := s }
          | .ok next => { place := .amid (.sleeping (w.backoff.next delay) next), state := s }
    | .sleeping delay _ =>
      { events := [(time, .asked w.job)], place := .amid (.asking (source w.job time s).1 delay time),
        state := (source w.job time s).2 }
    | .resigning _ => { place := .ended (.error (.failure (w.timeout time))) time, state := s }

/-- The order of stages that are over at the same time. -/
def Stage.rank : Stage → Nat
  | sleeping .. => 2
  | asking .. => 1
  | resigning .. => 0

/-- What a wait does after a round. -/
def onward (source : StatusSource σ) (w : Wait) (allowed : Nat) (delay : Duration) (s : σ) : Round → Timeline σ Unit
  | .ends outcome time => .still outcome time s
  | .asks next => w.run source allowed (w.backoff.next delay) next s

theorem run_onward (source : StatusSource σ) (w : Wait) (allowed : Nat) (delay : Duration) (now : Nat) (s : σ) :
    w.run source (allowed + 1) delay now s =
      .after now (.asked w.job)
        (w.onward source allowed delay (source w.job now s).2 (w.round (source w.job now s).1 delay now)) := by
  rw [run_succ]
  cases w.round (source w.job now s).1 delay now <;> rfl

/-- Whether a timeline is ahead of a stage of a wait, where the requests that it is allowed last up to a time at least. -/
def Ahead (source : StatusSource σ) (w : Wait) (last : Nat) : Stage → σ → Timeline σ Unit → Prop
  | .asking answer delay since, s, line => 0 < delay.nanos ∧ ∃ allowed, last < since + 1 + allowed ∧
      line = w.onward source allowed delay s (w.round answer delay since)
  | .sleeping delay ending, s, line => 0 < delay.nanos ∧ ∃ allowed, last < ending + allowed ∧
      line = w.run source allowed delay ending s
  | .resigning ending, s, line => line = .still (.error (.failure (w.timeout ending))) ending s

section Follows

variable {source : StatusSource σ} {w : Wait} {answer : Answer} {delay : Duration} {since last time bound : Nat} {s : σ}
  {line : Timeline σ Unit}

/-- A request that gets an answer is over when the answer arrives. -/
theorem due_of_arrival (h : w.arrival since answer.latency = .ok time) :
    (w.process source).due (.asking answer delay since) = some time := by
  simp only [process, h]

/-- A request that gets no answer in time is over when the wait gives up. -/
theorem due_of_late (h : w.arrival since answer.latency = .error (.ok time)) :
    (w.process source).due (.asking answer delay since) = some time := by
  simp only [process, h]

/-- A request is not over before it is made. -/
theorem le_of_due : ∀ d ∈ (w.process source).due (.asking answer delay since), since ≤ d := by
  intro d hd
  rcases w.le_arrival since answer.latency with h | ⟨time, h, hle⟩ | ⟨time, h, hle⟩
  · simp only [process, h] at hd
    cases hd
  · cases (due_of_late h).symm.trans hd
    exact hle
  · cases (due_of_arrival h).symm.trans hd
    exact hle

/-- A timeline that is ahead of an open request tells nothing before the request is over, if waits do nothing before they start. -/
theorem onward_isFrom {allowed : Nat} (hrun : ∀ delay now s, (w.run source allowed delay now s).IsFrom now)
    (h : ∀ d ∈ (w.process source).due (.asking answer delay since), bound ≤ d) :
    (w.onward source allowed delay s (w.round answer delay since)).IsFrom bound := by
  generalize hr : w.round answer delay since = r
  cases hr ▸ w.turn_round answer delay since with
  | hung _ => exact ⟨nofun, nofun⟩
  | late ha _ => exact Timeline.isFrom_still (h _ (due_of_late ha)) _ _
  | decided ha _ _ => exact Timeline.isFrom_still (h _ (due_of_arrival ha)) _ _
  | resigned ha _ _ _ hover => exact Timeline.isFrom_still (Nat.le_trans (h _ (due_of_arrival ha)) hover) _ _
  | slept ha _ _ _ =>
    have hnext := Nat.le_trans (h _ (due_of_arrival ha)) (le_wake _ delay)
    exact (hrun (w.backoff.next delay) (wake _ delay) s).mono hnext

/-- A wait does nothing before it starts. -/
theorem run_isFrom (source : StatusSource σ) (w : Wait) (allowed : Nat) (delay : Duration) (now : Nat) (s : σ) :
    (w.run source allowed delay now s).IsFrom now := by
  induction allowed generalizing delay now s with
  | zero => exact Timeline.isFrom_still (Nat.le_refl now) _ _
  | succ allowed ih =>
    rw [run_onward]
    exact (onward_isFrom ih le_of_due).after (.asked w.job)

/-- A verdict is an answer for the one who waits. -/
theorem isAnswer_of_verdict {r : Result Status} {outcome : Except Halt Unit} (h : w.verdict r = some outcome) :
    isAnswer outcome = true := by
  rcases verdict_settled h with rfl | ⟨e, rfl⟩ <;> rfl

/-- A wait whose request is over has ended, or sleeps. -/
theorem wake_asking (hb : w.backoff.IsPositive) (hahead : w.Ahead source last (.asking answer delay since) s line)
    (hdue : (w.process source).due (.asking answer delay since) = some time) :
    let p := (w.process source).wake time (.asking answer delay since) s
    p.events = [] ∧ (w.process source).Leads (w.Ahead source last) time time p line ∧
      (w.process source).IsCalm Stage.rank time 1 p := by
  intro p
  obtain ⟨hdelay, allowed, hlast, hline⟩ := hahead
  generalize hr : w.round answer delay since = r at hline
  cases hr ▸ w.turn_round answer delay since with
  | hung ha =>
    simp only [process, ha] at hdue
    cases hdue
  | late ha _ =>
    cases (due_of_late ha).symm.trans hdue
    have hp : p = { place := .ended (.error (.failure (w.timeout time))) time, state := s } := by simp only [p, process, ha]
    rw [hp]
    exact ⟨rfl, ⟨hline, rfl, Nat.le_refl _⟩, Process.isCalm_of_ended rfl⟩
  | @decided _ outcome ha _ hv =>
    cases (due_of_arrival ha).symm.trans hdue
    have hp : p = { place := .ended outcome time, state := s } := by simp only [p, process, ha, hv]
    rw [hp]
    exact ⟨rfl, ⟨hline, isAnswer_of_verdict hv, Nat.le_refl _⟩, Process.isCalm_of_ended rfl⟩
  | @resigned _ ending ha _ hv hn hover =>
    cases (due_of_arrival ha).symm.trans hdue
    have hp : p = { place := .amid (.resigning ending), state := s } := by simp only [p, process, ha, hv, hn]
    rw [hp]
    refine ⟨rfl, ⟨hline, ?_⟩, ?_⟩
    · rintro d ⟨⟩
      exact hover
    · rintro stage ⟨⟩
      exact Or.inr Nat.zero_lt_one
  | slept ha hle hv hn =>
    cases (due_of_arrival ha).symm.trans hdue
    have hnext : time < wake time delay := lt_wake time hdelay
    have hp : p = { place := .amid (.sleeping (w.backoff.next delay) (wake time delay)), state := s } := by
      simp only [p, process, ha, hv, hn]
    rw [hp]
    refine ⟨rfl, ⟨⟨Backoff.next_pos hb hdelay, allowed, ?_, hline⟩, ?_⟩, ?_⟩
    · omega
    · rintro d ⟨⟩
      exact Nat.le_of_lt hnext
    · rintro stage ⟨⟩
      exact Or.inl fun d hd => by cases hd; exact hnext

/-- What happens in a wait is what its timeline tells, stage by stage, up to a time until which its requests last. -/
theorem follows (source : StatusSource σ) (w : Wait) (hb : w.backoff.IsPositive) (last : Nat) :
    (w.process source).Follows last (w.Ahead source last) Stage.rank where
  rank_lt stage := by cases stage <;> simp only [Stage.rank] <;> decide
  isFrom := by
    intro bound stage s line hahead hdue
    cases stage with
    | asking answer delay since =>
      obtain ⟨-, allowed, -, rfl⟩ := hahead
      exact onward_isFrom (w.run_isFrom source allowed) hdue
    | sleeping delay ending =>
      obtain ⟨-, allowed, -, rfl⟩ := hahead
      exact (w.run_isFrom source allowed delay ending s).mono (hdue ending rfl)
    | resigning ending =>
      cases hahead
      exact Timeline.isFrom_still (hdue ending rfl) _ _
  wake := by
    intro time stage s line htime hahead hdue
    cases stage with
    | asking answer delay since =>
      obtain ⟨hevents, hleads, hcalm⟩ := wake_asking hb hahead hdue
      rw [hevents]
      exact ⟨List.forall_mem_nil _, ⟨line, rfl, hleads⟩, hcalm⟩
    | sleeping delay ending =>
      cases hdue
      obtain ⟨hdelay, allowed, hlast, rfl⟩ := hahead
      -- The request that is due now is allowed, since the requests last beyond this time.
      obtain ⟨allowed, rfl⟩ := Nat.exists_eq_add_one_of_ne_zero (show allowed ≠ 0 by omega)
      refine ⟨List.forall_mem_singleton.mpr rfl,
        ⟨_, w.run_onward source allowed delay time s, ⟨hdelay, allowed, by omega, rfl⟩, le_of_due⟩, ?_⟩
      rintro stage ⟨⟩
      exact Or.inr (Nat.lt_succ_self 1)
    | resigning ending =>
      cases hdue
      cases hahead
      exact ⟨List.forall_mem_nil _, ⟨_, rfl, rfl, rfl, Nat.le_refl _⟩, Process.isCalm_of_ended rfl⟩

end Follows

/-! ## The start of a wait -/

/-- Where a wait for a job stands when it starts. -/
def begun (handle : Handle) (settings : PollSettings) (now : Nat) (s : σ) : Progress Stage σ Unit where
  place :=
    if ∀ t ∈ settings.timeout, now * perMilli + t.nanos < clockLimit then .amid (.sleeping (settings.firstDelay handle) now)
    else .ended (.error .clockOverflow) now
  state := s

variable (source : StatusSource σ) {handle : Handle} {settings : PollSettings} {allowed now last : Nat}

theorem begun_of_lt (h : ∀ t ∈ settings.timeout, now * perMilli + t.nanos < clockLimit) (s : σ) :
    begun handle settings now s = { place := .amid (.sleeping (settings.firstDelay handle) now), state := s } := by
  rw [begun, if_pos h]

theorem begun_of_overflow (h : ¬∀ t ∈ settings.timeout, now * perMilli + t.nanos < clockLimit) (s : σ) :
    begun handle settings now s = { place := .ended (.error .clockOverflow) now, state := s } := by
  rw [begun, if_neg h]

/-- A wait for a job starts where its timeline leads. -/
theorem begun_leads (hfirst : 0 < (settings.firstDelay handle).nanos) (hlast : last < now + allowed) (s : σ) :
    ((settings.wait handle now).process source).Leads ((settings.wait handle now).Ahead source last) now now
      (begun handle settings now s) (await source handle settings allowed now s) := by
  by_cases hclock : ∀ t ∈ settings.timeout, now * perMilli + t.nanos < clockLimit
  · rw [await_eq_run_of_lt source handle settings allowed s hclock, begun_of_lt hclock]
    refine ⟨⟨hfirst, allowed, hlast, rfl⟩, ?_⟩
    rintro d ⟨⟩
    exact Nat.le_refl now
  · rw [await_of_overflow source handle allowed s hclock, begun_of_overflow hclock]
    exact ⟨rfl, rfl, Nat.le_refl now⟩

/-- A wait for a job is first to make a request. -/
theorem begun_calm (source : StatusSource σ) (handle : Handle) (settings : PollSettings) (now : Nat) (s : σ) :
    ((settings.wait handle now).process source).IsCalm Stage.rank now 3 (begun handle settings now s) := by
  intro stage hplace
  by_cases hclock : ∀ t ∈ settings.timeout, now * perMilli + t.nanos < clockLimit
  · rw [begun_of_lt hclock] at hplace
    cases hplace
    exact Or.inr (Nat.lt_succ_self 2)
  · rw [begun_of_overflow hclock] at hplace
    cases hplace

end Wait

end ControlPlane.Job

namespace ControlPlane.Mutation

open Job

variable {σ α : Type}

/-! ## The process of a change -/

/-- The stages of a change. -/
inductive Stage (α : Type) where
  /-- The answer to the change comes at some time. -/
  | changing (answer : Result (Response α)) (ending : Nat)
  /-- The change was accepted as a job at some time, and is waited for. -/
  | waiting (handle : Handle) (since : Nat) (stage : Wait.Stage)

/-- The process of a change. -/
def process (hook : Hook σ) (source : StatusSource σ) (settings : PollSettings) : Process (Stage α) σ (Completed α) where
  due
    | .changing _ ending => some ending
    | .waiting handle since stage => ((settings.wait handle since).process source).due stage
  wake time stage s :=
    match stage with
    | .changing (.error e) _ => { place := .ended (.error (.failure e)) time, state := s }
    | .changing (.ok (.immediate value)) _ => { place := .ended (.ok (.immediate value)) time, state := s }
    | .changing (.ok (.accepted handle)) _ =>
      match hook handle time s with
      | (.error e, s) => { events := [(time, .accepted handle)], place := .ended (.error (.failure e)) time, state := s }
      | (.ok (), s) =>
        { (Wait.begun handle settings time s).map (.waiting handle time) (fun _ => .job handle) with
          events := [(time, .accepted handle)] }
    | .waiting handle since stage =>
      (((settings.wait handle since).process source).wake time stage s).map (.waiting handle since) (fun _ => .job handle)

/-- The order of stages that are over at the same time. -/
def Stage.rank : Stage α → Nat
  | changing .. => 3
  | waiting _ _ stage => stage.rank

/-- Where a change stands when it starts. -/
def begun (change : σ → Nat × Result (Response α) × σ) (now : Nat) (s : σ) : Progress (Stage α) σ (Completed α) :=
  let (latency, answer, s) := change s
  { place := .amid (.changing answer (now + latency)), state := s }

/-- Whether a timeline is ahead of a stage of a change, where the requests that its wait is allowed last up to a time at least. -/
def Ahead (hook : Hook σ) (source : StatusSource σ) (settings : PollSettings) (last : Nat) :
    Stage α → σ → Timeline σ (Completed α) → Prop
  | .changing answer ending, s, line => (∀ handle, answer = .ok (.accepted handle) → 0 < (settings.firstDelay handle).nanos) ∧
      ∃ allowed, last < ending + allowed ∧ line = settle hook source settings allowed ending answer s
  | .waiting handle since stage, s, line => ∃ inner, (settings.wait handle since).Ahead source last stage s inner ∧
      line = inner.map fun _ => .job handle

variable {hook : Hook σ} {source : StatusSource σ} {settings : PollSettings} {last : Nat}

/-- A wait for a job does nothing before it starts. -/
theorem await_isFrom (source : StatusSource σ) (handle : Handle) (settings : PollSettings) (allowed now : Nat) (s : σ) :
    (await source handle settings allowed now s).IsFrom now := by
  unfold await
  dsimp only
  split
  · exact Timeline.isFrom_still (Nat.le_refl now) _ _
  · exact Wait.run_isFrom source _ allowed _ now s

/-- A change does nothing before its answer is there. -/
theorem settle_isFrom (hook : Hook σ) (source : StatusSource σ) (settings : PollSettings) (allowed now : Nat)
    (answer : Result (Response α)) (s : σ) : (settle hook source settings allowed now answer s).IsFrom now := by
  match answer with
  | .error e => exact Timeline.isFrom_still (Nat.le_refl now) _ _
  | .ok (.immediate value) => exact Timeline.isFrom_still (Nat.le_refl now) _ _
  | .ok (.accepted handle) =>
    unfold settle
    refine Timeline.IsFrom.after ?_ _
    match hook handle now s with
    | (.error e, s) => exact Timeline.isFrom_still (Nat.le_refl now) _ _
    | (.ok (), s) => exact (await_isFrom source handle settings allowed now s).map _

/-- A change whose answer is there has ended, or waits. -/
theorem wake_changing (hook : Hook σ) (source : StatusSource σ) (settings : PollSettings) {allowed time : Nat}
    (answer : Result (Response α)) (hfirst : ∀ handle, answer = .ok (.accepted handle) → 0 < (settings.firstDelay handle).nanos)
    (hlast : last < time + allowed) (s : σ) :
    let p := (process hook source settings).wake time (.changing answer time) s
    (∀ e ∈ p.events, e.1 = time) ∧
      (∃ rest, settle hook source settings allowed time answer s = rest.behind p.events ∧
        (process hook source settings).Leads (Ahead hook source settings last) time time p rest) ∧
      (process hook source settings).IsCalm Stage.rank time 3 p := by
  cases answer with
  | error e => exact ⟨List.forall_mem_nil _, ⟨_, rfl, rfl, rfl, Nat.le_refl time⟩, Process.isCalm_of_ended rfl⟩
  | ok response =>
    cases response with
    | immediate value => exact ⟨List.forall_mem_nil _, ⟨_, rfl, rfl, rfl, Nat.le_refl time⟩, Process.isCalm_of_ended rfl⟩
    | accepted handle =>
      simp only [process, settle]
      obtain ⟨result, s⟩ := hook handle time s
      cases result with
      | error e =>
        exact ⟨List.forall_mem_singleton.mpr rfl, ⟨_, rfl, rfl, rfl, Nat.le_refl time⟩, Process.isCalm_of_ended rfl⟩
      | ok _ =>
        have hleads := Wait.begun_leads source (hfirst handle rfl) hlast s
        have hcalm := Wait.begun_calm source handle settings time s
        exact ⟨List.forall_mem_singleton.mpr rfl, ⟨_, rfl, hleads.map (fun _ => rfl) fun h => ⟨_, h, rfl⟩⟩,
          hcalm.map (fun _ => rfl) fun _ => rfl⟩

/-- What happens in a change is what its timeline tells, stage by stage, up to a time until which the requests of its wait last. -/
theorem follows (hook : Hook σ) (source : StatusSource σ) (hb : settings.backoff.IsPositive) (last : Nat) :
    (process hook source settings : Process (Stage α) σ (Completed α)).Follows last (Ahead hook source settings last) Stage.rank where
  rank_lt stage := by
    cases stage with
    | changing answer ending => exact Nat.lt_succ_self 3
    | waiting handle since stage => exact (Wait.follows source (settings.wait handle since) hb last).rank_lt stage
  isFrom := by
    intro bound stage s line hahead hdue
    cases stage with
    | changing answer ending =>
      obtain ⟨-, allowed, -, rfl⟩ := hahead
      exact (settle_isFrom hook source settings allowed ending answer s).mono (hdue ending rfl)
    | waiting handle since stage =>
      obtain ⟨inner, hinner, rfl⟩ := hahead
      exact ((Wait.follows source (settings.wait handle since) hb last).isFrom hinner hdue).map _
  wake := by
    intro time stage s line htime hahead hdue
    cases stage with
    | changing answer ending =>
      cases hdue
      obtain ⟨hfirst, allowed, hlast, rfl⟩ := hahead
      exact wake_changing hook source settings answer hfirst hlast s
    | waiting handle since stage =>
      obtain ⟨inner, hinner, rfl⟩ := hahead
      obtain ⟨hevents, ⟨rest, rfl, hleads⟩, hcalm⟩ :=
        (Wait.follows source (settings.wait handle since) hb last).wake htime hinner hdue
      exact ⟨hevents, ⟨_, rfl, hleads.map (fun _ => rfl) fun h => ⟨_, h, rfl⟩⟩, hcalm.map (fun _ => rfl) fun _ => rfl⟩

end ControlPlane.Mutation

namespace ControlPlane.Job

variable {σ : Type}

/-! ## Waits that are dropped -/

/-- Delays take time where the first one and the greatest one do. A wait for a job that is dropped some milliseconds after its start, and
a change whose wait is dropped with it, has done what it does up to then if it is left alone, and nothing else, however long the clock
runs on. Where it has its answer by then, it is as if it had not been dropped at all. Where not, what it has done is the first part of what
it does if it is left alone, and all the rest of that comes after the drop. These are the events that are left of its timeline where that
is given up. -/
theorem dropped_cleanly (source : StatusSource σ) (settings : PollSettings) (hb : settings.backoff.IsPositive) (now after n : Nat)
    (hn : after ≤ n) (allowed : Nat) (hallowed : after < allowed) (s : σ) :
    (∀ handle, 0 < (settings.firstDelay handle).nanos →
      let line := await source handle settings allowed now s
      let dropped := ((settings.wait handle now).process source).passed now (now + after) (Wait.begun handle settings now s) n
      line.CutAt (now + after) dropped ∧ (line.giveUpAt (now + after)).events = dropped.events) ∧
      ∀ {α : Type} (change : σ → Nat × Result (Mutation.Response α) × σ) (hook : Mutation.Hook σ),
        (∀ handle, (change s).2.1 = .ok (.accepted handle) → 0 < (settings.firstDelay handle).nanos) →
        let line := Mutation.run change hook source settings allowed now s
        let dropped := (Mutation.process hook source settings).passed now (now + after) (Mutation.begun change now s) n
        line.CutAt (now + after) dropped ∧ (line.giveUpAt (now + after)).events = dropped.events := by
  constructor
  · intro handle hfirst line dropped
    have hleads := Wait.begun_leads source hfirst (Nat.add_lt_add_left hallowed now) s
    have hcut : line.CutAt (now + after) dropped :=
      (Wait.follows source (settings.wait handle now) hb (now + after)).cutAt ⟨List.forall_mem_nil _, line, rfl, hleads⟩ hn
    exact ⟨hcut, hcut.giveUpAt⟩
  · intro α change hook hfirst line dropped
    have hahead : Mutation.Ahead hook source settings (now + after) (.changing (change s).2.1 (now + (change s).1)) (change s).2.2
        line := ⟨hfirst, allowed, by omega, rfl⟩
    have hcut : line.CutAt (now + after) dropped := by
      refine (Mutation.follows hook source hb (now + after)).cutAt ⟨List.forall_mem_nil _, line, rfl, hahead, ?_⟩ hn
      rintro d ⟨⟩
      exact Nat.le_add_right _ _
    exact ⟨hcut, hcut.giveUpAt⟩

/-- A wait that is dropped 30 ms after its start, while its second request is open that is never answered, and a change that takes 5 ms
and is dropped with its wait at the time at which this makes its second request. The clock runs on for 1000 ms. -/
theorem dropped_cleanly_open :
    let settings : PollSettings := { interval := some (.clamp 10000000), backoff := .exponential (.clamp 15000000) }
    let source := Script.source { answers := [⟨some 3, .ok ⟨.running, none⟩⟩, ⟨none, .ok ⟨.finished, none⟩⟩] }
    let change : Nat → Nat × Result (Mutation.Response Unit) × Nat := fun s => (5, .ok (.accepted ⟨"job-1", none⟩), s)
    let wait := ((settings.wait ⟨"job-1", none⟩ 7).process source).passed 7 37 (Wait.begun ⟨"job-1", none⟩ settings 7 0) 1000
    let mutation := (Mutation.process .agree source settings).passed 7 25 (Mutation.begun change 7 0) 1000
    (settings.backoff.IsPositive ∧ 0 < (settings.firstDelay ⟨"job-1", none⟩).nanos) ∧
      wait.events = [(7, .asked "job-1"), (20, .asked "job-1")] ∧
      mutation.events = [(12, .accepted ⟨"job-1", none⟩), (12, .asked "job-1"), (25, .asked "job-1")] := by
  intro settings source change wait mutation
  have hb : settings.backoff.IsPositive := show 0 < (Duration.clamp 15000000).nanos by decide
  have hfirst : 0 < (settings.firstDelay ⟨"job-1", none⟩).nanos := by decide
  have hwait := ((dropped_cleanly source settings hb 7 30 1000 (by decide) 300 (by decide) 0).1 ⟨"job-1", none⟩ hfirst).2
  have hmutation := ((dropped_cleanly source settings hb 7 18 1000 (by decide) 300 (by decide) 0).2 change .agree
    (by rintro handle ⟨⟩; exact hfirst)).2
  exact ⟨⟨hb, hfirst⟩, hwait.symm.trans (by decide), hmutation.symm.trans (by decide)⟩

end ControlPlane.Job
