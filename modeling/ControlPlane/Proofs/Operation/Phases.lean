import ControlPlane.Proofs.Exchange.Course
import Mathlib.Data.List.Chain

/-!
# The phases that an operation passes through

An operation is kept track of by steps: it enters a phase, fails, or has a result watched. `Phase.IsLegal` says which phases an
operation may pass through, and in which order. The main statement is `Session.steps_recorded`: whatever the steps of an operation
are, the phases that they record are legal, and a phase is refused just where it would not be.
-/

namespace ControlPlane

variable {σ α : Type}

/-! ## Legal histories -/

namespace Phase

/-- The phases of an operation that has not ended: it has started, may have looked something up, and may have made a change and be
waiting for its job. -/
def way (resolves mutates awaits : Bool) : List Phase :=
  .started :: ((if resolves then [.resolving] else []) ++
    if mutates then .mutating :: (if awaits then [.awaitingJob] else []) else [])

/-- Whether an operation may pass through phases. Only the last one may be an end, and an operation is completed only after it looked
something up or made a change. -/
def IsLegal (history : List Phase) : Prop :=
  ∃ (resolves mutates awaits : Bool) (ending : Option Phase),
    history = way resolves mutates awaits ++ ending.toList ∧
      ∀ p ∈ ending, p.isTerminal = true ∧ (p = .completed → resolves = true ∨ mutates = true)

/-- Phases of which each can come after the one before it. -/
def IsPassage (history : List Phase) : Prop := history.IsChain fun p next => p.canAdvance next = true

/-- After an end comes nothing. -/
theorem canAdvance_of_isTerminal {p : Phase} (hp : p.isTerminal = true) (next : Phase) : p.canAdvance next = false := by
  cases p <;> cases next <;> first | rfl | cases hp

namespace IsPassage

variable {rest : List Phase}

/-- A passage comes to an end at once, if it comes to one, or goes on to a phase that is none. -/
theorem ends_or_goes {p : Phase} (h : IsPassage (p :: rest)) :
    (∃ ending : Option Phase, rest = ending.toList ∧ ∀ q ∈ ending, q.isTerminal = true ∧ p.canAdvance q = true) ∨
      ∃ next tail, rest = next :: tail ∧ next.isTerminal = false ∧ p.canAdvance next = true ∧ IsPassage (next :: tail) := by
  cases h with
  | singleton => exact Or.inl ⟨none, rfl, nofun⟩
  | @cons_cons _ next tail hnext h =>
    by_cases ht : next.isTerminal = true
    · refine Or.inl ⟨some next, ?_, fun q hq => Option.some.inj hq ▸ ⟨ht, hnext⟩⟩
      cases h with
      | singleton => rfl
      | cons_cons hafter => rw [canAdvance_of_isTerminal ht] at hafter; cases hafter
    · exact Or.inr ⟨next, tail, rfl, Bool.not_eq_true _ ▸ ht, hnext, h⟩

/-- After the wait for a job comes at most an end. -/
theorem awaitingJob (h : IsPassage (.awaitingJob :: rest)) :
    ∃ ending : Option Phase, rest = ending.toList ∧ ∀ p ∈ ending, p.isTerminal = true := by
  rcases h.ends_or_goes with ⟨ending, rfl, hending⟩ | ⟨next, tail, rfl, ht, hnext, -⟩
  · exact ⟨ending, rfl, fun p hp => (hending p hp).1⟩
  · cases next with
    | started | resolving | mutating | awaitingJob => cases hnext
    | completed | failed => cases ht

/-- After a change may come the wait for its job. -/
theorem mutating (h : IsPassage (.mutating :: rest)) :
    ∃ (awaits : Bool) (ending : Option Phase),
      rest = (if awaits then [.awaitingJob] else []) ++ ending.toList ∧ ∀ p ∈ ending, p.isTerminal = true := by
  rcases h.ends_or_goes with ⟨ending, rfl, hending⟩ | ⟨next, tail, rfl, ht, hnext, h⟩
  · exact ⟨false, ending, rfl, fun p hp => (hending p hp).1⟩
  · cases next with
    | awaitingJob =>
      obtain ⟨ending, rfl, hending⟩ := h.awaitingJob
      exact ⟨true, ending, rfl, hending⟩
    | started | resolving | mutating => cases hnext
    | completed | failed => cases ht

/-- After something was looked up may come a change. -/
theorem resolving (h : IsPassage (.resolving :: rest)) :
    ∃ (mutates awaits : Bool) (ending : Option Phase),
      rest = (if mutates then .mutating :: (if awaits then [.awaitingJob] else []) else []) ++ ending.toList ∧
        ∀ p ∈ ending, p.isTerminal = true := by
  rcases h.ends_or_goes with ⟨ending, rfl, hending⟩ | ⟨next, tail, rfl, ht, hnext, h⟩
  · exact ⟨false, false, ending, rfl, fun p hp => (hending p hp).1⟩
  · cases next with
    | mutating =>
      obtain ⟨awaits, ending, rfl, hending⟩ := h.mutating
      exact ⟨true, awaits, ending, rfl, hending⟩
    | started | resolving | awaitingJob => cases hnext
    | completed | failed => cases ht

/-- From its start on, an operation in which each phase can come after the one before it passes through legal phases. -/
theorem isLegal (h : IsPassage (.started :: rest)) : IsLegal (.started :: rest) := by
  rcases h.ends_or_goes with ⟨ending, rfl, hending⟩ | ⟨next, tail, rfl, ht, hnext, h⟩
  · refine ⟨false, false, false, ending, rfl, fun p hp => ⟨(hending p hp).1, ?_⟩⟩
    rintro rfl
    cases (hending _ hp).2
  · cases next with
    | resolving =>
      obtain ⟨mutates, awaits, ending, rfl, hending⟩ := h.resolving
      exact ⟨true, mutates, awaits, ending, rfl, fun p hp => ⟨hending p hp, fun _ => Or.inl rfl⟩⟩
    | mutating =>
      obtain ⟨awaits, ending, rfl, hending⟩ := h.mutating
      exact ⟨false, true, awaits, ending, rfl, fun p hp => ⟨hending p hp, fun _ => Or.inr rfl⟩⟩
    | started | awaitingJob => cases hnext
    | completed | failed => cases ht

end IsPassage

namespace IsLegal

variable {history : List Phase}

/-- Legal phases are those from the start on of which each can come after the one before it. -/
theorem iff_isPassage : IsLegal history ↔ ∃ rest, history = .started :: rest ∧ IsPassage history := by
  constructor
  · rintro ⟨resolves, mutates, awaits, ending, rfl, hending⟩
    refine ⟨_, rfl, ?_⟩
    cases ending with
    | none => cases resolves <;> cases mutates <;> cases awaits <;> simp [way, IsPassage, canAdvance]
    | some p =>
      obtain ⟨ht, hc⟩ := hending p rfl
      cases resolves <;> cases mutates <;> cases awaits <;> cases p <;> simp_all [way, IsPassage, canAdvance, isTerminal]
  · rintro ⟨rest, rfl, h⟩
    exact h.isLegal

/-- An operation may go on to just those phases that can come after its last one. -/
theorem append_iff (h : IsLegal history) {p : Phase} (hp : history.getLast? = some p) (next : Phase) :
    IsLegal (history ++ [next]) ↔ p.canAdvance next = true := by
  obtain ⟨rest, rfl, hpassage⟩ := iff_isPassage.mp h
  rw [iff_isPassage, IsPassage, List.isChain_append]
  constructor
  · rintro ⟨_, _, -, -, hnext⟩
    exact hnext p hp next rfl
  · intro hnext
    refine ⟨rest ++ [next], rfl, hpassage, .singleton next, fun q hq r hr => ?_⟩
    obtain rfl : p = q := Option.some.inj (hp.symm.trans hq)
    obtain rfl : next = r := Option.some.inj hr
    exact hnext

/-- What an operation passed through before its last phase is legal too, unless that was its start. -/
theorem of_append {next : Phase} (h : IsLegal (history ++ [next])) : history ++ [next] = [.started] ∨ IsLegal history := by
  obtain ⟨rest, hstart, hpassage⟩ := iff_isPassage.mp h
  cases history with
  | nil => exact Or.inl (by simp_all)
  | cons q before =>
    obtain ⟨rfl, rfl⟩ := List.cons.inj hstart
    exact Or.inr (iff_isPassage.mpr ⟨before, rfl, (List.isChain_append.mp hpassage).1⟩)

/-- No phase is entered twice, and an operation fails at most once. -/
theorem nodup (h : IsLegal history) : (history.map word).Nodup := by
  obtain ⟨resolves, mutates, awaits, ending, rfl, hending⟩ := h
  cases ending with
  | none => cases resolves <;> cases mutates <;> cases awaits <;> simp [way, word]
  | some p =>
    obtain ⟨ht, -⟩ := hending p rfl
    cases p with
    | started | resolving | mutating | awaitingJob => cases ht
    | completed | failed => cases resolves <;> cases mutates <;> cases awaits <;> simp [way, word]

end IsLegal

end Phase

/-! ## The steps of an operation -/

/-- A step by which an operation is kept track of. -/
inductive Step : Type → Type 1 where
  /-- Enters a phase. -/
  | advance (next : Phase) : Step Unit
  /-- Fails. -/
  | fail (e : Failure) : Step Empty
  /-- Has a result watched. -/
  | track {α : Type} (r : Result α) : Step α

namespace Step

/-- What a step does in a session. -/
def run : Step α → Conversation σ α
  | .advance next => .enter next
  | .fail e => (throw e : Conversation σ Empty).watched
  | .track r => (Conversation.known r).watched

/-- The phase after a step. -/
def after : Step α → Phase → Phase
  | .advance next, p => (p.advance next).toOption.getD p
  | .fail e, p => p.fail e
  | .track r, p => p.track r

/-- A phase is entered where it can come next. Otherwise it is refused, and nothing else happens. -/
theorem runOn_advance (next : Phase) (s : Session σ) :
    (advance next).run.runOn s =
      if s.phase.canAdvance next = true then (.ok (), s.record (.entered next))
      else (.error (.invalidTransition s.phase.word next.word), s) := by
  by_cases hp : s.phase.canAdvance next = true
  · rw [if_pos hp]
    exact Conversation.runOn_enter hp
  · rw [if_neg hp]
    simp only [run, Conversation.enter, Conversation.runOn_of, Phase.advance, if_neg hp]

/-- An operation that fails comes to this failure, and it is its last phase unless the operation has ended. -/
theorem runOn_fail (e : Failure) (s : Session σ) :
    (fail e).run.runOn s =
      (.error e, if s.phase.isTerminal = true then s else s.record (.entered (.failed e.kind))) := by
  simp only [run, Conversation.watched, Conversation.runOn_of, Conversation.runOn_throw, Session.fail]
  by_cases ht : s.phase.isTerminal = true
  · simp only [if_pos ht]
  · simp only [if_neg ht, Phase.fail]

/-- A result that is watched is handed back, and a failure is one of the operation. -/
theorem runOn_track (r : Result α) (s : Session σ) :
    (track r).run.runOn s =
      (r, match r with
        | .ok _ => s
        | .error e => if s.phase.isTerminal = true then s else s.record (.entered (.failed e.kind))) := by
  cases r with
  | ok a => rfl
  | error e =>
    have h := congrArg Prod.snd (runOn_fail e s)
    exact Prod.ext rfl h

/-- A step enters at most one phase, and only one that can come next. -/
theorem state_cases (step : Step α) (s : Session σ) :
    (step.run.runOn s).2 = s ∨
      ∃ p, s.phase.canAdvance p = true ∧ (step.run.runOn s).2 = s.record (.entered p) := by
  have hfailed (e : Failure) (t : Session σ)
      (h : t = if s.phase.isTerminal = true then s else s.record (.entered (.failed e.kind))) :
      t = s ∨ ∃ p, s.phase.canAdvance p = true ∧ t = s.record (.entered p) := by
    by_cases ht : s.phase.isTerminal = true
    · exact Or.inl (h.trans (if_pos ht))
    · refine Or.inr ⟨.failed e.kind, ?_, h.trans (if_neg ht)⟩
      simp only [Phase.canAdvance, ht, Bool.not_false]
  cases step with
  | advance next =>
    rw [runOn_advance]
    by_cases hp : s.phase.canAdvance next = true
    · exact Or.inr ⟨next, hp, by rw [if_pos hp]⟩
    · exact Or.inl (by rw [if_neg hp])
  | fail e => exact hfailed e _ (by rw [runOn_fail])
  | track r =>
    cases r with
    | ok a => exact Or.inl (by rw [runOn_track])
    | error e => exact hfailed e _ (by rw [runOn_track])

/-- The phase after a step depends on the phase before it alone. -/
theorem phase_after (step : Step α) (s : Session σ) : (step.run.runOn s).2.phase = step.after s.phase := by
  have hfailed (e : Failure) :
      (if s.phase.isTerminal = true then s else s.record (.entered (.failed e.kind))).phase = s.phase.fail e := by
    unfold Phase.fail
    split <;> rfl
  cases step with
  | advance next =>
    rw [runOn_advance]
    show _ = (s.phase.advance next).toOption.getD s.phase
    unfold Phase.advance
    split <;> rfl
  | fail e => rw [runOn_fail, hfailed]; rfl
  | track r =>
    cases r with
    | ok a => rw [runOn_track]; rfl
    | error e => rw [runOn_track, hfailed]; rfl

end Step

namespace Session

/-- The session after the steps of an operation. -/
def afterSteps (s : Session σ) (steps : List (Sigma Step)) : Session σ :=
  steps.foldl (fun t step => (step.2.run.runOn t).2) s

/-- What every step keeps is kept by all steps. -/
theorem afterSteps_keeps {P : Session σ → Prop}
    (hstep : ∀ (step : Sigma Step) t, P t → P (step.2.run.runOn t).2) (steps : List (Sigma Step)) :
    ∀ {s : Session σ}, P s → P (s.afterSteps steps) := by
  induction steps with
  | nil => exact id
  | cons step steps ih => exact fun h => ih (hstep step _ h)

theorem activities_entered (s : Session σ) (p : Phase) : (s.record (.entered p)).activities = s.activities ++ [.entered p] := by
  simp [activities, record]

/-- Whether an operation that was begun in a session passed through phases, and nothing else happened since. -/
structure Recorded (s : Session σ) (history : List Phase) (t : Session σ) : Prop where
  activities : t.activities = s.activities ++ history.map .entered
  legal : Phase.IsLegal history
  last : history.getLast? = some t.phase

namespace Recorded

variable {s t : Session σ} {history : List Phase}

theorem start (s : Session σ) : Recorded s [.started] (Conversation.start.runOn s).2 where
  activities := s.activities_entered .started
  legal := ⟨false, false, false, none, rfl, nofun⟩
  last := rfl

/-- A phase that can come next is recorded. -/
theorem entered (h : Recorded s history t) {next : Phase} (hnext : t.phase.canAdvance next = true) :
    Recorded s (history ++ [next]) (t.record (.entered next)) where
  activities := by rw [activities_entered, h.activities, List.map_append, List.append_assoc]; rfl
  legal := (h.legal.append_iff h.last next).mpr hnext
  last := by rw [List.getLast?_concat]; rfl

/-- What a step records is legal. -/
theorem step (h : Recorded s history t) (step : Step α) : ∃ history', Recorded s history' (step.run.runOn t).2 := by
  rcases step.state_cases t with ht | ⟨p, hp, ht⟩
  · rw [ht]
    exact ⟨history, h⟩
  · rw [ht]
    exact ⟨history ++ [p], h.entered hp⟩

end Recorded

/-- After an end nothing is recorded. -/
theorem afterSteps_of_isTerminal {s : Session σ} (hs : s.phase.isTerminal = true) (steps : List (Sigma Step)) :
    s.afterSteps steps = s := by
  refine afterSteps_keeps (P := fun t => t = s) (fun step t ht => ?_) steps rfl
  subst ht
  rcases step.2.state_cases t with ht | ⟨p, hp, -⟩
  · exact ht
  · rw [Phase.canAdvance_of_isTerminal hs] at hp
    cases hp

theorem phase_afterSteps (steps : List (Sigma Step)) (s : Session σ) :
    (s.afterSteps steps).phase = steps.foldl (fun p step => step.2.after p) s.phase := by
  induction steps generalizing s with
  | nil => rfl
  | cons step steps ih =>
    have hstep := step.2.phase_after s
    rw [List.foldl_cons, ← hstep]
    exact ih _

/-- Every legal history is that of an operation which enters its phases one by one. -/
theorem recorded_of_isLegal (s : Session σ) {history : List Phase} (h : Phase.IsLegal history) :
    ∃ steps, Recorded s history ((Conversation.start.runOn s).2.afterSteps steps) := by
  induction history using List.reverseRecOn with
  | nil =>
    obtain ⟨rest, hstart, -⟩ := Phase.IsLegal.iff_isPassage.mp h
    cases hstart
  | append_singleton history next ih =>
    rcases h.of_append with hstart | hbefore
    · rw [hstart]
      exact ⟨[], .start s⟩
    · obtain ⟨steps, hr⟩ := ih hbefore
      have hnext := (hbefore.append_iff hr.last next).mp h
      refine ⟨steps ++ [⟨_, .advance next⟩], ?_⟩
      have hlast : ((Conversation.start.runOn s).2.afterSteps (steps ++ [⟨_, .advance next⟩])) =
          ((Step.advance next).run.runOn ((Conversation.start.runOn s).2.afterSteps steps)).2 := List.foldl_concat ..
      rw [hlast, Step.runOn_advance, if_pos hnext]
      exact hr.entered hnext

/-- Whatever the steps of an operation are, and however many: the phases that it passes through are legal and none is entered twice,
and these phases are all that is recorded. An operation that has ended stays as it is. A phase is refused just where it would not be
legal, by naming it and the phase that stays, and a refusal leaves everything as it was. A failure, and a result that is watched, are
handed back, and a failure is the last phase unless the operation has ended before. -/
theorem steps_recorded (s : Session σ) (steps : List (Sigma Step)) :
    let t := (Conversation.start.runOn s).2.afterSteps steps
    (∃ history, t.activities = s.activities ++ history.map .entered ∧ history.getLast? = some t.phase ∧
        Phase.IsLegal history ∧ (history.map Phase.word).Nodup ∧
        ∀ next,
          (Phase.IsLegal (history ++ [next]) → (Step.advance next).run.runOn t = (.ok (), t.record (.entered next))) ∧
          (¬Phase.IsLegal (history ++ [next]) →
            (Step.advance next).run.runOn t = (.error (.invalidTransition t.phase.word next.word), t))) ∧
      t.phase = steps.foldl (fun p step => step.2.after p) .started ∧
      (t.phase.isTerminal = true → ∀ more, t.afterSteps more = t) ∧
      (∀ e, (Step.fail e).run.runOn t =
        (.error e, if t.phase.isTerminal = true then t else t.record (.entered (.failed e.kind)))) ∧
      ∀ {α : Type} (r : Result α), ((Step.track r).run.runOn t).1 = r ∧
        ((Step.track r).run.runOn t).2 =
          match r with
          | .ok _ => t
          | .error e => ((Step.fail e).run.runOn t).2 := by
  intro t
  obtain ⟨history, hr⟩ : ∃ history, Recorded s history t :=
    afterSteps_keeps (P := fun t => ∃ history, Recorded s history t) (fun step t ⟨_, h⟩ => h.step step.2) steps ⟨_, .start s⟩
  refine ⟨⟨history, hr.activities, hr.last, hr.legal, hr.legal.nodup, fun next => ?_⟩, phase_afterSteps steps _,
    fun ht => afterSteps_of_isTerminal ht, fun e => Step.runOn_fail e t, fun r => ⟨?_, ?_⟩⟩
  · rw [Step.runOn_advance, hr.legal.append_iff hr.last]
    exact ⟨fun hnext => if_pos hnext, fun hnext => if_neg hnext⟩
  · rw [Step.runOn_track]
  · cases r with
    | ok a => rw [Step.runOn_track]
    | error e => rfl

end Session

end ControlPlane
