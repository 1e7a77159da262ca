import Mathlib.Logic.Function.Iterate
import ControlPlane.Job.Timeline

/-!
# Processes that are polled

A timeline tells at once what happens over a whole wait. A process tells how it comes about: it is at a stage, which is over at some
time, and is woken then to do something and to go on to its next stage. A clock polls it at every millisecond, until it is dropped; a
process that is not polled does nothing (`Process.passed`). Where each stage of a process is followed by what a timeline tells
(`Process.Follows`), a process that is dropped at a time has done what the timeline tells up to that time, and nothing else:
`Process.Follows.cutAt`.
-/

namespace ControlPlane.Job

variable {ς ς' σ α β : Type}

/-! ## Processes -/

/-- Where a process is: at a stage, or at its end. -/
inductive Place (ς α : Type) where
  | amid (stage : ς)
  | ended (outcome : Except Halt α) (time : Nat)

/-- What a process has done, and where it is. -/
structure Progress (ς σ α : Type) where
  events : List (Nat × Event) := []
  place : Place ς α
  state : σ

/-- The progress as that of a process whose stages and results are told of with other words. -/
def Progress.map (f : ς → ς') (g : α → β) (p : Progress ς σ α) : Progress ς' σ β where
  events := p.events
  place :=
    match p.place with
    | .amid stage => .amid (f stage)
    | .ended outcome time => .ended (outcome.map g) time
  state := p.state

/-- What goes through stages: when each is over, if ever, and what happens when it is woken then. -/
structure Process (ς σ α : Type) where
  due : ς → Option Nat
  wake : Nat → ς → σ → Progress ς σ α

namespace Process

/-- Wakes a process at a time if its stage is over. -/
def advance (process : Process ς σ α) (time : Nat) (p : Progress ς σ α) : Progress ς σ α :=
  match p.place with
  | .ended .. => p
  | .amid stage =>
    match process.due stage with
    | none => p
    | some d =>
      if d ≤ time then
        let next := process.wake time stage p.state
        { next with events := p.events ++ next.events }
      else p

/-- Polls a process at a time: it goes on until it is at a stage that is not over. That takes four steps at most. -/
def poll (process : Process ς σ α) (time : Nat) : Progress ς σ α → Progress ς σ α := (process.advance time)^[4]

/-- Polls a process at a time unless it is dropped by then. -/
def tick (process : Process ς σ α) (dropped time : Nat) (p : Progress ς σ α) : Progress ς σ α :=
  if time ≤ dropped then process.poll time p else p

/-- What a process has done, and where it is, some milliseconds after its start, where it is dropped at a time. -/
def passed (process : Process ς σ α) (start dropped : Nat) (p : Progress ς σ α) : Nat → Progress ς σ α
  | 0 => process.tick dropped start p
  | n + 1 => process.tick dropped (start + (n + 1)) (passed process start dropped p n)

end Process

/-! ## Timelines of processes -/

/-- Whether an outcome is an answer for the one who waits, good or bad. -/
def isAnswer : Except Halt α → Bool
  | .ok _ => true
  | .error halt => halt.isSettled

theorem isAnswer_map (g : α → β) (outcome : Except Halt α) : isAnswer (outcome.map g) = isAnswer outcome := by
  cases outcome <;> rfl

/-- The timeline with events before it. -/
def Timeline.behind (events : List (Nat × Event)) (line : Timeline σ α) : Timeline σ α :=
  { line with events := events ++ line.events }

/-- Whether all that a timeline tells is at a time or later, its answer included if it has one. -/
structure Timeline.IsFrom (line : Timeline σ α) (time : Nat) : Prop where
  events : ∀ e ∈ line.events, time ≤ e.1
  answer : isAnswer line.outcome = true → time ≤ line.time

/-- A timeline on which nothing happens is from its end on, or earlier. -/
theorem Timeline.isFrom_still {time ended : Nat} (h : time ≤ ended) (outcome : Except Halt α) (s : σ) :
    (Timeline.still outcome ended s).IsFrom time :=
  ⟨List.forall_mem_nil _, fun _ => h⟩

namespace Timeline.IsFrom

variable {line : Timeline σ α} {time bound : Nat}

theorem mono (h : line.IsFrom time) (hle : bound ≤ time) : line.IsFrom bound :=
  ⟨fun e he => Nat.le_trans hle (h.events e he), fun ha => Nat.le_trans hle (h.answer ha)⟩

theorem after (h : line.IsFrom time) (event : Event) : (line.after time event).IsFrom time := by
  refine ⟨?_, h.answer⟩
  intro e he
  rcases List.mem_cons.mp he with rfl | he
  · exact Nat.le_refl time
  · exact h.events e he

theorem map (h : line.IsFrom time) (g : α → β) : (line.map g).IsFrom time :=
  ⟨h.events, fun ha => h.answer ((isAnswer_map g line.outcome).symm.trans ha)⟩

end Timeline.IsFrom

/-- Whether a process that is dropped at a time has done what a timeline tells up to that time, and nothing else. Where the timeline has
its answer by then, the process has ended with it, in all respects. Where not, the process is amid a stage, and the timeline tells what the
process has done, all of it at that time or before, and then other events, all of them after it. -/
structure Timeline.CutAt (line : Timeline σ α) (time : Nat) (p : Progress ς σ α) : Prop where
  whole : line.isSettledAt time = true → p.events = line.events ∧ p.place = .ended line.outcome line.time ∧ p.state = line.state
  cut : line.isSettledAt time = false → (∃ stage, p.place = .amid stage) ∧
    ∃ rest, line.events = p.events ++ rest ∧ (∀ e ∈ p.events, e.1 ≤ time) ∧ ∀ e ∈ rest, time < e.1

/-- The events of a process that is dropped at a time are those of its timeline that is given up then. -/
theorem Timeline.CutAt.giveUpAt {line : Timeline σ α} {time : Nat} {p : Progress ς σ α} (h : line.CutAt time p) :
    (line.giveUpAt time).events = p.events := by
  unfold Timeline.giveUpAt
  cases hs : line.isSettledAt time with
  | true =>
    rw [if_pos rfl]
    exact (h.whole hs).1.symm
  | false =>
    obtain ⟨-, rest, hevents, hbefore, hafter⟩ := h.cut hs
    rw [if_neg Bool.false_ne_true]
    have hkept : p.events.filter (·.1 ≤ time) = p.events := by
      rw [List.filter_eq_self]
      exact fun e he => decide_eq_true (hbefore e he)
    have hleft : rest.filter (·.1 ≤ time) = [] := by
      rw [List.filter_eq_nil_iff]
      exact fun e he => by simpa using hafter e he
    simp only [hevents, List.filter_append, hkept, hleft, List.append_nil]

namespace Process

variable {process : Process ς σ α} {ahead : ς → σ → Timeline σ α → Prop} {rank : ς → Nat} {last time bound n : Nat}
  {line : Timeline σ α} {p : Progress ς σ α}

/-- Whether a process stands where a timeline leads: it has ended as the timeline does, or is at a stage that the timeline is ahead of,
and that is not over before a time. -/
def Leads (process : Process ς σ α) (ahead : ς → σ → Timeline σ α → Prop) (time bound : Nat) (p : Progress ς σ α)
    (rest : Timeline σ α) : Prop :=
  match p.place with
  | .ended outcome ended => rest = .still outcome ended p.state ∧ isAnswer outcome = true ∧ ended ≤ time
  | .amid stage => ahead stage p.state rest ∧ ∀ d ∈ process.due stage, bound ≤ d

/-- Whether a process is not at a stage that is over at a time, or at one of a rank below a number. -/
def IsCalm (process : Process ς σ α) (rank : ς → Nat) (time n : Nat) (p : Progress ς σ α) : Prop :=
  ∀ stage, p.place = .amid stage → (∀ d ∈ process.due stage, time < d) ∨ rank stage < n

section Map

variable {process' : Process ς' σ β} {ahead' : ς' → σ → Timeline σ β → Prop} {f : ς → ς'} {g : α → β}

/-- A process stands where a timeline leads also with other words for its stages and results. -/
theorem Leads.map {rest : Timeline σ α} (hdue : ∀ stage, process'.due (f stage) = process.due stage)
    (hahead : ∀ {stage s line}, ahead stage s line → ahead' (f stage) s (line.map g)) (h : process.Leads ahead time bound p rest) :
    process'.Leads ahead' time bound (p.map f g) (rest.map g) := by
  rw [Leads] at h ⊢
  cases hplace : p.place with
  | ended outcome ended =>
    rw [hplace] at h
    obtain ⟨rfl, hanswer, hended⟩ := h
    simp only [Progress.map, hplace]
    exact ⟨rfl, (isAnswer_map g outcome).trans hanswer, hended⟩
  | amid stage =>
    rw [hplace] at h
    simp only [Progress.map, hplace, hdue]
    exact ⟨hahead h.1, h.2⟩

theorem IsCalm.map {rank' : ς' → Nat} (hdue : ∀ stage, process'.due (f stage) = process.due stage)
    (hrank : ∀ stage, rank' (f stage) = rank stage) (h : process.IsCalm rank time n p) :
    process'.IsCalm rank' time n (p.map f g) := by
  intro stage' hplace'
  cases hplace : p.place with
  | ended outcome ended =>
    simp only [Progress.map, hplace] at hplace'
    cases hplace'
  | amid stage =>
    simp only [Progress.map, hplace] at hplace'
    cases hplace'
    rw [hdue, hrank]
    exact h stage hplace

end Map

/-- Whether the stages of a process are followed by what timelines tell, up to a time. A timeline that is ahead of a stage tells nothing
that is before the end of the stage. When the stage is over, it tells what the process does then, and what is ahead of its next stage.
The stages that are over at one and the same time come in the order of their ranks, the greatest first. -/
structure Follows (process : Process ς σ α) (last : Nat) (ahead : ς → σ → Timeline σ α → Prop) (rank : ς → Nat) : Prop where
  rank_lt : ∀ stage, rank stage < 4
  isFrom : ∀ {bound stage s line}, ahead stage s line → (∀ d ∈ process.due stage, bound ≤ d) → line.IsFrom bound
  wake : ∀ {time stage s line}, time ≤ last → ahead stage s line → process.due stage = some time →
    (∀ e ∈ (process.wake time stage s).events, e.1 = time) ∧
      (∃ rest, line = rest.behind (process.wake time stage s).events ∧
        process.Leads ahead time time (process.wake time stage s) rest) ∧
      process.IsCalm rank time (rank stage) (process.wake time stage s)

/-- Whether a process has done what the first part of a timeline tells, by a time, and stands where the rest of it leads. -/
def Tracks (process : Process ς σ α) (ahead : ς → σ → Timeline σ α → Prop) (line : Timeline σ α) (time bound : Nat)
    (p : Progress ς σ α) : Prop :=
  (∀ e ∈ p.events, e.1 ≤ time) ∧ ∃ rest, line = rest.behind p.events ∧ process.Leads ahead time bound p rest

/-- A process that has ended is at no stage. -/
theorem isCalm_of_ended {outcome : Except Halt α} {ended : Nat} (h : p.place = .ended outcome ended) :
    process.IsCalm rank time n p := by
  intro stage hplace
  cases h.symm.trans hplace

theorem advance_of_not_over (h : ∀ stage, p.place = .amid stage → ∀ d ∈ process.due stage, time < d) :
    process.advance time p = p := by
  unfold advance
  cases hplace : p.place with
  | ended outcome ended => rfl
  | amid stage =>
    cases hdue : process.due stage with
    | none => simp only [hdue]
    | some d => simp only [hdue, if_neg (Nat.not_le.mpr (h stage hplace d hdue))]

theorem advance_of_over {stage : ς} {d : Nat} (hplace : p.place = .amid stage) (hdue : process.due stage = some d) (hle : d ≤ time) :
    process.advance time p =
      { process.wake time stage p.state with events := p.events ++ (process.wake time stage p.state).events } := by
  simp only [advance, hplace, hdue, if_pos hle]

/-- One step along a timeline. A process at a stage that is over goes on to one of a lower rank, or to one that is not over. -/
theorem Follows.advance (h : process.Follows last ahead rank) (htime : time ≤ last)
    (hp : process.Tracks ahead line time time p) (hcalm : process.IsCalm rank time (n + 1) p) :
    process.Tracks ahead line time time (process.advance time p) ∧ process.IsCalm rank time n (process.advance time p) := by
  by_cases hover : ∀ stage, p.place = .amid stage → ∀ d ∈ process.due stage, time < d
  · rw [advance_of_not_over hover]
    exact ⟨hp, fun stage hplace => Or.inl (hover stage hplace)⟩
  · simp only [not_forall, Nat.not_lt] at hover
    obtain ⟨stage, hplace, d, hdue, hle⟩ := hover
    obtain ⟨hevents, rest, rfl, hleads⟩ := hp
    simp only [Leads, hplace] at hleads
    -- The stage is over just now, since it was not over before.
    have hd : d = time := Nat.le_antisymm hle (hleads.2 d hdue)
    rw [hd] at hdue
    obtain ⟨hnow, ⟨rest', hrest, hleads'⟩, hcalm'⟩ := h.wake htime hleads.1 hdue
    rw [advance_of_over hplace hdue (Nat.le_refl time)]
    refine ⟨⟨?_, rest', ?_, hleads'⟩, ?_⟩
    · intro e he
      rcases List.mem_append.mp he with he | he
      · exact hevents e he
      · exact Nat.le_of_eq (hnow e he)
    · rw [hrest]
      simp only [Timeline.behind, List.append_assoc]
    · intro stage' hplace'
      refine (hcalm' stage' hplace').imp_right fun hlt => ?_
      have hrank := (hcalm stage hplace).resolve_left fun hnot => Nat.lt_irrefl time (hnot time hdue)
      omega

/-- A poll leaves a process at a stage that is not over, or at its end. -/
theorem Follows.poll (h : process.Follows last ahead rank) (htime : time ≤ last) (hp : process.Tracks ahead line time time p) :
    process.Tracks ahead line time (time + 1) (process.poll time p) := by
  -- The rank of a stage that is over falls with each step, and four ranks are all there are.
  have hsteps : ∀ n ≤ 4, process.Tracks ahead line time time ((process.advance time)^[n] p) ∧
      process.IsCalm rank time (4 - n) ((process.advance time)^[n] p) := by
    intro n
    induction n with
    | zero => exact fun _ => ⟨hp, fun stage _ => Or.inr (h.rank_lt stage)⟩
    | succ n ih =>
      intro hn
      obtain ⟨htracks, hcalm⟩ := ih (Nat.le_of_succ_le hn)
      rw [Function.iterate_succ_apply']
      refine h.advance htime htracks ?_
      rwa [show 4 - (n + 1) + 1 = 4 - n by omega]
  obtain ⟨⟨hevents, rest, hrest, hleads⟩, hcalm⟩ := hsteps 4 (Nat.le_refl 4)
  refine ⟨hevents, rest, hrest, ?_⟩
  rw [Process.poll, Leads]
  rw [Leads] at hleads
  cases hplace : ((process.advance time)^[4] p).place with
  | ended outcome ended => simpa only [hplace] using hleads
  | amid stage =>
    rw [hplace] at hleads
    refine ⟨hleads.1, fun d hd => ?_⟩
    exact ((hcalm stage hplace).resolve_right (by omega)) d hd

/-- A process that stands where a timeline leads at some time does so later, up to a stage that is not over. -/
theorem Tracks.mono {time' : Nat} (h : process.Tracks ahead line time bound p) (htime : time ≤ time') :
    process.Tracks ahead line time' bound p := by
  obtain ⟨hevents, rest, hrest, hleads⟩ := h
  refine ⟨fun e he => Nat.le_trans (hevents e he) htime, rest, hrest, ?_⟩
  rw [Leads] at hleads ⊢
  cases hplace : p.place with
  | ended outcome ended =>
    rw [hplace] at hleads
    exact ⟨hleads.1, hleads.2.1, Nat.le_trans hleads.2.2 htime⟩
  | amid stage => simpa only [hplace] using hleads

/-- A process that is not dropped yet stands where its timeline leads. -/
theorem Follows.passed (h : process.Follows last ahead rank) {start : Nat} (hp : process.Tracks ahead line start start p)
    (hn : start + n ≤ last) : process.Tracks ahead line (start + n) (start + n + 1) (process.passed start last p n) := by
  induction n with
  | zero =>
    rw [Nat.add_zero] at hn ⊢
    rw [Process.passed, tick, if_pos hn]
    exact h.poll hn hp
  | succ n ih =>
    rw [Process.passed, tick, if_pos hn]
    exact h.poll hn ((ih (by omega)).mono (by omega))

/-- A process that is dropped does nothing any more. -/
theorem passed_of_le {start dropped : Nat} (h : dropped ≤ start + n) (more : Nat) :
    process.passed start dropped p (n + more) = process.passed start dropped p n := by
  induction more with
  | zero => rfl
  | succ more ih =>
    rw [← Nat.add_assoc, Process.passed, tick, if_neg (by omega)]
    exact ih

/-- A process that stands where a timeline leads, with no stage over, has done what the timeline tells so far. -/
theorem Tracks.cutAt (h : process.Follows last ahead rank) (hp : process.Tracks ahead line time (time + 1) p) :
    line.CutAt time p := by
  obtain ⟨hevents, rest, rfl, hleads⟩ := hp
  have hsettled : (rest.behind p.events).isSettledAt time = (decide (rest.time ≤ time) && isAnswer rest.outcome) := rfl
  rw [Leads] at hleads
  cases hplace : p.place with
  | ended outcome ended =>
    rw [hplace] at hleads
    obtain ⟨rfl, hanswer, hended⟩ := hleads
    have hthere : (decide (ended ≤ time) && isAnswer outcome) = true := by rw [hanswer, decide_eq_true hended, Bool.and_true]
    refine ⟨fun _ => ⟨(List.append_nil _).symm, hplace, rfl⟩, fun hnot => ?_⟩
    cases (hthere.symm.trans hsettled.symm).trans hnot
  | amid stage =>
    rw [hplace] at hleads
    obtain ⟨hlater, hanswer⟩ := h.isFrom hleads.1 hleads.2
    refine ⟨fun hthere => ?_, fun _ => ⟨⟨stage, hplace⟩, rest.events, rfl, hevents, hlater⟩⟩
    rw [hsettled, Bool.and_eq_true, decide_eq_true_eq] at hthere
    have := hanswer hthere.2
    omega

/-- A process that is dropped some milliseconds after its start has done what its timeline tells up to then, however long the clock
runs on. -/
theorem Follows.cutAt {start after : Nat} (h : process.Follows (start + after) ahead rank)
    (hp : process.Tracks ahead line start start p) (hn : after ≤ n) :
    line.CutAt (start + after) (process.passed start (start + after) p n) := by
  obtain ⟨more, rfl⟩ := Nat.exists_eq_add_of_le hn
  rw [passed_of_le (Nat.le_refl _)]
  exact (h.passed hp (Nat.le_refl _)).cutAt h

end Process

end ControlPlane.Job
