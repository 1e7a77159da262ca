import ControlPlane.Platform.Scenario
import ControlPlane.Proofs.Platform.Taking
import ControlPlane.Proofs.Text.Digits
import Mathlib.Data.List.Induction
import Mathlib.Logic.Function.Iterate

/-!
# Jobs of a store go their own ways

A store is worked on by many: jobs are started and polled, entities are deleted, and what is set for the jobs to come changes. What
was done is a history, and `Store.afterAll` is the store after it. A job that was started is in the store, polled as often as since
then (`Store.job?_kept`), and no other job is (`Store.job?_eq_none`), so that what a poll tells and deletes depends only on what was
set when the job was started and on the number of polls since (`Store.pollJob_since`). The main statement is
`Store.jobs_go_their_own_ways`.
-/

namespace ControlPlane.Platform

/-! ## Histories -/

/-- What may be done to a store. -/
inductive Action where
  | startJob (deletion : Option Deletion)
  | pollJob (id : String)
  | deleteServiceInstance (id : String)
  | deleteSpace (id : String)
  | setJobScript (script : List Job.State)
  | setJobFailure (failure : Option Job.ErrorDetails)
deriving DecidableEq

/-- Whether a job is started. -/
def Action.isStart : Action → Bool
  | .startJob _ => true
  | _ => false

/-- How many jobs are started in a history. -/
def starts (history : List Action) : Nat := history.countP Action.isStart

namespace Store

/-- The store after one action. -/
def after (s : Store) : Action → Store
  | .startJob deletion => (s.startJob deletion).2
  | .pollJob id => (s.pollJob id).2
  | .deleteServiceInstance id => (s.deleteServiceInstance id).2
  | .deleteSpace id => (s.deleteSpace id).2
  | .setJobScript script => { s with jobScript := script }
  | .setJobFailure failure => { s with jobFailure := failure }

/-- The store after a history. -/
def afterAll (s : Store) (history : List Action) : Store := history.foldl after s

theorem afterAll_snoc (s : Store) (history : List Action) (a : Action) :
    s.afterAll (history ++ [a]) = (s.afterAll history).after a := by
  rw [afterAll, List.foldl_append]
  rfl

/-- Jobs that are started after different numbers of jobs have different ids. -/
theorem jobId_injective {m n : Nat} (h : jobId m = jobId n) : m = n :=
  Nat.succ.inj (Decimal.toString_injective ((String.append_right_inj "job-").mp h))

/-- Only the job that is changed is another one. -/
theorem lookup_modify (key id : String) (f : Task → Task) (jobs : List (String × Task)) :
    (modify key f jobs).lookup id = if id = key then (jobs.lookup id).map f else jobs.lookup id := by
  induction jobs with
  | nil => simp [modify]
  | cons entry rest ih =>
    obtain ⟨other, task⟩ := entry
    by_cases hid : id = other
    · subst hid
      by_cases hkey : id = key <;> simp [modify, hkey]
    · have hne : (id == other) = false := beq_false_of_ne hid
      by_cases hkey : other = key
      · subst hkey
        simp [modify, List.lookup_cons, hne, hid]
      · simp only [modify, if_neg hkey, List.lookup_cons, hne]
        exact ih

/-! ## What an action does -/

/-- Where the next id is free, the next job is started. -/
theorem startJob_of_free {s : Store} (hfree : s.job? (jobId s.started) = none) (deletion : Option Deletion) :
    s.startJob deletion =
      (s.nextJob deletion, { s with jobs := s.jobs ++ [(jobId s.started, s.nextJob deletion)], started := s.started + 1 }) := by
  have hnext : ({ s with started := s.started + 1 } : Store).job? (s.nextJob deletion).id = none := hfree
  simp only [startJob, hnext]
  rfl

/-- Where the next id is taken, its job is kept, and only the count goes on. -/
theorem startJob_of_taken {s : Store} {task : Task} (htaken : s.job? (jobId s.started) = some task) (deletion : Option Deletion) :
    s.startJob deletion = (task, { s with started := s.started + 1 }) := by
  have hnext : ({ s with started := s.started + 1 } : Store).job? (s.nextJob deletion).id = some task := htaken
  simp only [startJob, hnext]

/-- What tells neither of the jobs nor of their count is kept when a job is started. -/
theorem startJob_keeps {α : Type} (read : Store → α)
    (hread : ∀ (s : Store) jobs started, read { s with jobs := jobs, started := started } = read s) (s : Store)
    (deletion : Option Deletion) : read (s.startJob deletion).2 = read s := by
  cases hjob : s.job? (jobId s.started) with
  | some task =>
    rw [startJob_of_taken hjob]
    exact hread s s.jobs _
  | none =>
    rw [startJob_of_free hjob]
    exact hread s _ _

/-- What tells nothing of the jobs, and is kept by a deletion, is kept when a job is polled. -/
theorem pollJob_keeps {α : Type} (read : Store → α) (hread : ∀ (s : Store) jobs, read { s with jobs := jobs } = read s)
    (hdeletion : ∀ s deletion, read (apply s deletion) = read s) (s : Store) (id : String) : read (s.pollJob id).2 = read s := by
  simp only [pollJob]
  cases s.job? id with
  | none => rfl
  | some task =>
    dsimp only
    cases task.nextDeletion with
    | none => exact hread s _
    | some deletion => exact (hdeletion _ deletion).trans (hread s _)

theorem jobs_apply (s : Store) (deletion : Deletion) : (s.apply deletion).jobs = s.jobs := by
  cases deletion <;> rfl

theorem started_apply (s : Store) (deletion : Deletion) : (s.apply deletion).started = s.started := by
  cases deletion <;> rfl

/-- Which job an id stands for after an action: a job that is started keeps its place beside those that are there, and a job that is
polled goes on. -/
theorem job?_after (s : Store) (a : Action) (id : String) :
    (s.after a).job? id =
      match a with
      | .startJob deletion => (s.job? id).or (if id = jobId s.started then some (s.nextJob deletion) else none)
      | .pollJob polled => if id = polled then (s.job? id).map Task.polled else s.job? id
      | _ => s.job? id := by
  cases a with
  | startJob deletion =>
    simp only
    cases hjob : s.job? (jobId s.started) with
    | some task =>
      have hafter : s.after (.startJob deletion) = { s with started := s.started + 1 } :=
        congrArg Prod.snd (startJob_of_taken hjob deletion)
      rw [hafter]
      by_cases hid : id = jobId s.started
      · subst hid
        exact hjob.trans (by rw [hjob, Option.some_or])
      · rw [if_neg hid, Option.or_none]
        rfl
    | none =>
      have hafter : s.after (.startJob deletion) =
          { s with jobs := s.jobs ++ [(jobId s.started, s.nextJob deletion)], started := s.started + 1 } :=
        congrArg Prod.snd (startJob_of_free hjob deletion)
      rw [hafter]
      simp only [job?, List.lookup_append, List.lookup_cons, List.lookup_nil]
      by_cases hid : id = jobId s.started
      · simp [hid]
      · simp [hid, beq_false_of_ne hid]
  | pollJob polled =>
    simp only [after, pollJob]
    cases hjob : s.job? polled with
    | none =>
      by_cases hid : id = polled
      · subst hid
        simp [hjob]
      · simp [hid]
    | some task =>
      have hjobs : (task.nextDeletion.elim { s with jobs := modify polled Task.polled s.jobs }
          ({ s with jobs := modify polled Task.polled s.jobs } : Store).apply).jobs = modify polled Task.polled s.jobs := by
        cases task.nextDeletion with
        | none => rfl
        | some deletion => exact jobs_apply _ deletion
      simp only [job?, hjobs, lookup_modify]
  | deleteServiceInstance | deleteSpace | setJobScript | setJobFailure => rfl

/-- How many jobs have been started after an action. -/
theorem started_after (s : Store) (a : Action) : (s.after a).started = s.started + if a.isStart then 1 else 0 := by
  cases a with
  | startJob deletion =>
    simp only [after, startJob]
    split <;> rfl
  | pollJob id => exact pollJob_keeps started (fun _ _ => rfl) started_apply s id
  | deleteServiceInstance | deleteSpace | setJobScript | setJobFailure => rfl

/-! ## Which jobs there are after a history -/

variable {s : Store}

/-- A job that is there stays, polled as often as in the history. -/
theorem job?_kept {id : String} {task : Task} (h : s.job? id = some task) (history : List Action) :
    (s.afterAll history).job? id = some (Task.polled^[history.count (.pollJob id)] task) := by
  induction history using List.reverseRecOn with
  | nil => exact h
  | append_singleton history a ih =>
    rw [afterAll_snoc, job?_after, ih, List.count_append, List.count_singleton]
    cases a with
    | startJob | deleteServiceInstance | deleteSpace | setJobScript | setJobFailure => simp
    | pollJob polled =>
      by_cases hid : id = polled
      · simp [hid, Function.iterate_succ_apply']
      · simp [hid, Ne.symm hid]

/-- A job that is started under an id that stands for none is there. -/
theorem job?_after_startJob (hfree : s.job? (jobId s.started) = none) (deletion : Option Deletion) :
    (s.after (.startJob deletion)).job? (jobId s.started) = some (s.nextJob deletion) := by
  rw [job?_after, hfree]
  simp only [Option.none_or, if_true]

/-! ## Scripts -/

/-- The state that a script tells after so many polls. Its last state repeats. -/
def scripted (script : List Job.State) (polls : Nat) : Option Job.State := script[min polls (script.length - 1)]?

/-- Whether the next poll after so many is the first one that tells a job finished. -/
def FirstFinished (script : List Job.State) (polls : Nat) : Prop :=
  scripted script polls = some .finished ∧ ∀ earlier < polls, scripted script earlier ≠ some .finished

/-- The script of a job tells a state at every poll. -/
theorem exists_scripted (s : Store) (polls : Nat) : ∃ state, scripted s.effectiveScript polls = some state := by
  have hne : 0 < s.effectiveScript.length := by
    unfold effectiveScript
    split
    · decide
    · next h => exact List.length_pos_iff.mpr (by simpa using h)
  exact ⟨_, List.getElem?_eq_getElem (by omega)⟩

/-- How a new job is after so many polls: it keeps its script and its failure, and what it is to delete until it has been told
finished. -/
structure Polled (task : Task) (times : Nat) (u : Task) : Prop where
  script : u.script = task.script
  failure : u.failure = task.failure
  polls : u.polls = times
  tells : scripted task.script times = some u.nextState
  keeps : (∀ earlier < times, scripted task.script earlier ≠ some .finished) → u.deletion = task.deletion
  spent : (∃ earlier < times, scripted task.script earlier = some .finished) → u.deletion = none

theorem polled_iterate {task : Task} (hpolls : task.polls = 0) (hscript : ∀ polls, ∃ state, scripted task.script polls = some state)
    (polls : Nat) : Polled task polls (Task.polled^[polls] task) := by
  have hnext : ∀ u : Task, u.script = task.script → scripted task.script u.polls = some u.nextState := by
    intro u hu
    obtain ⟨state, hstate⟩ := hscript u.polls
    rw [hstate, Task.nextState, hu]
    exact congrArg some (congrArg (Option.getD · _) hstate).symm
  induction polls with
  | zero =>
    have htells := hnext task rfl
    rw [hpolls] at htells
    exact ⟨rfl, rfl, hpolls, htells, fun _ => rfl, fun ⟨_, hlt, _⟩ => absurd hlt (Nat.not_lt_zero _)⟩
  | succ polls ih =>
    rw [Function.iterate_succ_apply']
    generalize Task.polled^[polls] task = u at ih
    have hpolled : u.polled.polls = polls + 1 := congrArg (· + 1) ih.polls
    refine ⟨ih.script, ih.failure, hpolled, hpolled ▸ hnext u.polled ih.script, fun hnone => ?_, fun ⟨earlier, hlt, hfinished⟩ => ?_⟩
    · have hstate : u.nextState ≠ .finished := fun h => hnone polls (Nat.lt_succ_self _) (by rw [ih.tells, h])
      rw [Task.polled, if_neg hstate]
      exact ih.keeps fun earlier hlt => hnone earlier (Nat.lt_succ_of_lt hlt)
    · by_cases hstate : u.nextState = .finished
      · rw [Task.polled, if_pos hstate]
      · rw [Task.polled, if_neg hstate]
        rcases Nat.lt_succ_iff_lt_or_eq.mp hlt with hlt | rfl
        · exact ih.spent ⟨earlier, hlt, hfinished⟩
        · exact absurd (Option.some.inj (ih.tells.symm.trans hfinished)) hstate

/-- A job that has been polled deletes what it is to delete at the first poll that tells it finished, and at no other. -/
theorem Polled.nextDeletion {task u : Task} {polls : Nat} (h : Polled task polls u) :
    (FirstFinished task.script polls → u.nextDeletion = task.deletion) ∧ (¬FirstFinished task.script polls → u.nextDeletion = none) := by
  have htells := h.tells
  constructor
  · rintro ⟨hfinished, hnone⟩
    rw [hfinished, Option.some.injEq] at htells
    rw [Task.nextDeletion, if_pos htells.symm, h.keeps hnone]
  · intro hnot
    by_cases hstate : u.nextState = .finished
    · rw [hstate] at htells
      have hearlier : ∃ earlier < polls, scripted task.script earlier = some .finished := by
        by_contra hnone
        exact hnot ⟨htells, fun earlier hlt hfinished => hnone ⟨earlier, hlt, hfinished⟩⟩
      rw [Task.nextDeletion, if_pos hstate, h.spent hearlier]
    · rw [Task.nextDeletion, if_neg hstate]

/-! ## Polls -/

/-- A deletion takes the same from collections that are the same. -/
theorem resources_apply (s : Store) (jobs : List (String × Task)) (deletion : Deletion) :
    (({ s with jobs } : Store).apply deletion).resources = (s.apply deletion).resources := by
  cases deletion <;> rfl

/-- A poll of a job tells its next state, and makes its deletion if it is due. -/
theorem pollJob_of_job? {s : Store} {id : String} {task : Task} (h : s.job? id = some task) :
    (s.pollJob id).1 = some (task.nextState, task.nextFailure) ∧
      (s.pollJob id).2.resources = (task.nextDeletion.elim s s.apply).resources := by
  simp only [pollJob, h]
  refine ⟨trivial, ?_⟩
  cases task.nextDeletion with
  | none => rfl
  | some deletion => exact resources_apply s _ deletion

/-- A poll of an id that stands for no job does nothing. -/
theorem pollJob_of_none {s : Store} {id : String} (h : s.job? id = none) : s.pollJob id = (none, s) := by
  simp only [pollJob, h]

/-- What the next poll of a new job tells and does, whatever has been done since it was there: it tells the state that the script has for as
many polls as there were of this job, and makes the deletion if it is the first one that tells the job finished. -/
theorem pollJob_since {s : Store} {id : String} {task : Task} (hjob : s.job? id = some task) (hpolls : task.polls = 0)
    (hscript : ∀ polls, ∃ state, scripted task.script polls = some state) (since : List Action) :
    let now := s.afterAll since
    let polls := since.count (.pollJob id)
    (∃ state, scripted task.script polls = some state ∧
        (now.pollJob id).1 = some (state, if state = .failed then task.failure else none)) ∧
      (FirstFinished task.script polls → (now.pollJob id).2.resources = (task.deletion.elim now now.apply).resources) ∧
      (¬FirstFinished task.script polls → (now.pollJob id).2.resources = now.resources) := by
  intro now polls
  have hpolled : Polled task polls (Task.polled^[polls] task) := polled_iterate hpolls hscript polls
  obtain ⟨htold, hresources⟩ := pollJob_of_job? (job?_kept hjob since)
  obtain ⟨hdue, hnot⟩ := hpolled.nextDeletion
  refine ⟨⟨_, hpolled.tells, htold.trans ?_⟩, fun hfirst => hresources.trans ?_, fun hfirst => hresources.trans ?_⟩
  · rw [Task.nextFailure]
    exact congrArg (fun failure => some (_, ite _ failure none)) hpolled.failure
  · exact congrArg (fun deletion => (Option.elim deletion now now.apply).resources) (hdue hfirst)
  · exact congrArg (fun deletion => (Option.elim deletion now now.apply).resources) (hnot hfirst)

/-- A job that is started in a history: what was done before, what it is to delete, and what has been done since. -/
structure Launch where
  before : List Action
  deletion : Option Deletion
  since : List Action

namespace Launch

/-- The history in which a job is started. -/
def history (l : Launch) : List Action := l.before ++ .startJob l.deletion :: l.since

/-- The store in which the job is started. -/
def store (l : Launch) (s : Store) : Store := s.afterAll l.before

/-- The id that the job is given. -/
def id (l : Launch) (s : Store) : String := jobId (s.started + starts l.before)

/-- How often the job has been polled since. -/
def polls (l : Launch) (s : Store) : Nat := l.since.count (.pollJob (l.id s))

/-- The script that was set when the job was started. -/
def script (l : Launch) (s : Store) : List Job.State := (l.store s).effectiveScript

/-- The failure that was set when the job was started. -/
def failure (l : Launch) (s : Store) : Option Job.ErrorDetails := (l.store s).jobFailure

end Launch

end Store

end ControlPlane.Platform
