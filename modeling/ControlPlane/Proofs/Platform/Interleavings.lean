import ControlPlane.Proofs.Platform.Removals

/-!
# The order of polls and deletions does not matter

Clients that poll their jobs and delete entities take steps on one store, one after the other, in whatever order they come. Two steps
of different kinds, or on different ids, do not see each other (`Store.deletion?_after`), so that they can be exchanged
(`Store.after_after_comm`). The main statement is `Store.afterAll_perm`: the same steps in any order lead to the same store, and make
the same deletions, each of a job at most once.
-/

namespace ControlPlane.Platform

/-- Whether an action is a step of a client that deletes: a poll or a deletion. -/
def Action.isStep : Action → Bool
  | .pollJob _ | .deleteServiceInstance _ | .deleteSpace _ => true
  | .startJob _ | .setJobScript _ | .setJobFailure _ => false

/-- The jobs after a step: a poll takes one of them further. -/
def Action.progress : Action → List (String × Task) → List (String × Task)
  | .pollJob id, jobs => Store.modify id Task.polled jobs
  | _, jobs => jobs

namespace Store

variable {s : Store} {a b : Action} {id : String}

/-! ## One step -/

/-- Where there is no job of an id, none is changed. -/
theorem modify_of_lookup {jobs : List (String × Task)} (h : jobs.lookup id = none) (f : Task → Task) : modify id f jobs = jobs := by
  induction jobs with
  | nil => rfl
  | cons entry rest ih =>
    obtain ⟨key, task⟩ := entry
    by_cases hid : id = key
    · simp [hid] at h
    · rw [List.lookup_cons, beq_false_of_ne hid] at h
      rw [modify, if_neg (Ne.symm hid), ih h]

/-- Changes of different jobs, or the same changes, can be exchanged. -/
theorem modify_modify_comm (id other : String) (f : Task → Task) (jobs : List (String × Task)) :
    modify id f (modify other f jobs) = modify other f (modify id f jobs) := by
  induction jobs with
  | nil => rfl
  | cons entry rest ih =>
    obtain ⟨key, task⟩ := entry
    by_cases hid : key = id
    · subst hid
      by_cases hother : key = other
      · rw [hother]
      · simp only [modify, if_true, if_neg hother]
    · by_cases hother : key = other
      · subst hother
        simp only [modify, if_true, if_neg hid]
      · simp only [modify, if_neg hid, if_neg hother, ih]

theorem progress_comm (a b : Action) (jobs : List (String × Task)) : a.progress (b.progress jobs) = b.progress (a.progress jobs) := by
  cases a with
  | pollJob id =>
    cases b with
    | pollJob other => exact modify_modify_comm id other Task.polled jobs
    | _ => rfl
  | _ => rfl

/-- A step takes its job further, and makes its deletion. -/
theorem after_step (ha : a.isStep = true) (s : Store) :
    s.after a = ({ s with jobs := a.progress s.jobs } : Store).without (s.deletion? a).toList := by
  cases a with
  | startJob | setJobScript | setJobFailure => cases ha
  | deleteServiceInstance id => exact apply_eq_without s (.serviceInstance id)
  | deleteSpace id => exact apply_eq_without s (.space id)
  | pollJob id =>
    rw [deletion?, after]
    cases hjob : s.job? id with
    | none =>
      rw [pollJob_of_none hjob, Option.bind_none, Option.toList_none, without_nil, Action.progress, modify_of_lookup hjob]
    | some task =>
      simp only [pollJob, hjob, Option.bind_some]
      exact elim_apply_eq_without _ task.nextDeletion

/-- The job of an id after a step. -/
theorem job?_after_step (ha : a.isStep = true) (s : Store) (id : String) :
    (s.after a).job? id = if a = .pollJob id then (s.job? id).map Task.polled else s.job? id := by
  rw [job?_after]
  cases a with
  | startJob | setJobScript | setJobFailure => cases ha
  | pollJob polled => simp only [Action.pollJob.injEq, eq_comm]
  | deleteServiceInstance | deleteSpace => rfl

/-! ## Two steps -/

/-- What a step deletes does not depend on another step before it. -/
theorem deletion?_after (ha : a.isStep = true) (hne : a ≠ b) (s : Store) : (s.after a).deletion? b = s.deletion? b := by
  cases b with
  | pollJob id => rw [deletion?, deletion?, job?_after_step ha, if_neg hne]
  | _ => rfl

theorem without_comm (s : Store) (ds es : List Deletion) : (s.without ds).without es = (s.without es).without ds := by
  simp only [without, List.filter_filter, Bool.and_comm]

/-- Two steps can be exchanged. -/
theorem after_after_comm (ha : a.isStep = true) (hb : b.isStep = true) (s : Store) : (s.after a).after b = (s.after b).after a := by
  by_cases hab : a = b
  · rw [hab]
  · -- Each step makes the deletion that it would make alone, so that both change the jobs, and then take what they take.
    have hafter : ∀ {a b : Action}, a.isStep = true → b.isStep = true → a ≠ b → (s.after a).after b =
        (({ s with jobs := b.progress (a.progress s.jobs) } : Store).without (s.deletion? a).toList).without
          (s.deletion? b).toList := by
      intro a b ha hb hne
      rw [after_step hb, deletion?_after ha hne, after_step ha]
      rfl
    rw [hafter ha hb hab, hafter hb ha (Ne.symm hab), progress_comm, without_comm]

/-! ## Steps in any order -/

/-- Steps in another order make the same deletions. -/
theorem deletions_perm {history other : List Action} (h : history.Perm other) (hsteps : ∀ a ∈ history, a.isStep = true) (s : Store) :
    (s.deletions history).Perm (s.deletions other) := by
  induction h generalizing s with
  | nil => exact .refl _
  | cons a _ ih => exact (ih (fun b hb => hsteps b (List.mem_cons_of_mem a hb)) (s.after a)).append_left _
  | swap a b rest =>
    have hb : b.isStep = true := hsteps b List.mem_cons_self
    have ha : a.isStep = true := hsteps a (List.mem_cons_of_mem b List.mem_cons_self)
    by_cases hab : a = b
    · rw [hab]
    · simp only [deletions, deletion?_after ha hab, deletion?_after hb (Ne.symm hab), after_after_comm ha hb, ← List.append_assoc]
      exact List.perm_append_comm.append_right _
  | trans first _ ih ih' => exact (ih hsteps s).trans (ih' (fun a ha => hsteps a (first.mem_iff.mpr ha)) s)

/-! ## Deletions of one job -/

/-- Steps make the deletion of a job where a poll among them tells the job finished, and otherwise do not. -/
theorem mem_deletions_of_job {history : List Action} (hsteps : ∀ a ∈ history, a.isStep = true) {task : Task}
    (hjob : s.job? id = some task) (d : Deletion) :
    (.pollJob id, d) ∈ s.deletions history ↔
      task.deletion = some d ∧ ∃ polls < history.count (.pollJob id), (Task.polled^[polls] task).nextState = .finished := by
  induction history generalizing s task with
  | nil => simp [deletions]
  | cons a rest ih =>
    have ha : a.isStep = true := hsteps a List.mem_cons_self
    have hrest := fun b hb => hsteps b (List.mem_cons_of_mem a hb)
    have hafter := job?_after_step ha s id
    rw [deletions, List.mem_append]
    by_cases hpoll : a = .pollJob id
    · subst hpoll
      rw [if_pos rfl, hjob] at hafter
      rw [ih hrest hafter, deletion?, hjob, Option.bind_some, List.count_cons_self, Nat.exists_lt_succ_left]
      simp only [Function.iterate_zero_apply, Function.iterate_succ_apply, Task.nextDeletion, Task.polled]
      -- The poll that tells the job finished makes the deletion, and leaves none to be made.
      by_cases hfinished : task.nextState = .finished <;> simp [hfinished]
    · rw [if_neg hpoll] at hafter
      rw [ih hrest (hafter.trans hjob), List.count_cons_of_ne hpoll, or_iff_right]
      simp only [Option.mem_toList, Option.map_eq_some_iff, Prod.mk.injEq]
      rintro ⟨_, -, heq, -⟩
      exact hpoll heq

/-- Steps make the deletion of a job at most once. -/
theorem countP_deletions_le {history : List Action} (hsteps : ∀ a ∈ history, a.isStep = true) (s : Store) (id : String) :
    (s.deletions history).countP (·.1 == .pollJob id) ≤ 1 := by
  induction history generalizing s with
  | nil => exact Nat.zero_le 1
  | cons a rest ih =>
    have ha : a.isStep = true := hsteps a List.mem_cons_self
    have hrest := fun b hb => hsteps b (List.mem_cons_of_mem a hb)
    rw [deletions, List.countP_append]
    cases hd : s.deletion? a with
    | none => simpa using ih hrest (s.after a)
    | some d =>
      by_cases hpoll : a = .pollJob id
      · subst hpoll
        obtain ⟨task, hjob, hnext⟩ := Option.bind_eq_some_iff.mp hd
        rw [Task.nextDeletion, Option.ite_none_right_eq_some] at hnext
        have hafter := job?_after_step ha s id
        rw [if_pos rfl, hjob] at hafter
        have hspent : ((s.after (.pollJob id)).deletions rest).countP (·.1 == .pollJob id) = 0 := by
          refine List.countP_eq_zero.mpr ?_
          rintro ⟨b, e⟩ hmade hb
          obtain rfl := beq_iff_eq.mp hb
          have hpending := ((mem_deletions_of_job hrest hafter e).mp hmade).1
          simp [Task.polled, hnext.1] at hpending
        rw [hspent, Option.map_some, Option.toList_some, List.countP_singleton]
        split <;> decide
      · simpa [hpoll] using ih hrest (s.after a)

/-! ## Any order -/

/-- Polls and deletions lead to the same store in whatever order they come, with the same collections and the same jobs, and make the
same deletions, so that the collections lose what these take. No deletion is lost or repeated where several clients take their steps on
one store: that of a job is made once where so many polls tell the job finished, and otherwise not at all. -/
theorem afterAll_perm {s : Store} {history other : List Action} (h : history.Perm other)
    (hsteps : ∀ a ∈ history, a.isStep = true) :
    s.afterAll other = s.afterAll history ∧ (s.deletions other).Perm (s.deletions history) ∧
      (s.afterAll other).resources = (s.without ((s.deletions other).map Prod.snd)).resources ∧
      ∀ id, (s.deletions other).countP (·.1 == .pollJob id) ≤ 1 ∧
        ∀ task, s.job? id = some task → ∀ d, (.pollJob id, d) ∈ s.deletions other ↔
          task.deletion = some d ∧ ∃ polls < history.count (.pollJob id), (Task.polled^[polls] task).nextState = .finished := by
  have hsteps' : ∀ a ∈ other, a.isStep = true := fun a ha => hsteps a (h.mem_iff.mpr ha)
  refine ⟨?_, (deletions_perm h hsteps s).symm, resources_afterAll s other,
    fun id => ⟨countP_deletions_le hsteps' s id, fun task hjob d => ?_⟩⟩
  · exact (h.foldl_eq' (fun a ha b hb t => after_after_comm (hsteps a ha) (hsteps b hb) t) s).symm
  · rw [h.count_eq]
    exact mem_deletions_of_job hsteps' hjob d

/-- Two clients wait for the deletions of a space and of a service instance in it, while a third one deletes another service instance.
Whether they take turns, or the second one is done before the first one begins, both deletions are made. -/
theorem afterAll_perm_standard :
    let s := Scenario.standard.afterAll [.startJob (some (.space "space-2")), .startJob (some (.serviceInstance "si-3"))]
    let turns : List Action :=
      [.pollJob "job-1", .pollJob "job-2", .pollJob "job-1", .deleteServiceInstance "si-1", .pollJob "job-2", .pollJob "job-1",
        .pollJob "job-2"]
    let other : List Action :=
      [.pollJob "job-2", .pollJob "job-2", .pollJob "job-2", .pollJob "job-1", .pollJob "job-1", .pollJob "job-1",
        .deleteServiceInstance "si-1"]
    turns.Perm other ∧ (∀ a ∈ turns, a.isStep = true) ∧ s.afterAll other = s.afterAll turns ∧
      (.pollJob "job-1", .space "space-2") ∈ s.deletions other ∧
      (.pollJob "job-2", .serviceInstance "si-3") ∈ s.deletions other := by
  intro s turns other
  have hperm : turns.Perm other := by decide +kernel
  have hsteps : ∀ a ∈ turns, a.isStep = true := by decide
  obtain ⟨hsame, -, -, hjobs⟩ := afterAll_perm hperm hsteps
  have hfirst : s.job? "job-1" = some ⟨"job-1", defaultScript, 0, none, some (.space "space-2")⟩ := by decide +kernel
  have hsecond : s.job? "job-2" = some ⟨"job-2", defaultScript, 0, none, some (.serviceInstance "si-3")⟩ := by decide +kernel
  refine ⟨hperm, hsteps, hsame, ?_, ?_⟩
  · exact ((hjobs "job-1").2 _ hfirst _).mpr ⟨rfl, 2, by decide, rfl⟩
  · exact ((hjobs "job-2").2 _ hsecond _).mpr ⟨rfl, 2, by decide, rfl⟩

end Store

end ControlPlane.Platform
