import ControlPlane.Platform.Scenario
import ControlPlane.Proofs.Platform.Effects

/-!
# Jobs that are started

A store gives each job that is started the id of its number. An id that stands for a job already keeps that job: then no job is started,
and what the new one was to delete is forgotten, although the request for it is accepted. So a job is started just if its id is free
(`Store.startsAnew_iff`). Whatever happens to a store, the id of the next job is taken only where a job was there under it at first, or was
put there by hand (`Store.job?_ahead`). The main statement is `Store.jobs_start_anew`.
-/

namespace ControlPlane.Platform

namespace Store

/-! ## One job -/

/-- Whether a job was started: under an id that stood for none, not polled yet, with the deletion that was asked for and the script and the
failure that are set for the jobs to come. It is in the store then, and every other job is as it was. -/
structure StartsAnew (s : Store) (deletion : Option Deletion) (task : Task) (now : Store) : Prop where
  isNew : s.job? task.id = none
  polls : task.polls = 0
  deletes : task.deletion = deletion
  script : s.jobScript ≠ [] → task.script = s.jobScript
  unscripted : s.jobScript = [] → task.script = [.queued, .running, .finished]
  failure : task.failure = s.jobFailure
  kept : now.job? task.id = some task
  others : ∀ id, id ≠ task.id → now.job? id = s.job? id

variable {s : Store}

/-- A job is started just if the next id is free. -/
theorem startsAnew_iff (s : Store) (deletion : Option Deletion) :
    s.StartsAnew deletion (s.startJob deletion).1 (s.startJob deletion).2 ↔ s.job? (jobId s.started) = none := by
  constructor
  · intro h
    cases htaken : s.job? (jobId s.started) with
    | none => rfl
    | some task =>
      -- The jobs are the same as before, so that none is new among them.
      rw [startJob_of_taken htaken] at h
      exact absurd (h.isNew.symm.trans h.kept) nofun
  · intro hfree
    have hafter : s.after (.startJob deletion) = (s.startJob deletion).2 := rfl
    have hkept := job?_after_startJob hfree deletion
    have hothers : ∀ id, id ≠ jobId s.started → (s.after (.startJob deletion)).job? id = s.job? id := by
      intro id hid
      rw [job?_after]
      simp only [if_neg hid, Option.or_none]
    rw [hafter, startJob_of_free hfree] at hkept hothers
    rw [startJob_of_free hfree]
    refine ⟨hfree, rfl, rfl, ?_, ?_, rfl, hkept, hothers⟩
    · intro hscript
      exact if_neg (by simpa using hscript)
    · intro hnone
      exact if_pos (by simpa using hnone)

end Store

/-! ## What happens to a store -/

/-- What may happen to a store: something is done to it, a request comes, or a job is put into it by hand. -/
inductive Event where
  | action (a : Action)
  | request (a : Arrival)
  | putJob (task : Task)

namespace Store

/-- The store after an event. -/
def afterEvent (s : Store) : Event → Store
  | .action a => s.after a
  | .request a => (respond s a).2
  | .putJob task => s.putJob task

/-- The store after events. -/
def afterEvents (s : Store) (events : List Event) : Store := events.foldl afterEvent s

variable {s : Store}

theorem afterEvents_snoc (s : Store) (events : List Event) (e : Event) :
    s.afterEvents (events ++ [e]) = (s.afterEvents events).afterEvent e := by
  rw [afterEvents, List.foldl_append]
  rfl

/-- A job that is put by hand stands under its id, in place of the one that stood there. -/
theorem job?_putJob (s : Store) (task : Task) (id : String) :
    (s.putJob task).job? id = if id = task.id then some task else s.job? id := by
  unfold putJob
  cases hjob : s.job? task.id with
  | some earlier =>
    simp only [Option.isSome_some, if_true, job?, lookup_modify]
    by_cases hid : id = task.id
    · subst hid
      rw [if_pos rfl, if_pos rfl, show s.jobs.lookup task.id = some earlier from hjob, Option.map_some]
    · rw [if_neg hid, if_neg hid]
  | none =>
    simp only [Option.isSome_none, Bool.false_eq_true, if_false, job?, List.lookup_append, List.lookup_cons, List.lookup_nil]
    by_cases hid : id = task.id
    · subst hid
      rw [if_pos rfl, show s.jobs.lookup task.id = none from hjob, Option.none_or, beq_self_eq_true]
    · rw [if_neg hid, beq_false_of_ne hid, Option.or_none]

/-- The count of the jobs started never goes back. -/
theorem started_le_afterEvent (s : Store) (e : Event) : s.started ≤ (s.afterEvent e).started := by
  have haction : ∀ a, s.started ≤ (s.after a).started := by
    intro a
    rw [started_after]
    exact Nat.le_add_right _ _
  cases e with
  | action a => exact haction a
  | request a =>
    rcases respond_acts s a with hsame | ⟨action, hafter⟩
    · rw [afterEvent, hsame]
    · rw [afterEvent, hafter]
      exact haction action
  | putJob task => exact Nat.le_refl s.started

/-- An id that is still to come is not taken by an action. -/
theorem job?_after_ahead (a : Action) {n : Nat} (hn : (s.after a).started ≤ n) :
    (s.after a).job? (jobId n) = none ↔ s.job? (jobId n) = none := by
  rw [job?_after]
  cases a with
  | startJob deletion =>
    have hnext : n ≠ s.started := by
      rintro rfl
      rw [started_after, Action.isStart, if_pos rfl] at hn
      exact Nat.not_succ_le_self _ hn
    simp only
    rw [if_neg (mt jobId_injective hnext), Option.or_none]
  | pollJob polled =>
    simp only
    split
    · exact Option.map_eq_none_iff
    · exact Iff.rfl
  | deleteServiceInstance | deleteSpace | setJobScript | setJobFailure => exact Iff.rfl

/-- An id that is still to come is taken by an event only where a job is put under it by hand. -/
theorem job?_afterEvent_ahead (e : Event) {n : Nat} (hn : (s.afterEvent e).started ≤ n) :
    (s.afterEvent e).job? (jobId n) = none ↔ s.job? (jobId n) = none ∧ ∀ task, e = .putJob task → task.id ≠ jobId n := by
  cases e with
  | action a =>
    rw [and_iff_left nofun]
    exact job?_after_ahead a hn
  | request a =>
    rw [and_iff_left nofun]
    rcases respond_acts s a with hsame | ⟨action, hafter⟩
    · rw [afterEvent, hsame]
    · rw [afterEvent, hafter] at hn ⊢
      exact job?_after_ahead action hn
  | putJob task =>
    rw [afterEvent, job?_putJob]
    by_cases hid : jobId n = task.id
    · rw [if_pos hid]
      refine iff_of_false nofun ?_
      rintro ⟨-, hother⟩
      exact hother task rfl hid.symm
    · rw [if_neg hid]
      refine (and_iff_left ?_).symm
      rintro _ ⟨⟩
      exact Ne.symm hid

/-- Whatever happens to a store, an id that is still to come is free, unless a job was there under it at first, or was put there by
hand. -/
theorem job?_ahead (events : List Event) {n : Nat} (hn : (s.afterEvents events).started ≤ n) :
    (s.afterEvents events).job? (jobId n) = none ↔
      s.job? (jobId n) = none ∧ ∀ task, .putJob task ∈ events → task.id ≠ jobId n := by
  -- The count does not go back, so that the id is still to come at every event.
  induction events using List.reverseRecOn with
  | nil => exact (and_iff_left nofun).symm
  | append_singleton events e ih =>
    rw [afterEvents_snoc] at hn ⊢
    rw [job?_afterEvent_ahead e hn, ih (Nat.le_trans (started_le_afterEvent _ e) hn), and_assoc]
    refine and_congr_right fun _ => ?_
    simp only [List.mem_append, List.mem_singleton]
    constructor
    · rintro ⟨hearlier, hlast⟩ task (hput | hput)
      · exact hearlier task hput
      · exact hlast task hput.symm
    · intro hall
      exact ⟨fun task hput => hall task (Or.inl hput), fun task hput => hall task (Or.inr hput.symm)⟩

/-! ## Jobs that start anew -/

/-- Whether a deletion is made by the job of an id with a script, whatever is done to the store in the meantime: at the first poll that
tells the job finished, and at no other. -/
structure MakesByJob (s : Store) (d : Deletion) (id : String) (script : List Job.State) : Prop where
  due : ∀ since, FirstFinished script (since.count (.pollJob id)) →
    ((s.afterAll since).pollJob id).1 = some (.finished, none) ∧
      ((s.afterAll since).pollJob id).2.resources = ((s.afterAll since).apply d).resources
  undue : ∀ since, ¬FirstFinished script (since.count (.pollJob id)) →
    ((s.afterAll since).pollJob id).2.resources = (s.afterAll since).resources

/-- What a job that was started is to delete is deleted by it. -/
theorem StartsAnew.makesByJob {d : Deletion} {task : Task} {now : Store} (h : s.StartsAnew (some d) task now) :
    now.MakesByJob d task.id task.script := by
  have hscript : task.script = s.effectiveScript := by
    by_cases hnone : s.jobScript = []
    · rw [h.unscripted hnone, effectiveScript, hnone]
      rfl
    · rw [h.script hnone, effectiveScript, if_neg (by simpa using hnone)]
  have hpoll := pollJob_since h.kept h.polls (by rw [hscript]; exact exists_scripted s)
  constructor
  · intro since hfirst
    obtain ⟨⟨state, hstate, htold⟩, hdeletes, -⟩ := hpoll since
    rw [hfirst.1, Option.some.injEq] at hstate
    subst hstate
    refine ⟨htold, (hdeletes hfirst).trans ?_⟩
    rw [h.deletes, Option.elim_some]
  · intro since hfirst
    exact (hpoll since).2.2 hfirst

/-- A job is started just if its id is free, whatever has happened to the store before; and it is free unless a job was there under it at
first, or was put there by hand. Where it is not, nothing is started, and only the count goes on. So a request for a deletion that is
accepted has it made, by the job that the response names, where that id is free. Where it is not, the response names the job that is there,
and the deletion is forgotten. -/
theorem jobs_start_anew (s : Store) (events : List Event) :
    let now := s.afterEvents events
    let id := jobId now.started
    (now.job? id = none ↔ s.job? id = none ∧ ∀ task, .putJob task ∈ events → task.id ≠ id) ∧
      (∀ deletion, now.StartsAnew deletion (now.startJob deletion).1 (now.startJob deletion).2 ↔ now.job? id = none) ∧
      (∀ deletion task, now.job? id = some task → now.startJob deletion = (task, { now with started := now.started + 1 })) ∧
      ∀ a, (respond now a).1.status = 202 → ∃ d, a.AsksFor d ∧
        (now.job? id = none → (respond now a).1 = accepted id ∧ (respond now a).2.MakesByJob d id now.effectiveScript) ∧
        ∀ task, now.job? id = some task → respond now a = (accepted task.id, { now with started := now.started + 1 }) := by
  intro now id
  refine ⟨job?_ahead events (Nat.le_refl _), startsAnew_iff now, fun deletion task htaken => startJob_of_taken htaken deletion, ?_⟩
  intro a ha
  obtain ⟨d, hd, hrespond⟩ := respond_of_accepted ha
  refine ⟨d, hd, ?_, ?_⟩
  · intro hfree
    have hmakes := ((startsAnew_iff now (some d)).mpr hfree).makesByJob
    rw [startJob_of_free hfree] at hrespond hmakes
    rw [hrespond]
    exact ⟨rfl, hmakes⟩
  · intro task htaken
    rw [hrespond, startJob_of_taken htaken]

/-- A job that is put in by hand under another number is not in the way: the deletion of a service instance that is accepted after it is
made by the third poll, which by the default script tells the job finished. -/
theorem jobs_start_anew_numbered :
    let asks (path : String) : Arrival := { method := .delete, path, query := some "async=true" }
    let events : List Event := [.putJob ⟨"job-7", [.finished], 0, none, none⟩, .request (asks "/v2/spaces/space-1")]
    let now := Scenario.standard.afterEvents events
    let later := (respond now (asks "/v2/service_instances/si-3")).2.afterAll [.pollJob "job-2", .pollJob "job-7", .pollJob "job-2"]
    now.job? "job-2" = none ∧ (respond now (asks "/v2/service_instances/si-3")).1 = accepted "job-2" ∧
      (later.pollJob "job-2").1 = some (.finished, none) ∧
      (later.pollJob "job-2").2.resources = (later.deleteServiceInstance "si-3").2.resources := by
  intro asks events now later
  obtain ⟨hfree, -, -, hresponds⟩ := jobs_start_anew Scenario.standard events
  have hid : jobId now.started = "job-2" := by decide +kernel
  have hscript : now.effectiveScript = [.queued, .running, .finished] := by decide +kernel
  have hjob : now.job? (jobId now.started) = none := by
    refine hfree.mpr ⟨rfl, ?_⟩
    simp [events, now, hid]
  obtain ⟨d, ⟨route, hrouted, hroute⟩, hmade, -⟩ := hresponds (asks "/v2/service_instances/si-3") (by decide +kernel)
  have hleads : routed (asks "/v2/service_instances/si-3") = .ok (.serviceInstance "si-3") := by decide +kernel
  obtain rfl := Except.ok.inj (hleads.symm.trans hrouted)
  obtain rfl := Option.some.inj hroute
  obtain ⟨hresponse, hmakes⟩ := hmade hjob
  obtain ⟨htold, hdeleted⟩ := hmakes.due [.pollJob "job-2", .pollJob "job-7", .pollJob "job-2"] (by
    rw [hid, hscript]
    exact ⟨rfl, by decide⟩)
  rw [hid] at hjob hresponse htold hdeleted
  exact ⟨hjob, hresponse, htold, hdeleted⟩

/-- Where a job stands under the id of the next one, none is started. The request for a deletion is accepted all the same, and the job that
the response names is told finished; but what was to be deleted is still there. -/
theorem not_startsAnew :
    let s := Scenario.standard.putJob ⟨"job-1", [.finished], 0, none, none⟩
    let deletion : Arrival := { method := .delete, path := "/v2/spaces/space-1", query := some "async=true" }
    let done := (respond s deletion).2.pollJob "job-1"
    ¬s.StartsAnew (some (.space "space-1")) (s.startJob (some (.space "space-1"))).1 (s.startJob (some (.space "space-1"))).2 ∧
      (respond s deletion).1 = accepted "job-1" ∧ done.1 = some (.finished, none) ∧ (done.2.space? "space-1").isSome = true := by
  intro s deletion done
  have htaken : s.job? (jobId s.started) = some ⟨"job-1", [.finished], 0, none, none⟩ := by decide +kernel
  obtain ⟨d, -, hrespond⟩ := respond_of_accepted (s := s) (a := deletion) (by decide +kernel)
  rw [startJob_of_taken htaken] at hrespond
  refine ⟨?_, congrArg Prod.fst hrespond, ?_, ?_⟩
  · rw [startsAnew_iff, htaken]
    exact nofun
  · simp only [done, hrespond]
    decide +kernel
  · simp only [done, hrespond]
    decide +kernel

end Store

end ControlPlane.Platform
