import ControlPlane.Proofs.Exchange.Course
import ControlPlane.Proofs.Platform.Routes

/-!
# A job of a platform is waited for

A platform that accepts a deletion starts a job, which follows the script of the store: each poll tells the next state, and the first
poll that tells the job finished makes the deletion. A client that waits without a time limit polls the job up to the first state in
which it is done (`Platform.awaits_job`).
-/

namespace ControlPlane

open Platform

/-! ## Reports -/

namespace Platform

variable (id : String) (state : Job.State) (failure : Option Job.ErrorDetails)

/-- A job is read from the response that reports on it. -/
theorem decode_job (status : UInt16) :
    (jsonResponse status (jobJson .v2 id state failure)).decode (Resource.decoder Job.Entity.decoder) =
      .ok (jobResource id state failure) := by
  have hread := Resource.decoder_reads (jobResource id state failure) (Job.Entity.decoder_reads _) (by decide) nofun nofun
  exact decode_jsonResponse (hread.run (by decide)) status

/-- The status of a job is read from the report on it. -/
theorem statusOf_job :
    Client.statusOf .v2 (jsonResponse 200 (jobJson .v2 id state failure)) =
      .ok ⟨state, failure.map Job.ErrorDetails.toError⟩ := by
  rw [Client.statusOf, decode_job]
  rfl

/-- A deletion is accepted as the job that the response reports on. -/
theorem deletionOf_job :
    Client.deletionOf (jsonResponse 202 (jobJson .v2 id state failure)) = .ok (.accepted { id }) := by
  have hlocation : (jsonResponse 202 (jobJson .v2 id state failure)).headerText? "location" = none := by
    have hname : ("content-type".toLower == "location") = false := by decide +kernel
    simp only [Http.Response.headerText?, Http.Response.header?, jsonResponse, List.find?, hname, Option.map_none, Option.bind_none]
  have hjob : Client.acceptedJob (jsonResponse 202 (jobJson .v2 id state failure)) = .ok { id } := by
    rw [Client.acceptedJob, hlocation, decode_job]
    rfl
  rw [Client.deletionOf, if_pos (show (jsonResponse 202 _).status = Client.acceptedStatus from rfl), hjob]
  rfl

/-! ## A store with one job -/

namespace Store

/-- A store after its first job has been started, with the job as it is now. -/
def withJob (s : Store) (task : Task) : Store := { s with jobs := [(task.id, task)], started := s.started + 1 }

/-- The id of a job can stand in a path. -/
theorem isScope_jobId (started : Nat) : IsScope (jobId started) := by
  have hhead : (jobId started).toList.head? = some 'j' := by
    rw [jobId, String.toList_append]
    rfl
  refine ⟨?_, ?_, ?_⟩ <;> intro h <;> rw [h] at hhead <;> cases hhead

/-- A store without jobs starts its first one. -/
theorem startJob_first {s : Store} (h : s.jobs = []) (deletion : Option Deletion) :
    s.startJob deletion = (s.nextJob deletion, s.withJob (s.nextJob deletion)) := by
  simp only [startJob, job?, h, List.lookup_nil, List.nil_append, withJob]

/-- A deletion leaves the job of a store as it is. -/
theorem apply_withJob (s : Store) (task : Task) (deletion : Deletion) :
    (s.withJob task).apply deletion = (s.apply deletion).withJob task := by
  cases deletion <;> rfl

/-- A poll of the one job tells its next state. -/
theorem pollJob_withJob (s : Store) (task : Task) :
    (s.withJob task).pollJob task.id =
      (some (task.nextState, task.nextFailure), (task.nextDeletion.elim s s.apply).withJob task.polled) := by
  have hjob : (s.withJob task).job? task.id = some task := by
    simp only [job?, withJob, List.lookup_cons_self]
  have hmodify : ({ s.withJob task with jobs := modify task.id Task.polled (s.withJob task).jobs } : Store) =
      s.withJob task.polled := by
    simp only [withJob, modify, if_true]
    rfl
  simp only [pollJob, hjob, hmodify]
  cases task.nextDeletion with
  | none => rfl
  | some deletion => simp only [Option.elim_some, apply_withJob]

end Store

/-- What a job tells next, where it has gone through the first part of its script. -/
theorem Task.nextState_of_script {task : Task} {done more : List Job.State} {state : Job.State}
    (hscript : task.script = done ++ state :: more) (hpolls : task.polls = done.length) : task.nextState = state := by
  have hmin : min done.length ((done ++ state :: more).length - 1) = done.length := by
    rw [List.length_append, List.length_cons]
    omega
  rw [nextState, hscript, hpolls, hmin, List.getElem?_append_right (Nat.le_refl _), Nat.sub_self]
  rfl

end Platform

/-! ## Polls -/

/-- A client reaches a store that asks for the same token. -/
theorem Client.Reaches.of_token {c : Client} {s u : Store} (hc : c.Reaches s) (h : u.requiredToken = s.requiredToken) :
    c.Reaches u :=
  ⟨hc.root, hc.host, hc.usable, hc.sendable, h ▸ hc.accepted⟩

/-- The status of the one job of a store is that of its next poll. -/
theorem Platform.status_job {c : Client} {s : Store} (hc : c.Reaches s) {task : Task} (hid : IsScope task.id) :
    ∃ x, (c.status server .v2 task.id).Comes (s.withJob task)
      (.ok ⟨task.nextState, task.nextFailure.map Job.ErrorDetails.toError⟩)
      ((task.nextDeletion.elim s s.apply).withJob task.polled) [x] := by
  obtain ⟨q, hq, hserver⟩ := (isAt_job hid .v2).asked (hc.of_token (show (s.withJob task).requiredToken = _ from rfl))
    Client.writes_id
  have hanswer : answer (s.withJob task) [] (.job .v2 task.id) =
      (jsonResponse 200 (jobJson .v2 task.id task.nextState task.nextFailure),
        (task.nextDeletion.elim s s.apply).withJob task.polled) := by
    rw [answer, Store.pollJob_withJob]
  rw [hanswer] at hserver
  have hcomes : (c.status server .v2 task.id).Comes _ _ _ _ := Client.status_comes hq hserver rfl
  rw [statusOf_job] at hcomes
  exact ⟨_, hcomes⟩

namespace Job.Wait

variable {w : Wait} {c : Client}

/-- A wait without a time limit goes on after a status that is there at once, up to one of a job that is done. -/
theorem run_of_status {σ : Type} {server : Http.Server σ} {s u : σ} {status : Status} {x : Exchange}
    (hdeadline : w.deadline = none) (h : (c.status server .v2 w.job).Comes s (.ok status) u [x]) (allowed : Nat) (delay : Duration)
    (now : Nat) (history : List Activity) :
    w.run (c.statuses server .v2) (allowed + 1) delay now ⟨s, history⟩ =
      .after now (.asked w.job)
        ((w.verdict (.ok status)).elim
          (w.run (c.statuses server .v2) allowed (w.backoff.next delay) (wake now delay) (Session.after ⟨s, history⟩ u [x]))
          fun outcome => .still outcome now (Session.after ⟨s, history⟩ u [x])) := by
  have hsource : c.statuses server .v2 w.job now ⟨s, history⟩ = (⟨some 0, .ok status⟩, Session.after ⟨s, history⟩ u [x]) := by
    rw [Client.statuses, h history]
  have hlimit : w.limit = none := by rw [limit, hdeadline, Option.map_none]
  have harrival : w.arrival now (some 0) = .ok now := by simp only [arrival, hlimit, Nat.add_zero]
  have hnext : w.nextRequest now delay = .ok (wake now delay) := by rw [nextRequest, hdeadline]
  rw [run, hsource]
  simp only [harrival, hnext]
  cases w.verdict (.ok status) <;> rfl

end Job.Wait

/-! ## Waiting to the end -/

namespace Platform

/-- The job of a store after it has been polled up to the first state of the rest of its script in which it is done. -/
def Task.settled (task : Task) (rest : List Job.State) : Task :=
  { task with
    polls := task.polls + rest.findIdx Job.State.isTerminal + 1
    deletion := if rest.find? Job.State.isTerminal = some .finished then none else task.deletion }

/-- The store in which a job is done: what it was to delete is deleted where it finished. -/
def Store.settled (s : Store) (task : Task) (rest : List Job.State) : Store :=
  if rest.find? Job.State.isTerminal = some .finished then (task.deletion.elim s s.apply).withJob (task.settled rest)
  else s.withJob (task.settled rest)

/-- What waiting for a job comes to. -/
def Task.outcome (task : Task) (rest : List Job.State) : Except Job.Halt Unit :=
  if rest.find? Job.State.isTerminal = some .finished then .ok ()
  else .error (.failure (Job.Status.failure ⟨.failed, task.failure.map Job.ErrorDetails.toError⟩ task.id))

/-- A poll that does not tell that a job is done leaves the end of the job as it is. -/
theorem settled_polled (s : Store) {task : Task} {state : Job.State} (rest : List Job.State) (hnext : task.nextState = state)
    (h : state.isTerminal = false) :
    task.nextFailure = none ∧ (task.nextDeletion.elim s s.apply).withJob task.polled = s.withJob task.polled ∧
      s.settled task.polled rest = s.settled task (state :: rest) ∧ task.polled.outcome rest = task.outcome (state :: rest) := by
  have hfinished : state ≠ .finished := by rintro rfl; cases h
  have hfailed : state ≠ .failed := by rintro rfl; cases h
  have hdeletion : task.polled.deletion = task.deletion := by
    simp only [Task.polled, hnext, if_neg hfinished]
  have hfind : (state :: rest).find? Job.State.isTerminal = rest.find? Job.State.isTerminal := by
    rw [List.find?_cons_of_neg (by rw [h]; decide)]
  have hindex : (state :: rest).findIdx Job.State.isTerminal = rest.findIdx Job.State.isTerminal + 1 := by
    rw [List.findIdx_cons, h, cond_false]
  refine ⟨by rw [Task.nextFailure, hnext, if_neg hfailed], ?_, ?_, ?_⟩
  · rw [Task.nextDeletion, hnext, if_neg hfinished, Option.elim_none]
  · have hsettled : task.polled.settled rest = task.settled (state :: rest) := by
      simp only [Task.settled, hfind, hindex, hdeletion]
      simp only [Task.polled, hnext, if_neg hfinished]
      congr 1
      omega
    rw [Store.settled, Store.settled, hfind, hsettled, hdeletion]
  · rw [Task.outcome, Task.outcome, hfind]
    rfl

/-- A poll that tells that a job is done is the end of the job. -/
theorem settled_done (s : Store) {task : Task} {state : Job.State} (rest : List Job.State) (hnext : task.nextState = state)
    (h : state.isTerminal = true) (w : Job.Wait) (hjob : w.job = task.id) :
    w.verdict (.ok ⟨state, task.nextFailure.map Job.ErrorDetails.toError⟩) = some (task.outcome (state :: rest)) ∧
      (task.nextDeletion.elim s s.apply).withJob task.polled = s.settled task (state :: rest) := by
  have hfind : (state :: rest).find? Job.State.isTerminal = some state := List.find?_cons_of_pos h
  have hindex : (state :: rest).findIdx Job.State.isTerminal = 0 := by rw [List.findIdx_cons, h, cond_true]
  have hsettled : task.polled = task.settled (state :: rest) := by
    simp only [Task.polled, Task.settled, hnext, hfind, hindex, Nat.add_zero, Option.some.injEq]
  rw [Task.outcome, Store.settled, ← hsettled, hfind, Task.nextFailure, Task.nextDeletion, hnext]
  cases state with
  | queued | running => cases h
  | finished => exact ⟨rfl, rfl⟩
  | failed =>
    rw [← hjob]
    exact ⟨rfl, rfl⟩

/-- A wait without a time limit polls a job up to the first state in which it is done. -/
theorem run_job {c : Client} {s : Store} (hc : c.Reaches s) {w : Job.Wait} (hdeadline : w.deadline = none)
    (rest : List Job.State) (hterminal : ∃ state ∈ rest, state.isTerminal = true) {allowed : Nat} (hallowed : rest.length ≤ allowed)
    (done : List Job.State) (task : Task) (hjob : w.job = task.id) (hid : IsScope task.id) (hscript : task.script = done ++ rest)
    (hpolls : task.polls = done.length) :
    ∃ log, ∀ delay now history,
      (w.run (c.statuses server .v2) allowed delay now ⟨s.withJob task, history⟩).outcome = task.outcome rest ∧
        (w.run (c.statuses server .v2) allowed delay now ⟨s.withJob task, history⟩).state =
          Session.after ⟨s.withJob task, history⟩ (s.settled task rest) log := by
  -- Each poll goes one state further in the script; one that tells a state of a job that is not done leaves its end as it is.
  induction rest generalizing done task allowed with
  | nil =>
    obtain ⟨_, h, -⟩ := hterminal
    cases h
  | cons state more ih =>
    obtain ⟨allowed, rfl⟩ : ∃ n, allowed = n + 1 := ⟨allowed - 1, by rw [List.length_cons] at hallowed; omega⟩
    have hnext : task.nextState = state := Task.nextState_of_script hscript hpolls
    obtain ⟨x, hx⟩ := status_job hc hid
    rw [← hjob, hnext] at hx
    cases hdone : state.isTerminal with
    | true =>
      obtain ⟨hverdict, hstore⟩ := settled_done s more hnext hdone w hjob
      refine ⟨[x], fun delay now history => ?_⟩
      rw [Job.Wait.run_of_status hdeadline hx, hverdict, hstore]
      exact ⟨rfl, rfl⟩
    | false =>
      obtain ⟨hfailure, hstore, hsettled, houtcome⟩ := settled_polled s more hnext hdone
      have hverdict : w.verdict (.ok ⟨state, task.nextFailure.map Job.ErrorDetails.toError⟩) = none := by
        cases state with
        | queued | running => rfl
        | finished | failed => cases hdone
      have hmore : ∃ state ∈ more, state.isTerminal = true := by
        obtain ⟨later, hm, hl⟩ := hterminal
        rcases List.mem_cons.mp hm with rfl | hm
        · rw [hdone] at hl
          cases hl
        · exact ⟨later, hm, hl⟩
      obtain ⟨log, hrun⟩ := ih hmore (Nat.le_of_succ_le_succ hallowed) (done ++ [state]) task.polled hjob hid
        (by rw [List.append_assoc]; exact hscript) (by rw [List.length_append]; exact congrArg (· + 1) hpolls)
      refine ⟨x :: log, fun delay now history => ?_⟩
      obtain ⟨hresult, hstate⟩ := hrun (w.backoff.next delay) (Job.wake now delay)
        (Session.after ⟨s.withJob task, history⟩ (s.withJob task.polled) [x]).history
      rw [Job.Wait.run_of_status hdeadline hx, hverdict, hstore, ← houtcome, ← hsettled]
      exact ⟨hresult, hstate.trans (Session.after_after _ _ _ _ _)⟩

/-- A client that waits without a time limit for the first job of a store polls it up to the first state in which it is done. -/
theorem awaits_job {c : Client} {s : Store} (hc : c.Reaches s) {settings : Job.PollSettings} (htimeout : settings.timeout = none)
    (hterminal : ∃ state ∈ s.effectiveScript, state.isTerminal = true) {allowed : Nat} (hallowed : s.effectiveScript.length ≤ allowed)
    (deletion : Option Deletion) :
    ∃ log, Job.Awaits (c.statuses server .v2) { id := Store.jobId s.started } settings allowed (s.withJob (s.nextJob deletion))
      ((s.nextJob deletion).outcome s.effectiveScript) (s.settled (s.nextJob deletion) s.effectiveScript) log := by
  let w : Job.Wait := ⟨Store.jobId s.started, 0, none, settings.backoff⟩
  let job : Job.Handle := { id := Store.jobId s.started }
  obtain ⟨log, hrun⟩ := run_job hc (show w.deadline = none from rfl) s.effectiveScript hterminal hallowed [] (s.nextJob deletion) rfl
    (Store.isScope_jobId s.started) rfl rfl
  refine ⟨log, fun history => ?_⟩
  have hawait : Job.await (c.statuses server .v2) job settings allowed 0 ⟨s.withJob (s.nextJob deletion), history⟩ =
      w.run (c.statuses server .v2) allowed (settings.firstDelay job) 0 ⟨s.withJob (s.nextJob deletion), history⟩ := by
    rw [Job.await, htimeout]
    rfl
  rw [hawait]
  exact hrun _ 0 history

end Platform

end ControlPlane
