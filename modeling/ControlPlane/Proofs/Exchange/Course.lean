import ControlPlane.Proofs.Exchange.Deletion

/-!
# What a course of exchanges comes to

Where the state of the server is known, so is what a conversation comes to: its result, the state in which it leaves the server, and
its exchanges, whatever was done before (`Conversation.Comes`). An undertaking is begun in a phase besides (`Undertaking.Comes`).
There is one rule for each step of an operation, so that a whole operation is followed step by step.
-/

namespace ControlPlane

variable {σ α β : Type}

/-! ## Conversations -/

namespace Conversation

/-- A phase that can follow is entered. -/
theorem runOn_enter {x : Session σ} {next : Phase} (hp : x.phase.canAdvance next = true) :
    (enter next).runOn x = (.ok (), x.record (.entered next)) := by
  simp only [enter, runOn_of, Phase.advance, hp, if_true]

/-- Whether a conversation comes to a result, leaves the server in a state and makes exchanges, whatever was done before. -/
def Comes (c : Conversation σ α) (s : σ) (r : Result α) (t : σ) (log : List Exchange) : Prop :=
  ∀ history, c.runOn ⟨s, history⟩ = (r, Session.after ⟨s, history⟩ t log)

namespace Comes

variable {c : Conversation σ α} {f : α → Conversation σ β} {s t u : σ} {log more : List Exchange}

theorem known (r : Result α) (s : σ) : (Conversation.known r).Comes s r s [] := fun _ => rfl

/-- A conversation goes on after a result. -/
theorem bind {a : α} {r : Result β} (hc : c.Comes s (.ok a) t log) (hf : (f a).Comes t r u more) :
    (c >>= f).Comes s r u (log ++ more) := by
  intro history
  rw [runOn_bind, hc history]
  exact (hf _).trans (by rw [← Session.after_after]; rfl)

/-- A conversation ends with a failure. -/
theorem fails {e : Failure} (hc : c.Comes s (.error e) t log) : (c >>= f).Comes s (.error e) t log := by
  intro history
  rw [runOn_bind, hc history]

/-- The result of a conversation may be put to use. -/
theorem map {a : α} (g : α → β) (hc : c.Comes s (.ok a) t log) : (do return g (← c)).Comes s (.ok (g a)) t log := by
  have h := hc.bind (f := fun a => Pure.pure (g a)) (known (.ok (g a)) t)
  rwa [List.append_nil] at h

end Comes

end Conversation

namespace Client

variable {c : Client} {server : Http.Server σ} {q : Http.Request} {r : Http.Response} {s t : σ}

/-- What a response of success says of a deletion is what the deletion comes to. -/
theorem delete_comes {path : String} {pairs : List (String × String)} (hq : c.deletionRequest path pairs = .ok q)
    (hr : server q s = (.response r, t)) (hs : r.isSuccess = true) :
    (c.delete server path pairs).Comes s (deletionOf r) t [⟨q, .response r⟩] := by
  intro history
  have hsent : (c.deleteWith server path pairs).runOn ⟨s, history⟩ = _ := runOn_sendAt hq hr hs
  rw [delete, Conversation.runOn_bind, hsent]
  rfl

variable {version : Job.Version} {job : String}

/-- Where a status cannot be asked for, that is what asking for it comes to. -/
theorem status_unsent {e : Failure} (hq : c.statusRequest version job = .error e) (server : Http.Server σ) (s : σ) :
    (c.status server version job).Comes s (.error e) s [] := by
  intro history
  have hsent : (c.get server (jobPath version job)).runOn ⟨s, history⟩ = _ := runOn_sendAt_unsent hq server _
  rw [status, Conversation.runOn_bind, hsent]
  rfl

/-- The status in a response that is checked is what asking for it comes to. -/
theorem status_checked (hq : c.statusRequest version job = .ok q) (hr : server q s = (.response r, t)) :
    (c.status server version job).Comes s (r.check.bind (statusOf version)) t [⟨q, .response r⟩] := by
  intro history
  have hsent : (c.get server (jobPath version job)).runOn ⟨s, history⟩ = _ := runOn_sendAt_checked hq hr
  rw [status, Conversation.runOn_bind, hsent]
  cases r.check <;> rfl

/-- The status in a response of success is what asking for it comes to. -/
theorem status_comes (hq : c.statusRequest version job = .ok q) (hr : server q s = (.response r, t)) (hs : r.isSuccess = true) :
    (c.status server version job).Comes s (statusOf version r) t [⟨q, .response r⟩] := by
  have hcheck : r.check = .ok r := if_pos hs
  have hcomes := status_checked hq hr
  rwa [hcheck] at hcomes

end Client

/-! ## Undertakings -/

@[simp] theorem Session.server_after (s : Session σ) (t : σ) (log : List Exchange) : (s.after t log).server = t := rfl

@[simp] theorem Session.server_fail (s : Session σ) (e : Failure) : (s.fail e).server = s.server := by
  unfold fail
  split <;> rfl

/-- Whether waiting for a job comes to an outcome, leaves the server in a state and makes exchanges, whatever was done before. -/
def Job.Awaits (source : StatusSource (Session σ)) (handle : Handle) (settings : PollSettings) (allowed : Nat) (s : σ)
    (outcome : Except Halt Unit) (t : σ) (log : List Exchange) : Prop :=
  ∀ history, (await source handle settings allowed 0 ⟨s, history⟩).outcome = outcome ∧
    (await source handle settings allowed 0 ⟨s, history⟩).state = Session.after ⟨s, history⟩ t log

namespace Undertaking

/-- Whether an undertaking, begun in a phase, comes to a result, leaves the server in a state and adds exchanges. -/
def Comes (u : Undertaking σ α) (phase : Phase) (s : σ) (r : Except Job.Halt α) (t : σ) (log : List Exchange) : Prop :=
  ∀ x : Session σ, x.phase = phase → x.server = s →
    (u.runOn x).1 = r ∧ (u.runOn x).2.server = t ∧ (u.runOn x).2.exchanges = x.exchanges ++ log

namespace Comes

variable {phase : Phase} {s t u : σ} {r : Except Job.Halt α} {log more : List Exchange}

/-- An operation is begun in any phase. -/
theorem start {f : Unit → Undertaking σ α} (h : (f ()).Comes .started s r t log) :
    (converse .start >>= f).Comes phase s r t log := by
  intro x _ hs
  have hstart : (converse .start).runOn x = (.ok (), x.record (.entered .started)) := rfl
  rw [runOn_bind, hstart, ← Session.exchanges_entered x .started]
  exact h _ rfl hs

/-- A phase that can follow is entered. -/
theorem enter {f : Unit → Undertaking σ α} {next : Phase} (hp : phase.canAdvance next = true) (h : (f ()).Comes next s r t log) :
    (converse (.enter next) >>= f).Comes phase s r t log := by
  intro x hx hs
  have henter : (converse (.enter next)).runOn x = (.ok (), x.record (.entered next)) := by
    rw [runOn_converse, Conversation.runOn_enter (by rw [hx]; exact hp), mapError_ok]
  rw [runOn_bind, henter, ← Session.exchanges_entered x next]
  exact h _ rfl hs

/-- An operation goes on in its phase after a conversation with a result. -/
theorem after {c : Conversation σ β} {f : β → Undertaking σ α} {b : β} (hc : c.Comes s (.ok b) t log)
    (hf : (f b).Comes phase t r u more) : (converse c.watched >>= f).Comes phase s r u (log ++ more) := by
  rintro ⟨s, history⟩ hx rfl
  have hrun : (converse c.watched).runOn ⟨s, history⟩ = (.ok b, Session.after ⟨s, history⟩ t log) := by
    simp only [runOn_converse, Conversation.watched, Conversation.runOn_of, hc history]
    rfl
  rw [runOn_bind, hrun, ← List.append_assoc, ← Session.exchanges_after _ t]
  exact hf _ (by rw [Session.phase_after, hx]) rfl

/-- An operation ends with a conversation that fails. -/
theorem fails {c : Conversation σ β} {f : β → Undertaking σ α} {e : Failure} (hc : c.Comes s (.error e) t log) :
    (converse c.watched >>= f).Comes phase s (.error (.failure e)) t log := by
  rintro ⟨s, history⟩ - rfl
  have hrun : (converse c.watched).runOn ⟨s, history⟩ = (.error (.failure e), (Session.after ⟨s, history⟩ t log).fail e) := by
    simp only [runOn_converse, Conversation.watched, Conversation.runOn_of, hc history]
    rfl
  rw [runOn_bind, hrun]
  exact ⟨rfl, Session.server_fail _ e, by rw [Session.exchanges_fail, Session.exchanges_after]⟩

end Comes

/-! ## Changes -/

/-- An operation that can be completed after its change is completed with it. -/
theorem runOn_ending {u : Undertaking σ α} {x y : Session σ} {a : α} (h : u.runOn x = (.ok a, y))
    (hp : y.phase.canAdvance .completed = true) :
    (u.watched >>= fun a => converse (.enter .completed) >>= fun _ => pure a).runOn x =
      (.ok a, y.record (.entered .completed)) := by
  have henter : (converse (.enter .completed)).runOn y = (.ok (), y.record (.entered .completed)) := by
    rw [runOn_converse, Conversation.runOn_enter hp, mapError_ok]
  have hwatched : u.watched.runOn x = (.ok a, y) := by simp only [watched, runOn_of, h]
  rw [runOn_bind, hwatched]
  simp only [runOn_bind, henter, runOn_pure]

/-- An operation fails with its change. -/
theorem runOn_ending_failure {u : Undertaking σ α} {x y : Session σ} {e : Failure} (h : u.runOn x = (.error (.failure e), y)) :
    (u.watched >>= fun a => converse (.enter .completed) >>= fun _ => pure a).runOn x = (.error (.failure e), y.fail e) := by
  have hwatched : u.watched.runOn x = (.error (.failure e), y.fail e) := by simp only [watched, runOn_of, h]
  rw [runOn_bind, hwatched]

end Undertaking

namespace Target

variable {target : Target} {server : Http.Server σ} {allowed : Nat} {answer : Conversation σ (Mutation.Response Unit)}
  {s t u : σ} {log more : List Exchange}

/-- A change that is made at once completes its operation. -/
theorem mutate_immediate (h : answer.Comes s (.ok (.immediate ())) t log) :
    (target.mutate server allowed answer).Comes .resolving s (.ok (.immediate ())) t log := by
  refine .enter rfl ?_
  rintro ⟨s, history⟩ hx rfl
  have hchange : (target.change server allowed answer).runOn ⟨s, history⟩ =
      (.ok (.immediate ()), Session.after ⟨s, history⟩ t log) := by
    simp only [change, Undertaking.runOn_of, Mutation.run, h history, Mutation.settle, Job.Timeline.still]
  rw [Undertaking.runOn_ending hchange (by rw [Session.phase_after, hx]; rfl)]
  exact ⟨rfl, rfl, by rw [Session.exchanges_entered, Session.exchanges_after]⟩

/-- A change that is accepted as a job changes its phase, and the job is waited for. -/
theorem runOn_change_accepted {job : Job.Handle} {outcome : Except Job.Halt Unit} {x : Session σ} (hx : x.phase = .mutating)
    (hs : x.server = s) (h : answer.Comes s (.ok (.accepted job)) t log)
    (hw : Job.Awaits (target.client.statuses server .v2) job target.settings allowed t outcome u more) :
    (target.change server allowed answer).runOn x =
      (outcome.map fun _ => .job job, ((x.after t log).record (.entered .awaitingJob)).after u more) := by
  obtain ⟨s, history⟩ := x
  obtain rfl : s = _ := hs
  have hhook : acceptance job (0 + 0) (Session.after ⟨s, history⟩ t log) =
      (.ok (), (Session.after ⟨s, history⟩ t log).record (.entered .awaitingJob)) :=
    Conversation.runOn_enter (by rw [Session.phase_after, hx]; rfl)
  obtain ⟨houtcome, hstate⟩ := hw ((Session.after ⟨s, history⟩ t log).record (.entered .awaitingJob)).history
  simp only [change, Undertaking.runOn_of, Mutation.run, h history, Mutation.settle, hhook, Job.Timeline.after, Job.Timeline.map]
  exact Prod.ext (by rw [← houtcome]; rfl) hstate

/-- An operation whose change is accepted as a job is completed when the job is. -/
theorem mutate_job {job : Job.Handle} (h : answer.Comes s (.ok (.accepted job)) t log)
    (hw : Job.Awaits (target.client.statuses server .v2) job target.settings allowed t (.ok ()) u more) :
    (target.mutate server allowed answer).Comes .resolving s (.ok (.job job)) u (log ++ more) := by
  refine .enter rfl fun x hx hs => ?_
  have hchange := runOn_change_accepted hx hs h hw
  rw [Undertaking.runOn_ending hchange (by rw [Session.phase_after]; rfl)]
  refine ⟨rfl, rfl, ?_⟩
  rw [Session.exchanges_entered, Session.exchanges_after, Session.exchanges_entered, Session.exchanges_after, List.append_assoc]

/-- An operation whose change is accepted as a job fails when the job does. -/
theorem mutate_job_failed {job : Job.Handle} {e : Failure} (h : answer.Comes s (.ok (.accepted job)) t log)
    (hw : Job.Awaits (target.client.statuses server .v2) job target.settings allowed t (.error (.failure e)) u more) :
    (target.mutate server allowed answer).Comes .resolving s (.error (.failure e)) u (log ++ more) := by
  refine .enter rfl fun x hx hs => ?_
  have hchange := runOn_change_accepted hx hs h hw
  rw [Undertaking.runOn_ending_failure hchange]
  refine ⟨rfl, by rw [Session.server_fail, Session.server_after], ?_⟩
  rw [Session.exchanges_fail, Session.exchanges_after, Session.exchanges_entered, Session.exchanges_after, List.append_assoc]

end Target

end ControlPlane
