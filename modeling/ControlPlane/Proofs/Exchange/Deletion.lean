import ControlPlane.Proofs.Exchange.Lookup
import ControlPlane.Proofs.Waiting.Round

/-!
# What a deletion sends

To delete an entity by its name is to look it up, to ask for the deletion of the one found, and to wait for the job that the
platform may have accepted it as. `Deletion` and `Watch` say which exchanges the last two can make. The main statement is
`Target.deletions_sequenced`: against any server, the exchanges of both deletions come in these stages, each only after the one
before it has ended well.
-/

namespace ControlPlane

variable {σ α β : Type}

/-- The exchanges of waiting for a job. Each but the last says that the job is not done. -/
inductive Watch (c : Client) (job : String) : List Exchange → Prop
  | unsent : Watch c job []
  | last {x : Exchange} : c.statusRequest .v2 job = .ok x.request → Watch c job [x]
  | next {x : Exchange} {status : Job.Status} {rest : List Exchange} :
      c.statusRequest .v2 job = .ok x.request → x.read (Client.statusOf .v2) = some status →
      status.state.isTerminal = false → Watch c job rest → Watch c job (x :: rest)

/-- The exchanges of a deletion that is asked for with a request. Only where it is accepted as a job, that job is waited
for. -/
inductive Deletion (c : Client) (request : Result Http.Request) : List Exchange → Prop
  /-- The deletion cannot be asked for. -/
  | unsent {e : Failure} : request = .error e → Deletion c request []
  /-- It is not answered well, or was made at once. -/
  | answered {x : Exchange} :
      request = .ok x.request → (∀ job, x.read Client.deletionOf ≠ some (.accepted job)) → Deletion c request [x]
  /-- It was accepted as a job. -/
  | accepted {x : Exchange} {r : Http.Response} {job : Job.Handle} {rest : List Exchange} :
      request = .ok x.request → x.reply = .response r → r.status = Client.acceptedStatus →
      Client.acceptedJob r = .ok job → Watch c job.id rest → Deletion c request (x :: rest)

namespace Client

/-- The request that asks to delete a space and what is in it. -/
def spaceDeletion (c : Client) (found : Space) : Result Http.Request :=
  c.deletionRequest ("v2/spaces/" ++ Url.segmentText found.id) [("async", "true"), ("recursive", "true")]

/-- The request that asks to delete a service instance. -/
def serviceInstanceDeletion (c : Client) (found : ServiceInstance) : Result Http.Request :=
  match found.origin with
  | .managed => c.deletionRequest ("v2/service_instances/" ++ Url.segmentText found.id) [("async", "true")]
  | .userProvided => c.deletionRequest ("v2/user_provided_service_instances/" ++ Url.segmentText found.id) []

end Client

namespace Target

/-- The exchanges of deleting a space: the organization that is targeted is looked up, then the space in it, and the one space
found is deleted. -/
def SpaceDeletion (t : Target) (name : String) : List Exchange → Prop :=
  t.AtSpace name fun found => Deletion t.client (t.client.spaceDeletion found)

/-- The exchanges of deleting a service instance: the organization that is targeted is looked up, then the space that is, then
the service instance in it, and the one found is deleted. -/
def ServiceInstanceDeletion (t : Target) (name : String) : List Exchange → Prop :=
  t.InSpace fun space => Lookup.Then t.client (.serviceInstances space) (.ofName name) fun found =>
    Deletion t.client (t.client.serviceInstanceDeletion found)

end Target

/-! ## What holds of all stages -/

/-- Whether a response of success came back. -/
def Exchange.Succeeds (x : Exchange) : Prop := ∃ r, x.reply = .response r ∧ r.isSuccess = true

/-- Whether exchanges ask for a deletion once at most, and none but the last is without success. -/
structure Careful (log : List Exchange) : Prop where
  once : log.countP (·.request.method == .delete) ≤ 1
  stops : ∀ x ∈ log.dropLast, x.Succeeds

/-- Where something can be read from an exchange, it succeeds. -/
theorem Exchange.succeeds_of_read {x : Exchange} {reader : Http.Response → Result α} {a : α} (h : x.read reader = some a) :
    x.Succeeds := by
  obtain ⟨r, hr, hs, -⟩ := response_of_read h
  exact ⟨r, hr, hs⟩

/-- A request asks for what it is made to ask for. -/
theorem Client.method_of_requestAt {c : Client} {method : Http.Method} {path : String} {change : Url → Url}
    {q : Http.Request} (h : c.requestAt method path change = .ok q) : q.method = method := by
  unfold requestAt at h
  cases hu : c.address path with
  | error e => rw [hu] at h; cases h
  | ok u =>
    rw [hu] at h
    simp only [Except.bind, request] at h
    split at h
    · split at h
      · cases h
        rfl
      · cases h
    · cases h

namespace Careful

variable {first tail : List Exchange}

/-- Of exchanges one after another all but the last are among the first ones, or among all but the last of the others. -/
theorem mem_or_of_mem {x : Exchange} (h : x ∈ (first ++ tail).dropLast) : x ∈ first ∨ x ∈ tail.dropLast := by
  cases tail with
  | nil =>
    rw [List.append_nil] at h
    exact Or.inl (List.dropLast_subset first h)
  | cons y tail =>
    rw [List.dropLast_append_of_ne_nil (List.cons_ne_nil y tail)] at h
    exact List.mem_append.mp h

/-- All but the last of exchanges succeed where the first one does and all but the last of the others. -/
theorem succeeds_cons {x y : Exchange} {rest : List Exchange} (hx : x.Succeeds) (hr : ∀ y ∈ rest.dropLast, y.Succeeds)
    (hy : y ∈ (x :: rest).dropLast) : y.Succeeds := by
  rcases mem_or_of_mem (show y ∈ ([x] ++ rest).dropLast from hy) with h | h
  · rw [List.mem_singleton.mp h]
    exact hx
  · exact hr y h

theorem nil : Careful [] := ⟨Nat.zero_le _, fun _ h => absurd h List.not_mem_nil⟩

theorem singleton (x : Exchange) : Careful [x] := ⟨List.countP_le_length, fun _ h => absurd h List.not_mem_nil⟩

/-- Nothing is lost where exchanges that succeed come first and ask for no deletion. -/
theorem append (hs : ∀ x ∈ first, x.Succeeds) (hd : first.countP (·.request.method == .delete) = 0) (ht : Careful tail) :
    Careful (first ++ tail) where
  once := by
    rw [List.countP_append, hd, Nat.zero_add]
    exact ht.once
  stops x hx := (mem_or_of_mem hx).elim (hs x) (ht.stops x)

end Careful

namespace Lookup

variable {c : Client} {list : Collection α} {query : Query} {n : UInt32} {log : List Exchange} {found : Option (List α)}

/-- A lookup asks for no deletion. -/
theorem countP_delete (h : Lookup c list query n log found) : log.countP (·.request.method == .delete) = 0 := by
  have hget {x : Exchange} {n : UInt32} (hq : c.pageRequest list query n = .ok x.request) :
      (x.request.method == .delete) = false := by rw [Client.method_of_requestAt hq]; rfl
  induction h with
  | unsent => rfl
  | failed hq | stale hq | last hq => simp [hget hq]
  | next hq _ _ _ _ ih => simp [hget hq, ih]

/-- A lookup ends with its first exchange without success, and then finds nothing. -/
theorem succeeds (h : Lookup c list query n log found) :
    (∀ x ∈ log.dropLast, x.Succeeds) ∧ ∀ items, found = some items → ∀ x ∈ log, x.Succeeds := by
  induction h with
  | unsent | failed | stale =>
    exact ⟨fun _ h => absurd h List.not_mem_nil, fun items h => absurd h (Option.some_ne_none _).symm⟩
  | last _ hx =>
    refine ⟨fun _ h => absurd h List.not_mem_nil, fun items _ x hm => ?_⟩
    rw [List.mem_singleton.mp hm]
    exact Exchange.succeeds_of_read hx
  | @next _ _ x p rest found _ hx _ _ _ ih =>
    have hs := Exchange.succeeds_of_read hx
    refine ⟨fun y => Careful.succeeds_cons hs ih.1, fun items hf y hm => ?_⟩
    obtain ⟨rest', hr, -⟩ := Option.map_eq_some_iff.mp hf
    rcases List.mem_cons.mp hm with rfl | hm
    · exact hs
    · exact ih.2 rest' hr y hm

/-- What follows a lookup carefully makes all of it careful. -/
theorem Then.careful {rest : α → List Exchange → Prop} (h : Lookup.Then c list query rest log)
    (hr : ∀ a tail, rest a tail → Careful tail) : Careful log := by
  obtain ⟨first, tail, found, rfl, hl, ⟨a, hf, ht⟩ | ⟨-, rfl⟩⟩ := h
  · exact Careful.append (hl.succeeds.2 [a] hf) hl.countP_delete (hr a tail ht)
  · rw [List.append_nil]
    exact ⟨hl.countP_delete ▸ Nat.zero_le 1, hl.succeeds.1⟩

end Lookup

/-- A wait for a job asks for no deletion, and ends with its first exchange without success. -/
theorem Watch.careful {c : Client} {job : String} {log : List Exchange} (h : Watch c job log) :
    log.countP (·.request.method == .delete) = 0 ∧ ∀ x ∈ log.dropLast, x.Succeeds := by
  have hget {x : Exchange} (hq : c.statusRequest .v2 job = .ok x.request) : (x.request.method == .delete) = false := by
    rw [Client.method_of_requestAt hq]
    rfl
  induction h with
  | unsent => exact ⟨rfl, fun _ h => absurd h List.not_mem_nil⟩
  | last hq => exact ⟨by simp [hget hq], fun _ h => absurd h List.not_mem_nil⟩
  | @next x _ rest hq hx _ _ ih =>
    have hs := Exchange.succeeds_of_read hx
    exact ⟨by simp [hget hq, ih.1], fun y => Careful.succeeds_cons hs ih.2⟩

/-- A deletion is asked for once, and waited for only where it succeeds. -/
theorem Deletion.careful {c : Client} {request : Result Http.Request} {log : List Exchange} (h : Deletion c request log) :
    Careful log := by
  cases h with
  | unsent => exact .nil
  | answered => exact .singleton _
  | @accepted x r job rest hq hr hs hj hw =>
    have hx : x.Succeeds := ⟨r, hr, by rw [Http.Response.isSuccess, hs]; decide⟩
    refine ⟨?_, fun y => Careful.succeeds_cons hx hw.careful.2⟩
    rw [List.countP_cons, hw.careful.1]
    split <;> decide

/-! ## Waiting for a job -/

namespace Job.Wait

variable {w : Wait} {answer : Answer} {delay : Duration} {now : Nat}

/-- After a round that does not end the wait, the job is not done. -/
theorem status_of_asks {next : Nat} (h : w.round answer delay now = .asks next) :
    ∃ status, answer.result = .ok status ∧ status.state.isTerminal = false := by
  unfold round at h
  cases ha : w.arrival now answer.latency with
  | error r => cases r <;> simp [ha] at h
  | ok time =>
    cases hr : answer.result with
    | error e => simp [ha, hr, verdict] at h
    | ok status =>
      refine ⟨status, rfl, ?_⟩
      cases hs : status.state with
      | queued | running => rfl
      | finished | failed => simp [ha, hr, verdict, hs] at h

/-- Where every status costs a request of its own, a wait makes the exchanges of waiting for its job. -/
theorem run_watch {c : Client} {source : StatusSource (Session σ)} (w : Wait)
    (hsource : ∀ now s, ∃ log, (source w.job now s).2 = s.after (source w.job now s).2.server log ∧
      Once (c.statusRequest .v2 w.job) (Client.statusOf .v2) log (source w.job now s).1.result)
    (allowed : Nat) :
    ∀ (delay : Duration) (now : Nat) (s : Session σ), ∃ log,
      (w.run source allowed delay now s).state = s.after (w.run source allowed delay now s).state.server log ∧
        Watch c w.job log := by
  induction allowed with
  | zero => exact fun delay now s => ⟨[], rfl, .unsent⟩
  | succ allowed ih =>
    intro delay now s
    obtain ⟨log, hs, ho⟩ := hsource now s
    rw [run_succ]
    cases hr : w.round (source w.job now s).1 delay now with
    | ends outcome time =>
      refine ⟨log, hs, ?_⟩
      cases ha : (source w.job now s).1.result with
      | ok status =>
        rw [ha] at ho
        obtain ⟨x, hq, rfl, -⟩ := ho.of_ok
        exact .last hq
      | error e =>
        rw [ha] at ho
        rcases ho.of_error with ⟨-, rfl⟩ | ⟨x, hq, rfl, -⟩
        · exact .unsent
        · exact .last hq
    | asks next =>
      obtain ⟨status, ha, ht⟩ := status_of_asks hr
      obtain ⟨rest, hs', hw⟩ := ih (w.backoff.next delay) next (source w.job now s).2
      rw [ha] at ho
      obtain ⟨x, hq, rfl, hx⟩ := ho.of_ok
      exact ⟨x :: rest, Session.after_trans hs hs', .next hq hx ht hw⟩

end Job.Wait

/-- To wait for a job that the platform accepted is to make the exchanges of waiting for it. -/
theorem Job.await_watch (c : Client) (server : Http.Server σ) (job : Job.Handle) (settings : Job.PollSettings)
    (allowed now : Nat) (s : Session σ) :
    ∃ log, (Job.await (c.statuses server .v2) job settings allowed now s).state =
        s.after (Job.await (c.statuses server .v2) job settings allowed now s).state.server log ∧ Watch c job.id log := by
  unfold Job.await
  dsimp only
  split
  · exact ⟨[], rfl, .unsent⟩
  · refine Wait.run_watch _ (fun now s => ?_) allowed _ now s
    simp only [Client.statuses]
    exact c.status_sends server .v2 job.id s

/-! ## Undertakings, step by step -/

namespace Undertaking

/-- An undertaking goes on after a result, and ends with a failure. -/
theorem runOn_bind (u : Undertaking σ α) (f : α → Undertaking σ β) (s : Session σ) :
    (u >>= f).runOn s =
      match u.runOn s with
      | (.ok a, t) => (f a).runOn t
      | (.error e, t) => (.error e, t) := by
  simp only [runOn, bind, ExceptT.bind, ExceptT.run, ExceptT.mk, StateT.bind, StateT.run, ExceptT.bindCont]
  rcases u s with ⟨_ | _, _⟩ <;> rfl

@[simp] theorem runOn_of (f : Session σ → Except Job.Halt α × Session σ) (s : Session σ) : (of f).runOn s = f s := rfl

@[simp] theorem runOn_pure (a : α) (s : Session σ) : (pure a : Undertaking σ α).runOn s = (.ok a, s) := rfl

theorem mapError_ok {ε ε' : Type} (f : ε → ε') (a : α) : (.ok a : Except ε α).mapError f = .ok a := rfl

theorem mapError_error {ε ε' : Type} (f : ε → ε') (e : ε) : (.error e : Except ε α).mapError f = .error (f e) := rfl

@[simp] theorem runOn_converse (c : Conversation σ α) (s : Session σ) :
    (converse c).runOn s = ((c.runOn s).1.mapError .failure, (c.runOn s).2) := rfl

/-- An undertaking adds exchanges to a session, and these are as told. -/
def Adds (u : Undertaking σ α) (s : Session σ) (told : List Exchange → Prop) : Prop :=
  ∃ log, (u.runOn s).2.exchanges = s.exchanges ++ log ∧ told log

variable {s : Session σ} {told : List Exchange → Prop}

/-- The start of an operation adds nothing. -/
theorem Adds.start {u : Unit → Undertaking σ α} (h : (u ()).Adds (s.record (.entered .started)) told) :
    (converse .start >>= u).Adds s told := by
  obtain ⟨log, hx, ht⟩ := h
  refine ⟨log, ?_, ht⟩
  rw [runOn_bind]
  exact hx.trans (by rw [Session.exchanges_entered])

/-- A phase that can follow adds nothing. -/
theorem Adds.enter {u : Unit → Undertaking σ α} {phase : Phase} (hp : s.phase.canAdvance phase = true)
    (h : (u ()).Adds (s.record (.entered phase)) told) : (converse (.enter phase) >>= u).Adds s told := by
  obtain ⟨log, hx, ht⟩ := h
  refine ⟨log, ?_, ht⟩
  have he : (converse (.enter phase)).runOn s = (.ok (), s.record (.entered phase)) := by
    simp only [runOn_converse, Conversation.enter, Conversation.runOn_of, Phase.advance, hp, if_true]
    rfl
  rw [runOn_bind, he]
  exact hx.trans (by rw [Session.exchanges_entered])

/-- A conversation whose failure ends the operation, and what follows its result. -/
theorem Adds.converse {c : Conversation σ α} {f : α → Undertaking σ β}
    {shape : (α → List Exchange → Prop) → List Exchange → Prop} {rest : α → List Exchange → Prop} (hc : c.Leads shape)
    (hf : ∀ a t log, t = s.after t.server log → (f a).Adds t (rest a)) :
    (Undertaking.converse c.watched >>= f).Adds s (shape rest) := by
  obtain ⟨told, hs, hc⟩ := hc
  obtain ⟨log, hx, ht⟩ := hs s
  rw [Adds, runOn_bind]
  simp only [runOn_converse, Conversation.watched, Conversation.runOn_of]
  rcases hr : c.runOn s with ⟨e | a, t⟩
  · rw [hr] at hx ht
    refine ⟨log, ?_, hc rest log (Or.inl ⟨e, ht⟩)⟩
    simp only [mapError_error, Session.exchanges_fail]
    rw [show t = s.after t.server log from hx, Session.exchanges_after]
  · rw [hr] at hx ht
    obtain ⟨more, hm, hrest⟩ := hf a t log hx
    refine ⟨log ++ more, ?_, hc rest _ (Or.inr ⟨a, log, more, rfl, ht, hrest⟩)⟩
    simp only [mapError_ok]
    rw [hm, show t = s.after t.server log from hx, Session.exchanges_after, List.append_assoc]

/-- The end of an operation, good or bad, adds nothing to what was done before it. -/
theorem exchanges_ending (u : Undertaking σ α) (s : Session σ) :
    ((u.watched >>= fun a => converse (.enter .completed) >>= fun _ => pure a).runOn s).2.exchanges =
      (u.runOn s).2.exchanges := by
  rw [runOn_bind]
  simp only [watched, runOn_of]
  rcases u.runOn s with ⟨(e | _ | _ | _) | a, t⟩
  · exact Session.exchanges_fail t e
  · rfl
  · rfl
  · rfl
  · simp only [runOn_bind, runOn_converse, Conversation.enter, Conversation.runOn_of, Phase.advance]
    by_cases hp : t.phase.canAdvance .completed = true
    · simp only [hp, if_true, mapError_ok, runOn_pure, Session.exchanges_entered]
    · simp only [hp, if_false, Bool.false_eq_true, mapError_error]

end Undertaking

/-! ## Deletions -/

/-- A response that says that a deletion was accepted has the status for that, and names the job. -/
theorem Client.accepted_of_deletionOf {r : Http.Response} {job : Job.Handle} (h : deletionOf r = .ok (.accepted job)) :
    r.status = acceptedStatus ∧ acceptedJob r = .ok job := by
  unfold deletionOf at h
  by_cases hs : r.status = acceptedStatus
  · refine ⟨hs, ?_⟩
    rw [if_pos hs] at h
    cases hj : acceptedJob r with
    | error e => rw [hj] at h; cases h
    | ok job' => rw [hj] at h; cases h; rfl
  · rw [if_neg hs] at h
    cases h

namespace Target

variable (t : Target) (server : Http.Server σ) (allowed : Nat)

/-- The acceptance of a change as a job is followed by the wait for the job. -/
theorem settle_adds (job : Job.Handle) (now : Nat) (s : Session σ) :
    ∃ log, (Mutation.settle acceptance (t.client.statuses server .v2) t.settings allowed now
        (.ok (.accepted job) : Result (Mutation.Response α)) s).state.exchanges = s.exchanges ++ log ∧
      Watch t.client job.id log := by
  simp only [Mutation.settle, acceptance, Conversation.enter, Conversation.runOn_of, Phase.advance]
  by_cases hp : s.phase.canAdvance .awaitingJob = true
  · obtain ⟨log, hx, hw⟩ :=
      Job.await_watch t.client server job t.settings allowed now (s.record (.entered .awaitingJob))
    refine ⟨log, ?_, hw⟩
    simp only [hp, if_true, Job.Timeline.after, Job.Timeline.map]
    rw [hx, Session.exchanges_after, Session.exchanges_entered]
  · refine ⟨[], ?_, .unsent⟩
    simp only [hp, if_false, Bool.false_eq_true, Job.Timeline.after, Job.Timeline.still, List.append_nil]

/-- A change that is asked for with one request makes the exchanges of a deletion. -/
theorem change_adds {answer : Conversation σ (Mutation.Response Unit)} {request : Result Http.Request}
    (ha : answer.Sends (Once request Client.deletionOf)) (s : Session σ) :
    (t.change server allowed answer).Adds s (Deletion t.client request) := by
  obtain ⟨log, hx, ho⟩ := ha s
  simp only [Undertaking.Adds, change, Undertaking.runOn_of, Mutation.run]
  rcases hr : answer.runOn s with ⟨e | ⟨value⟩ | job, u⟩
  · rw [hr] at hx ho
    refine ⟨log, ?_, ?_⟩
    · simp only [Mutation.settle, Job.Timeline.still]
      rw [show u = s.after u.server log from hx, Session.exchanges_after]
    · rcases ho.of_error with ⟨hq, rfl⟩ | ⟨x, hq, rfl, hn⟩
      · exact .unsent hq
      · exact .answered hq (by rw [hn]; exact fun job => nofun)
  · rw [hr] at hx ho
    obtain ⟨x, hq, rfl, hn⟩ := ho.of_ok
    refine ⟨[x], ?_, .answered hq (by rw [hn]; exact fun job => nofun)⟩
    simp only [Mutation.settle, Job.Timeline.still]
    rw [show u = s.after u.server [x] from hx, Session.exchanges_after]
  · rw [hr] at hx ho
    obtain ⟨x, hq, rfl, hn⟩ := ho.of_ok
    obtain ⟨r, hreply, -, hd⟩ := Exchange.response_of_read hn
    obtain ⟨hs, hj⟩ := Client.accepted_of_deletionOf hd
    obtain ⟨rest, hm, hw⟩ := t.settle_adds server allowed job (0 + 0) u
    refine ⟨x :: rest, ?_, .accepted hq hreply hs hj hw⟩
    rw [hm, show u = s.after u.server [x] from hx, Session.exchanges_after, List.append_assoc, List.singleton_append]

/-- The last phases of a deletion add no exchanges to it. -/
theorem mutate_adds {answer : Conversation σ (Mutation.Response Unit)} {request : Result Http.Request}
    (ha : answer.Sends (Once request Client.deletionOf)) {s : Session σ} (hp : s.phase.canAdvance .mutating = true) :
    (t.mutate server allowed answer).Adds s (Deletion t.client request) := by
  refine Undertaking.Adds.enter hp ?_
  obtain ⟨log, hx, hd⟩ := t.change_adds server allowed ha (s.record (.entered .mutating))
  exact ⟨log, (Undertaking.exchanges_ending _ _).trans hx, hd⟩

/-- Deleting a space makes the exchanges of deleting it. -/
theorem deleteSpace_adds (name : String) (s : Session σ) :
    (t.deleteSpace server allowed name).Adds s (t.SpaceDeletion name) := by
  refine Undertaking.Adds.start (Undertaking.Adds.enter rfl ?_)
  refine Undertaking.Adds.converse (t.findSpace_leads server name) fun found u log hu => ?_
  exact t.mutate_adds server allowed (t.client.delete_sends server _ _) (by rw [hu, Session.phase_after]; rfl)

/-- Deleting a service instance makes the exchanges of deleting it. -/
theorem deleteServiceInstance_adds (name : String) (s : Session σ) :
    (t.deleteServiceInstance server allowed name).Adds s (t.ServiceInstanceDeletion name) := by
  refine Undertaking.Adds.start (Undertaking.Adds.enter rfl ?_)
  refine Undertaking.Adds.converse (t.spaceId_leads server) fun space u log hu => ?_
  refine Undertaking.Adds.converse (t.resolve_leads server _ _ _ name) fun found v more hv => ?_
  refine t.mutate_adds server allowed ?_ (by rw [hv, Session.phase_after, hu, Session.phase_after]; rfl)
  unfold Client.deleteServiceInstance Client.serviceInstanceDeletion
  cases found.origin with
  | managed => exact t.client.delete_sends server _ _
  | userProvided => exact t.client.delete_sends server _ _

end Target

/-- What follows the lookup of the organization carefully makes all of it careful. -/
theorem Target.InOrganization.careful {t : Target} {rest : String → List Exchange → Prop} {log : List Exchange}
    (h : t.InOrganization rest log) (hr : ∀ a tail, rest a tail → Careful tail) : Careful log := by
  unfold InOrganization at h
  cases ht : t.organization with
  | none =>
    rw [ht] at h
    exact (show log = [] from h) ▸ .nil
  | some name =>
    rw [ht] at h
    exact Lookup.Then.careful h fun found => hr found.id

/-- What follows the lookup of a space carefully makes all of it careful. -/
theorem Target.AtSpace.careful {t : Target} {name : String} {rest : Space → List Exchange → Prop} {log : List Exchange}
    (h : t.AtSpace name rest log) (hr : ∀ a tail, rest a tail → Careful tail) : Careful log :=
  InOrganization.careful h fun _ _ htail => htail.careful hr

/-- What follows the lookup of the space that is targeted carefully makes all of it careful. -/
theorem Target.InSpace.careful {t : Target} {rest : String → List Exchange → Prop} {log : List Exchange}
    (h : t.InSpace rest log) (hr : ∀ a tail, rest a tail → Careful tail) : Careful log := by
  unfold InSpace at h
  cases ht : t.space with
  | none =>
    rw [ht] at h
    exact (show log = [] from h) ▸ .nil
  | some name =>
    rw [ht] at h
    exact AtSpace.careful h fun found => hr found.id

/-- Against any server, from any session on, and for any names: what deleting a service instance or a space adds to the
exchanges comes in stages, from one lookup to the next and to the deletion and the wait for its job, each only after the one
before it has ended well. At most one exchange asks for a deletion, and none follows one without success. -/
theorem Target.deletions_sequenced (t : Target) (server : Http.Server σ) (allowed : Nat) (name : String) (s : Session σ) :
    (∃ log, ((t.deleteServiceInstance server allowed name).runOn s).2.exchanges = s.exchanges ++ log ∧
        t.ServiceInstanceDeletion name log ∧ Careful log) ∧
      ∃ log, ((t.deleteSpace server allowed name).runOn s).2.exchanges = s.exchanges ++ log ∧
        t.SpaceDeletion name log ∧ Careful log := by
  constructor
  · obtain ⟨log, hx, hd⟩ := t.deleteServiceInstance_adds server allowed name s
    exact ⟨log, hx, hd, InSpace.careful hd fun space tail h => h.careful fun found tail h => h.careful⟩
  · obtain ⟨log, hx, hd⟩ := t.deleteSpace_adds server allowed name s
    exact ⟨log, hx, hd, AtSpace.careful hd fun found tail h => h.careful⟩

end ControlPlane
