import ControlPlane.Proofs.Exchange.Names
import ControlPlane.Proofs.Operation.Phases

/-!
# How operations end

An operation is at its end when it comes to a result or a failure, and its last phase tells which: so `Conversation.LooksUp` says of
the operations that only look something up, and `Undertaking.Deletes` of the deletions. No phase is ever refused on the way. The main
statement is `Target.operations_end`: this holds of every operation, against any server and from any session on.
-/

namespace ControlPlane

variable {σ α β : Type}

/-! ## Results that refuse no phase -/

/-- Whether a failure is that a phase was refused. -/
def Failure.isTransition : Failure → Bool
  | .invalidTransition .. => true
  | _ => false

/-- Whether a result is not that a phase was refused. -/
def IsOrderly (r : Result α) : Prop := ∀ e, r = .error e → e.isTransition = false

namespace IsOrderly

theorem ok (a : α) : IsOrderly (.ok a) := nofun

theorem error {e : Failure} (h : e.isTransition = false) : IsOrderly (.error e : Result α) := by
  intro e' he
  cases he
  exact h

theorem map {r : Result α} (h : IsOrderly r) (f : α → β) : IsOrderly (r.map f) := by
  cases r with
  | ok a => exact ok (f a)
  | error e => exact error (h e rfl)

theorem bind {r : Result α} (h : IsOrderly r) {f : α → Result β} (hf : ∀ a, IsOrderly (f a)) : IsOrderly (r.bind f) := by
  cases r with
  | ok a => exact hf a
  | error e => exact error (h e rfl)

end IsOrderly

namespace Http.Response

theorem check_isOrderly (r : Response) : IsOrderly r.check := by
  unfold check
  split
  · exact .ok r
  · split <;> exact .error rfl

theorem decode_isOrderly (d : Json.Decoder α) (r : Response) : IsOrderly (r.decode d) := by
  unfold decode
  split
  · exact .error rfl
  · next body _ =>
    cases d.run body.octets with
    | ok a => exact .ok a
    | error e => exact .error rfl

end Http.Response

namespace Client

theorem address_isOrderly (c : Client) (path : String) : IsOrderly (c.address path) := by
  unfold address
  split
  · exact .error rfl
  · split
    · exact .ok _
    · exact .error rfl

theorem request_isOrderly (c : Client) (method : Http.Method) (u : Url) : IsOrderly (c.request method u) := by
  unfold request
  split
  · split
    · exact .ok _
    · exact .error rfl
  · exact .error rfl

theorem pageOf_isOrderly (list : Collection α) (number : UInt32) (r : Http.Response) : IsOrderly (pageOf list number r) :=
  (r.decode_isOrderly list.envelope).map _

theorem acceptedJob_isOrderly (r : Http.Response) : IsOrderly (acceptedJob r) := by
  unfold acceptedJob
  split
  · exact .ok _
  · exact (r.decode_isOrderly _).map _

theorem deletionOf_isOrderly (r : Http.Response) : IsOrderly (deletionOf r) := by
  unfold deletionOf
  split
  · exact (acceptedJob_isOrderly r).map _
  · exact .ok _

theorem statusOf_isOrderly (version : Job.Version) (r : Http.Response) : IsOrderly (statusOf version r) := by
  cases version with
  | v2 => exact (r.decode_isOrderly _).map _
  | v3 => exact (r.decode_isOrderly _).map _

end Client

namespace Conversation

/-- Whether a conversation is orderly whatever session it is held in. -/
def StaysOrderly (c : Conversation σ α) : Prop := ∀ s, IsOrderly (c.runOn s).1

namespace StaysOrderly

theorem known {r : Result α} (h : IsOrderly r) : (Conversation.known (σ := σ) r).StaysOrderly := fun _ => h

theorem bind {c : Conversation σ α} {f : α → Conversation σ β} (hc : c.StaysOrderly) (hf : ∀ a, (f a).StaysOrderly) :
    (c >>= f).StaysOrderly := by
  intro s
  have hr := hc s
  rw [runOn_bind]
  rcases hrun : c.runOn s with ⟨e | a, t⟩
  · rw [hrun] at hr
    exact .error (hr e rfl)
  · exact hf a t

end StaysOrderly

end Conversation

namespace Client

variable (c : Client) (server : Http.Server σ)

theorem send_staysOrderly (method : Http.Method) (u : Url) : (c.send server method u).StaysOrderly := by
  unfold send
  refine .bind (.known (c.request_isOrderly method u)) fun q => ?_
  refine .bind (fun _ => .ok _) fun reply => ?_
  cases reply with
  | dropped => exact .known (.error rfl)
  | response r => exact .known r.check_isOrderly

theorem page_staysOrderly (list : Collection α) (query : Query) (number : UInt32) :
    (c.page server list query number).StaysOrderly := by
  rw [page_eq]
  exact .bind (.bind (.known (c.address_isOrderly _)) fun _ => c.send_staysOrderly server _ _) fun r =>
    .known (pageOf_isOrderly list number r)

theorem delete_staysOrderly (path : String) (pairs : List (String × String)) : (c.delete server path pairs).StaysOrderly :=
  .bind (.bind (.known (c.address_isOrderly _)) fun _ => c.send_staysOrderly server _ _) fun r => .known (deletionOf_isOrderly r)

theorem status_staysOrderly (version : Job.Version) (job : String) : (c.status server version job).StaysOrderly :=
  .bind (.bind (.known (c.address_isOrderly _)) fun _ => c.send_staysOrderly server _ _) fun r =>
    .known (statusOf_isOrderly version r)

theorem statuses_isOrderly (version : Job.Version) (job : String) (now : Nat) (s : Session σ) :
    IsOrderly (c.statuses server version job now s).1.result := by
  simp only [statuses]
  exact c.status_staysOrderly server version job s

end Client

namespace Job

variable {w : Wait} {e : Failure}

theorem Wait.verdict_isOrderly {r : Result Status} (hr : IsOrderly r) (h : w.verdict r = some (.error (.failure e))) :
    e.isTransition = false := by
  unfold verdict at h
  cases r with
  | error f =>
    cases h
    exact hr e rfl
  | ok status =>
    cases hs : status.state with
    | queued | running | finished => simp [hs] at h
    | failed =>
      simp only [hs, Option.some.injEq, Except.error.injEq, Halt.failure.injEq] at h
      rw [← h]
      rfl

/-- A round that ends a wait does so for the lack of time, or with the verdict on the answer. -/
theorem Wait.round_isOrderly {answer : Answer} {delay : Duration} {now time : Nat} (ha : IsOrderly answer.result)
    (h : w.round answer delay now = .ends (.error (.failure e)) time) : e.isTransition = false := by
  unfold round at h
  split at h
  · next halt harrival =>
    cases h
    unfold arrival at harrival
    split at harrival <;> first | cases harrival | (split at harrival <;> cases harrival)
  · cases h
    rfl
  · split at h
    · next outcome hverdict =>
      cases h
      exact verdict_isOrderly ha hverdict
    · split at h
      · cases h
        rfl
      · cases h

/-- Waiting for a job is orderly where its statuses are. -/
theorem await_isOrderly {source : StatusSource σ} (hsource : ∀ job now s, IsOrderly (source job now s).1.result)
    (handle : Handle) (settings : PollSettings) (allowed now : Nat) (s : σ)
    (h : (await source handle settings allowed now s).outcome = .error (.failure e)) : e.isTransition = false := by
  have hrun (w : Wait) (allowed : Nat) : ∀ (delay : Duration) (now : Nat) (s : σ),
      (w.run source allowed delay now s).outcome = .error (.failure e) → e.isTransition = false := by
    induction allowed with
    | zero => exact fun delay now s h => by cases h
    | succ allowed ih =>
      intro delay now s h
      rw [Wait.run_succ] at h
      cases hround : w.round (source w.job now s).1 delay now with
      | ends outcome time =>
        rw [hround] at h
        obtain rfl : outcome = .error (.failure e) := h
        exact Wait.round_isOrderly (hsource w.job now s) hround
      | asks next =>
        rw [hround] at h
        exact ih _ next _ h
  unfold await at h
  dsimp only at h
  split at h
  · cases h
  · exact hrun _ allowed _ now s h

end Job

/-! ## Lookups -/

/-- Whether exchanges change nothing: each asks for what is there. -/
def OnlyGets (log : List Exchange) : Prop := ∀ x ∈ log, x.request.method = .get

namespace OnlyGets

variable {log more : List Exchange}

theorem nil : OnlyGets [] := fun _ h => absurd h List.not_mem_nil

theorem cons {x : Exchange} (hx : x.request.method = .get) (h : OnlyGets log) : OnlyGets (x :: log) := by
  intro y hy
  rcases List.mem_cons.mp hy with rfl | hy
  · exact hx
  · exact h y hy

theorem append (h : OnlyGets log) (h' : OnlyGets more) : OnlyGets (log ++ more) := by
  intro x hx
  rcases List.mem_append.mp hx with hx | hx
  · exact h x hx
  · exact h' x hx

end OnlyGets

theorem Lookup.onlyGets {c : Client} {list : Collection α} {query : Query} {n : UInt32} {log : List Exchange}
    {found : Option (List α)} (h : Lookup c list query n log found) : OnlyGets log := by
  induction h with
  | unsent => exact .nil
  | failed hq | stale hq | last hq => exact .cons (Client.method_of_requestAt hq) .nil
  | next hq _ _ _ _ ih => exact .cons (Client.method_of_requestAt hq) ih

/-- Whether a conversation only looks something up: it changes nothing, and is orderly. -/
def Conversation.Looks (c : Conversation σ α) : Prop := c.Sends fun log r => OnlyGets log ∧ IsOrderly r

namespace Conversation.Looks

theorem known {r : Result α} (h : IsOrderly r) : (Conversation.known (σ := σ) r).Looks := by
  refine (Sends.known r).weaken ?_
  rintro log r' ⟨rfl, rfl⟩
  exact ⟨.nil, h⟩

theorem bind {c : Conversation σ α} {f : α → Conversation σ β} (hc : c.Looks) (hf : ∀ a, (f a).Looks) : (c >>= f).Looks := by
  refine (Sends.bind hc hf).weaken ?_
  rintro log r (⟨e, ⟨hlog, he⟩, rfl⟩ | ⟨a, first, rest, rfl, ⟨hfirst, -⟩, hrest, hr⟩)
  · exact ⟨hlog, .error (he e rfl)⟩
  · exact ⟨hfirst.append hrest, hr⟩

end Conversation.Looks

/-- A list is orderly where its pages are. -/
theorem PageSource.listing_isOrderly {source : PageSource σ α} (hsource : ∀ n s, IsOrderly (source n s).1.result) (n : UInt32)
    (s : σ) : ∀ r ∈ source.listing n s, IsOrderly r := by
  have hitems (items : List α) : ∀ r ∈ items.map (.ok : α → Result α), IsOrderly r := by
    intro r hr
    obtain ⟨a, -, rfl⟩ := List.mem_map.mp hr
    exact .ok a
  induction n, s using PageSource.walk_induction source with
  | failed n s e hr =>
    rw [listing_of_failed hr]
    intro r hmem
    rw [List.mem_singleton.mp hmem]
    exact .error (hsource n s e hr)
  | stale n s p m hr hn hle =>
    rw [listing_of_stale hr hn hle]
    intro r hmem
    rw [List.mem_singleton.mp hmem]
    exact .error rfl
  | last n s p hr hn =>
    rw [listing_of_last hr hn]
    exact hitems p.items
  | next n s p m hr hn hlt ih =>
    rw [listing_of_next hr hn hlt]
    intro r hmem
    rcases List.mem_append.mp hmem with hmem | hmem
    · exact hitems p.items r hmem
    · exact ih r hmem

namespace Target

/-- Whether a list is read by looking things up. -/
def Listing.Looks (items : Listing σ α) : Prop :=
  ∀ s, ∃ log, (items s).2 = s.after (items s).2.server log ∧ OnlyGets log ∧ ∀ r ∈ (items s).1, IsOrderly r

theorem listing_looks (t : Target) (server : Http.Server σ) (list : Collection α) (query : Query) :
    (t.listing server list query).Looks := by
  intro s
  obtain ⟨log, hs, hl⟩ := t.client.pages_lookup server list query 1 s
  simp only [listing, PageSource.results_eq_walk]
  exact ⟨log, hs, hl.onlyGets, PageSource.listing_isOrderly (fun n s => t.client.page_staysOrderly server list query n s) 1 s⟩

namespace Listing.Looks

variable {items : Listing σ α}

/-- Of a list some kind of items may be selected. -/
theorem select (h : items.Looks) (isWanted : α → Bool) :
    Listing.Looks fun s => (Fallible.select isWanted (items s).1, (items s).2) := by
  intro s
  obtain ⟨log, hs, hlog, hr⟩ := h s
  exact ⟨log, hs, hlog, fun r hmem => hr r (List.mem_filter.mp hmem).1⟩

/-- A name may be resolved against a list. -/
theorem resolve (h : items.Looks) (entity name : String) : (items.resolve entity name).Looks := by
  intro s
  obtain ⟨log, hs, hlog, hr⟩ := h s
  refine ⟨log, hs, hlog, ?_⟩
  have hdrain (items : List (Result α)) (hitems : ∀ r ∈ items, IsOrderly r) : IsOrderly (Fallible.drain items).1 := by
    induction items with
    | nil => exact .ok []
    | cons r rest ih =>
      cases r with
      | error e => exact .error (hitems _ List.mem_cons_self e rfl)
      | ok a => exact (ih fun r hr => hitems r (List.mem_cons_of_mem _ hr)).map _
  refine (hdrain _ hr).bind fun found => ?_
  unfold Resolution.single
  split
  · exact .error rfl
  · exact .ok _
  · exact .error rfl

end Listing.Looks

variable (t : Target) (server : Http.Server σ)

theorem findOrganization_looks (name : String) : (t.findOrganization server name).Looks :=
  (t.listing_looks server .organizations _).resolve _ name

theorem organizationId_looks : (t.organizationId server).Looks := by
  unfold organizationId
  cases t.organization with
  | none => exact .known (.error rfl)
  | some name => exact (t.findOrganization_looks server name).bind fun found => .known (.ok found.id)

theorem findSpace_looks (name : String) : (t.findSpace server name).Looks :=
  (t.organizationId_looks server).bind fun organization => (t.listing_looks server (.spaces organization) _).resolve _ name

theorem spaceId_looks : (t.spaceId server).Looks := by
  unfold spaceId
  cases t.space with
  | none => exact .known (.error rfl)
  | some name => exact (t.findSpace_looks server name).bind fun found => .known (.ok found.id)

theorem findServiceInstance_looks (space name : String) : (t.findServiceInstance server space name).Looks :=
  (t.listing_looks server (.serviceInstances space) _).resolve _ name

/-- The lookup of the organization comes before a list within it. -/
theorem within_looks (list : String → Collection α) : (t.within server list).Looks := by
  intro s
  obtain ⟨log, hs, hlog, hr⟩ := t.organizationId_looks server s
  unfold within
  rcases hrun : (t.organizationId server).runOn s with ⟨e | organization, u⟩
  · rw [hrun] at hs hr
    refine ⟨log, hs, hlog, fun r hmem => ?_⟩
    rw [List.mem_singleton.mp hmem]
    exact .error (hr e rfl)
  · rw [hrun] at hs
    obtain ⟨more, hs', hmore, hr'⟩ := t.listing_looks server (list organization) .all u
    exact ⟨log ++ more, Session.after_trans hs hs', hlog.append hmore, hr'⟩

theorem findSpaceQuota_looks (name : String) : (t.findSpaceQuota server name).Looks :=
  ((t.within_looks server .spaceQuotas).select (·.name == name)).resolve _ name

end Target

/-! ## The ends of operations -/

namespace Phase

/-- The last phase of an operation, by what it comes to. -/
def ending : Result α → Phase
  | .ok _ => .completed
  | .error e => .failed e.kind

/-- The last phase of an operation that may wait. One that comes to nothing has not ended. -/
def ending? : Except Job.Halt α → Option Phase
  | .ok _ => some .completed
  | .error (.failure e) => some (.failed e.kind)
  | .error _ => none

/-- Only a phase that is no end can be followed by the completion of an operation. -/
theorem isTerminal_of_canAdvance {p next : Phase} (h : p.canAdvance next = true) : p.isTerminal = false := by
  cases hp : p.isTerminal with
  | false => rfl
  | true =>
    rw [canAdvance_of_isTerminal hp] at h
    cases h

end Phase

/-- What an operation that only looks something up does after its first phases: it changes nothing, no phase is refused to it, and its
last phase is its end. -/
structure LooksUp (before : List Activity) (run : Result α × Session σ) : Prop where
  orderly : IsOrderly run.1
  ended : run.2.phase = .ending run.1
  course : ∃ log, OnlyGets log ∧
    run.2.activities = before ++ (log.map Exchange.activity ++ [.entered (.ending run.1)])

/-- An attempt at a deletion that is asked for with a request: what is done for it, and what it comes to. It is asked for once. Only
where this is accepted as a job, the wait for the job begins, before its status is asked for. -/
inductive Attempt (c : Client) (request : Result Http.Request) :
    List Activity → Except Job.Halt (Mutation.Completed Unit) → Prop
  /-- The deletion cannot be asked for. -/
  | unsent {e : Failure} : request = .error e → Attempt c request [] (.error (.failure e))
  /-- It is not answered well. -/
  | refused {x : Exchange} (e : Failure) :
      request = .ok x.request → x.IsDeletion → x.read Client.deletionOf = none → Attempt c request [x.activity] (.error (.failure e))
  /-- It was made at once. -/
  | immediate {x : Exchange} :
      request = .ok x.request → x.IsDeletion → x.read Client.deletionOf = some (.immediate ()) →
      Attempt c request [x.activity] (.ok (.immediate ()))
  /-- It was accepted as a job. -/
  | accepted {x : Exchange} {job : Job.Handle} {log : List Exchange} {r : Except Job.Halt Unit} :
      request = .ok x.request → x.IsDeletion → x.read Client.deletionOf = some (.accepted job) → Watch c job.id log →
      Attempt c request (x.activity :: .entered .awaitingJob :: log.map Exchange.activity) (r.map fun _ => .job job)

/-- What a deletion does after its first phases: it looks something up, and where that fails, so does the deletion. Otherwise it enters
the phase of its change and attempts it. No phase is refused to it, and where it comes to something its last phase is its end. -/
structure Deletes (c : Client) (before : List Activity) (run : Except Job.Halt (Mutation.Completed Unit) × Session σ) : Prop where
  orderly : ∀ e, run.1 = .error (.failure e) → e.isTransition = false
  ended : ∀ p ∈ Phase.ending? run.1, run.2.phase = p
  course : ∃ log done, OnlyGets log ∧
    ((done = [] ∧ ∃ e, run.1 = .error (.failure e)) ∨
      ∃ path pairs attempt, done = .entered .mutating :: attempt ∧ Attempt c (c.deletionRequest path pairs) attempt run.1) ∧
    run.2.activities = before ++ (log.map Exchange.activity ++ (done ++ (Phase.ending? run.1).toList.map .entered))

namespace Session

/-- An operation that has not ended may fail. -/
theorem fail_of_not_isTerminal {s : Session σ} (h : s.phase.isTerminal = false) (e : Failure) :
    s.fail e = s.record (.entered (.failed e.kind)) := by
  simp [fail, Phase.fail, h]

end Session

/-- A conversation after which an operation can be completed ends the operation. -/
theorem Conversation.runOn_ending {c : Conversation σ α} {s : Session σ}
    (hp : (c.runOn s).2.phase.canAdvance .completed = true) :
    (c.watched >>= fun a => enter .completed >>= fun _ => pure a).runOn s =
      ((c.runOn s).1, (c.runOn s).2.record (.entered (.ending (c.runOn s).1))) := by
  rw [runOn_bind, watched, runOn_of]
  rcases hrun : c.runOn s with ⟨e | a, t⟩
  all_goals rw [hrun] at hp
  · show (Except.error e, t.fail e) = _
    rw [Session.fail_of_not_isTerminal (Phase.isTerminal_of_canAdvance hp)]
    rfl
  · show (enter .completed >>= fun _ => pure a).runOn t = _
    rw [runOn_bind, runOn_enter hp]
    rfl

/-- An undertaking after which an operation can be completed ends the operation, where it comes to something. -/
theorem Undertaking.runOn_ending_eq {u : Undertaking σ α} {s : Session σ} (hp : (u.runOn s).2.phase.canAdvance .completed = true) :
    (u.watched >>= fun a => converse (.enter .completed) >>= fun _ => pure a).runOn s =
      ((u.runOn s).1, match Phase.ending? (u.runOn s).1 with
        | some p => (u.runOn s).2.record (.entered p)
        | none => (u.runOn s).2) := by
  have hnothing (halt : Job.Halt) (t : Session σ) (hrun : u.watched.runOn s = (.error halt, t)) :
      (u.watched >>= fun a => converse (.enter .completed) >>= fun _ => pure a).runOn s = (.error halt, t) := by
    rw [runOn_bind, hrun]
  rcases hrun : u.runOn s with ⟨(e | _ | _ | _) | a, t⟩
  · rw [hrun] at hp
    rw [runOn_ending_failure hrun, Session.fail_of_not_isTerminal (Phase.isTerminal_of_canAdvance hp)]
    rfl
  · exact hnothing .clockOverflow t (by simp only [watched, runOn_of, hrun])
  · exact hnothing .hung t (by simp only [watched, runOn_of, hrun])
  · exact hnothing .exhausted t (by simp only [watched, runOn_of, hrun])
  · rw [hrun] at hp
    exact runOn_ending hrun hp

namespace Target

/-- What is found by looking things up completes the operation that asks for it, and otherwise it fails. -/
theorem lookUp_looksUp {find : Conversation σ α} (hfind : find.Looks) (s : Session σ) :
    LooksUp (s.activities ++ [.entered .started, .entered .resolving]) ((lookUp find).runOn s) := by
  obtain ⟨log, hs, hlog, hr⟩ := hfind ((s.record (.entered .started)).record (.entered .resolving))
  have hp : (find.runOn ((s.record (.entered .started)).record (.entered .resolving))).2.phase = .resolving := by
    rw [hs, Session.phase_after]
    rfl
  rw [runOn_lookUp, Conversation.runOn_ending (by rw [hp]; rfl)]
  refine ⟨hr, rfl, log, hlog, ?_⟩
  rw [Session.activities_entered, hs, Session.activities_after, Session.activities_entered, Session.activities_entered]
  simp

variable (t : Target) (server : Http.Server σ) (allowed : Nat) {answer : Conversation σ (Mutation.Response Unit)}
  {s u : Session σ}

theorem runOn_change_failed {e : Failure} (h : answer.runOn s = (.error e, u)) :
    (t.change server allowed answer).runOn s = (.error (.failure e), u) := by
  simp only [change, Undertaking.runOn_of, Mutation.run, h, Mutation.settle, Job.Timeline.still]

theorem runOn_change_made (h : answer.runOn s = (.ok (.immediate ()), u)) :
    (t.change server allowed answer).runOn s = (.ok (.immediate ()), u) := by
  simp only [change, Undertaking.runOn_of, Mutation.run, h, Mutation.settle, Job.Timeline.still]

/-- A change that is accepted as a job is followed by the phase of the job, and then by the wait for it. -/
theorem runOn_change_awaited {job : Job.Handle} (h : answer.runOn s = (.ok (.accepted job), u)) (hu : u.phase = .mutating) :
    ∃ line : Job.Timeline (Session σ) Unit,
      line = Job.await (t.client.statuses server .v2) job t.settings allowed (0 + 0) (u.record (.entered .awaitingJob)) ∧
        (t.change server allowed answer).runOn s = (line.outcome.map fun _ => .job job, line.state) := by
  have hhook : acceptance job (0 + 0) u = (.ok (), u.record (.entered .awaitingJob)) :=
    Conversation.runOn_enter (by rw [hu]; rfl)
  refine ⟨_, rfl, ?_⟩
  simp only [change, Undertaking.runOn_of, Mutation.run, h, Mutation.settle, hhook, Job.Timeline.after, Job.Timeline.map]

/-- A change that is asked for with a request to delete is attempted in its phase, and the operation can be completed after it. -/
theorem change_attempts {request : Result Http.Request} (ha : answer.Sends (Once request Client.deletionOf))
    (hm : ∀ q, request = .ok q → q.method = .delete) (ho : answer.StaysOrderly) (hs : s.phase = .mutating) :
    ∃ attempt r v, (t.change server allowed answer).runOn s = (r, v) ∧ Attempt t.client request attempt r ∧
      v.activities = s.activities ++ attempt ∧ v.phase.canAdvance .completed = true ∧
      ∀ e, r = .error (.failure e) → e.isTransition = false := by
  obtain ⟨log, hx, honce⟩ := ha s
  have hanswer := ho s
  rcases hrun : answer.runOn s with ⟨e | ⟨⟨⟩⟩ | job, u⟩
  all_goals
    rw [hrun] at hx honce hanswer
    have hu : u.phase = .mutating := by rw [show u = _ from hx, Session.phase_after, hs]
    have hactivities : u.activities = s.activities ++ log.map Exchange.activity := by
      rw [show u = _ from hx, Session.activities_after]
  · refine ⟨_, _, u, t.runOn_change_failed server allowed hrun, ?_, hactivities, by rw [hu]; rfl, fun e' he => ?_⟩
    · rcases honce.of_error with ⟨hq, rfl⟩ | ⟨x, hq, rfl, hn⟩
      · exact .unsent hq
      · exact .refused e hq (hm _ hq) hn
    · cases he
      exact hanswer e rfl
  · obtain ⟨x, hq, rfl, hn⟩ := honce.of_ok
    exact ⟨_, _, u, t.runOn_change_made server allowed hrun, .immediate hq (hm _ hq) hn, hactivities, by rw [hu]; rfl, nofun⟩
  · obtain ⟨x, hq, rfl, hn⟩ := honce.of_ok
    obtain ⟨line, hline, hchange⟩ := t.runOn_change_awaited server allowed hrun hu
    obtain ⟨more, hstate, hwatch⟩ :=
      Job.await_watch t.client server job t.settings allowed (0 + 0) (u.record (.entered .awaitingJob))
    rw [← hline] at hstate
    refine ⟨_, _, line.state, hchange, .accepted hq (hm _ hq) hn hwatch, ?_, ?_, fun e he => ?_⟩
    · rw [hstate, Session.activities_after, Session.activities_entered, hactivities]
      simp
    · rw [hstate, Session.phase_after]
      rfl
    · cases hr : line.outcome with
      | ok a =>
        rw [hr] at he
        cases he
      | error halt =>
        rw [hr] at he
        cases he
        rw [hline] at hr
        exact Job.await_isOrderly (t.client.statuses_isOrderly server .v2) job t.settings allowed _ _ hr

/-- The last phases of a deletion. -/
theorem mutate_deletes (path : String) (pairs : List (String × String)) (hs : s.phase = .resolving) :
    Deletes t.client s.activities ((t.mutate server allowed (t.client.delete server path pairs)).runOn s) := by
  have henter : (Undertaking.converse (.enter .mutating)).runOn s = (.ok (), s.record (.entered .mutating)) := by
    rw [Undertaking.runOn_converse, Conversation.runOn_enter (by rw [hs]; rfl), Undertaking.mapError_ok]
  obtain ⟨attempt, r, v, hrun, hattempt, hactivities, hp, horderly⟩ :=
    t.change_attempts server allowed (t.client.delete_sends server path pairs) (fun _ => Client.method_of_requestAt)
      (t.client.delete_staysOrderly server path pairs) (s := s.record (.entered .mutating)) rfl
  have hmutate : (t.mutate server allowed (t.client.delete server path pairs)).runOn s =
      (r, match Phase.ending? r with
        | some p => v.record (.entered p)
        | none => v) := by
    rw [mutate, Undertaking.runOn_bind, henter]
    have hending := Undertaking.runOn_ending_eq (u := t.change server allowed (t.client.delete server path pairs))
      (s := s.record (.entered .mutating)) (by rw [hrun]; exact hp)
    rw [hrun] at hending
    exact hending
  rw [hmutate]
  refine ⟨horderly, fun p hp => ?_, [], _, .nil, Or.inr ⟨path, pairs, attempt, rfl, hattempt⟩, ?_⟩
  · rw [show Phase.ending? r = some p from hp]
    rfl
  · rw [Session.activities_entered] at hactivities
    cases hending : Phase.ending? r with
    | some p =>
      simp only [Session.activities_entered, hactivities]
      simp
    | none =>
      simp only [hactivities]
      simp

/-- A deletion may look something up before the rest of it, or fail to. -/
theorem deletes_after {c : Client} {find : Conversation σ α} {f : α → Undertaking σ (Mutation.Completed Unit)}
    (hfind : find.Looks) (hs : s.phase = .resolving)
    (hf : ∀ a (u : Session σ), u.phase = .resolving → Deletes c u.activities ((f a).runOn u)) :
    Deletes c s.activities ((Undertaking.converse find.watched >>= f).runOn s) := by
  obtain ⟨log, hx, hlog, hr⟩ := hfind s
  rcases hrun : find.runOn s with ⟨e | a, u⟩
  all_goals
    rw [hrun] at hx hr
    have hu : u.phase = .resolving := by rw [show u = _ from hx, Session.phase_after, hs]
    have hactivities : u.activities = s.activities ++ log.map Exchange.activity := by
      rw [show u = _ from hx, Session.activities_after]
  · have hfails : (Undertaking.converse find.watched >>= f).runOn s =
        (.error (.failure e), u.record (.entered (.failed e.kind))) := by
      have hwatched : find.watched.runOn s = (.error e, u.fail e) := by
        simp only [Conversation.watched, Conversation.runOn_of, hrun]
      rw [Undertaking.runOn_bind, Undertaking.runOn_converse, hwatched,
        Session.fail_of_not_isTerminal (by rw [hu]; rfl)]
      rfl
    rw [hfails]
    refine ⟨fun e' he => ?_, fun p hp => ?_, log, [], hlog, Or.inl ⟨rfl, e, rfl⟩, ?_⟩
    · cases he
      exact hr e rfl
    · cases hp
      rfl
    · rw [Session.activities_entered, hactivities, List.append_assoc]
      rfl
  · have hgoes : (Undertaking.converse find.watched >>= f).runOn s = (f a).runOn u := by
      have hwatched : find.watched.runOn s = (.ok a, u) := by
        simp only [Conversation.watched, Conversation.runOn_of, hrun]
      rw [Undertaking.runOn_bind, Undertaking.runOn_converse, hwatched]
      rfl
    rw [hgoes]
    obtain ⟨horderly, hended, more, done, hmore, hdone, hcourse⟩ := hf a u hu
    refine ⟨horderly, hended, log ++ more, done, hlog.append hmore, hdone, ?_⟩
    rw [hcourse, hactivities]
    simp

/-- A deletion starts, and then looks something up. -/
theorem deletes_started {c : Client} {rest : Undertaking σ (Mutation.Completed Unit)}
    (h : ∀ u : Session σ, u.phase = .resolving → Deletes c u.activities (rest.runOn u)) (s : Session σ) :
    Deletes c (s.activities ++ [.entered .started, .entered .resolving])
      ((Undertaking.converse .start >>= fun _ => Undertaking.converse (.enter .resolving) >>= fun _ => rest).runOn s) := by
  have henter : (Undertaking.converse (.enter .resolving)).runOn (s.record (.entered .started)) =
      (.ok (), (s.record (.entered .started)).record (.entered .resolving)) := by
    rw [Undertaking.runOn_converse, Conversation.runOn_enter rfl, Undertaking.mapError_ok]
  have hstart : (Undertaking.converse (σ := σ) .start).runOn s = (.ok (), s.record (.entered .started)) := rfl
  have hrest := h ((s.record (.entered .started)).record (.entered .resolving)) rfl
  rw [Session.activities_entered, Session.activities_entered, List.append_assoc] at hrest
  simp only [Undertaking.runOn_bind, hstart, henter]
  exact hrest

/-- Against any server, from any session on, for any names and however it waits: an operation that looks something up, and a deletion,
do what they do in legal phases, of which none is refused. The first ask for nothing but what is there. A deletion does so until it
enters the phase of its change, and only then asks for it, once; it enters the phase of a job right after a deletion that was accepted
as one, and only then asks for statuses. What an operation comes to is its end. -/
theorem operations_end (t : Target) (server : Http.Server σ) (allowed : Nat) (name : String) (s : Session σ) :
    let before := s.activities ++ [.entered .started, .entered .resolving]
    LooksUp before ((t.getOrganization server name).runOn s) ∧
      LooksUp before ((t.getSpace server name).runOn s) ∧
      LooksUp before ((t.getSpaceQuota server name).runOn s) ∧
      Deletes t.client before ((t.deleteServiceInstance server allowed name).runOn s) ∧
      Deletes t.client before ((t.deleteSpace server allowed name).runOn s) := by
  intro before
  refine ⟨lookUp_looksUp (t.findOrganization_looks server name) s, lookUp_looksUp (t.findSpace_looks server name) s,
    lookUp_looksUp (t.findSpaceQuota_looks server name) s, deletes_started (fun u hu => ?_) s, deletes_started (fun u hu => ?_) s⟩
  · refine deletes_after (t.spaceId_looks server) hu fun space v hv => ?_
    refine deletes_after (t.findServiceInstance_looks server space name) hv fun found w hw => ?_
    unfold Client.deleteServiceInstance
    cases found.origin with
    | managed => exact t.mutate_deletes server allowed _ _ hw
    | userProvided => exact t.mutate_deletes server allowed _ _ hw
  · exact deletes_after (t.findSpace_looks server name) hu fun found v hv => t.mutate_deletes server allowed _ _ hv

end Target

end ControlPlane
