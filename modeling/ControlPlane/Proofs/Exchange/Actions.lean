import ControlPlane.Operation.Scoped
import ControlPlane.Proofs.Exchange.Requests
import ControlPlane.Proofs.Paging.Polls

/-!
# Whatever is done, the token stays at home

What can be done with a target is one of its actions: pages are asked for, lists are read or taken item by item, entities are found and
deleted, and jobs are waited for. `Session.AsksOnly` says of two sessions that only requests of one kind were made between them. It is
shown for each part of an action, then for each action (`Target.asksOnly_after`) and, by induction, for any number of them
(`Target.asksOnly_afterAll`). The main statement is `Target.token_stays_home`: against any server, all requests of any actions go to the
scheme, host and port of the client's address, and show its token. A request is what a client sends of its own accord; whether replies
that point elsewhere are followed is left to what carries the requests.
-/

namespace ControlPlane

variable {σ α β : Type} {P : Http.Request → Prop}

/-! ## Requests between two sessions -/

/-- Whether all requests that were made between two sessions are of one kind. -/
def Session.AsksOnly (P : Http.Request → Prop) (s t : Session σ) : Prop :=
  ∃ sent, t.requests = s.requests ++ sent ∧ ∀ q ∈ sent, P q

namespace Session.AsksOnly

variable {s t u : Session σ}

theorem refl (s : Session σ) : s.AsksOnly P s := ⟨[], (List.append_nil _).symm, fun _ h => absurd h List.not_mem_nil⟩

theorem trans (h : s.AsksOnly P t) (h' : t.AsksOnly P u) : s.AsksOnly P u := by
  obtain ⟨sent, hs, hsent⟩ := h
  obtain ⟨more, ht, hmore⟩ := h'
  refine ⟨sent ++ more, by rw [ht, hs, List.append_assoc], ?_⟩
  intro q hq
  rcases List.mem_append.mp hq with hq | hq
  · exact hsent q hq
  · exact hmore q hq

/-- A phase that is entered is no request. -/
theorem entered (s : Session σ) (p : Phase) : s.AsksOnly P (s.record (.entered p)) := by
  refine ⟨[], ?_, fun _ h => absurd h List.not_mem_nil⟩
  simp [requests, activities, record]

/-- A failure that is recorded is no request. -/
theorem fail (h : s.AsksOnly P t) (e : Failure) : s.AsksOnly P (t.fail e) := by
  unfold Session.fail
  split
  · exact h
  · exact h.trans (entered t _)

/-- Exchanges are made with the requests in them. -/
theorem of_after {log : List Exchange} (ht : t = s.after t.server log) (h : ∀ x ∈ log, P x.request) : s.AsksOnly P t := by
  rw [ht]
  refine ⟨log.map (·.request), s.requests_after t.server log, ?_⟩
  intro q hq
  obtain ⟨x, hx, rfl⟩ := List.mem_map.mp hq
  exact h x hx

end Session.AsksOnly

/-! ## Conversations, undertakings and waits -/

namespace Conversation

/-- Whether a conversation makes only requests of one kind. -/
def AsksOnly (P : Http.Request → Prop) (c : Conversation σ α) : Prop := ∀ s : Session σ, s.AsksOnly P (c.runOn s).2

namespace AsksOnly

/-- Where a conversation leads to, only such requests were made on the way. -/
theorem of_runOn {c : Conversation σ α} (hc : c.AsksOnly P) {s t : Session σ} {r : Result α} (hrun : c.runOn s = (r, t)) :
    s.AsksOnly P t := by
  have hs := hc s
  rwa [hrun] at hs

theorem known (r : Result α) : (Conversation.known (σ := σ) r).AsksOnly P := fun s => .refl s

theorem bind {c : Conversation σ α} {f : α → Conversation σ β} (hc : c.AsksOnly P) (hf : ∀ a, (f a).AsksOnly P) :
    (c >>= f).AsksOnly P := by
  intro s
  rw [runOn_bind]
  rcases hrun : c.runOn s with ⟨e | a, t⟩
  · exact hc.of_runOn hrun
  · exact (hc.of_runOn hrun).trans (hf a t)

theorem start : (Conversation.start (σ := σ)).AsksOnly P := fun s => .entered s .started

theorem enter (p : Phase) : (Conversation.enter (σ := σ) p).AsksOnly P := by
  intro s
  simp only [Conversation.enter, runOn_of]
  split
  · exact .entered s _
  · exact .refl s

theorem watched {c : Conversation σ α} (hc : c.AsksOnly P) : c.watched.AsksOnly P := by
  intro s
  simp only [Conversation.watched, runOn_of]
  rcases hrun : c.runOn s with ⟨e | a, t⟩
  · exact (hc.of_runOn hrun).fail e
  · exact hc.of_runOn hrun

/-- What is told of a conversation tells its requests. -/
theorem of_sends {c : Conversation σ α} {told : List Exchange → Result α → Prop} (hc : c.Sends told)
    (h : ∀ log r, told log r → ∀ x ∈ log, P x.request) : c.AsksOnly P := by
  intro s
  obtain ⟨log, ht, htold⟩ := hc s
  exact .of_after ht (h log _ htold)

end AsksOnly

end Conversation

namespace Undertaking

/-- Whether an undertaking makes only requests of one kind. -/
def AsksOnly (P : Http.Request → Prop) (u : Undertaking σ α) : Prop := ∀ s : Session σ, s.AsksOnly P (u.runOn s).2

namespace AsksOnly

/-- Where an undertaking leads to, only such requests were made on the way. -/
theorem of_runOn {u : Undertaking σ α} (hu : u.AsksOnly P) {s t : Session σ} {r : Except Job.Halt α} (hrun : u.runOn s = (r, t)) :
    s.AsksOnly P t := by
  have hs := hu s
  rwa [hrun] at hs

theorem pure (a : α) : (Pure.pure a : Undertaking σ α).AsksOnly P := fun s => .refl s

theorem converse {c : Conversation σ α} (hc : c.AsksOnly P) : (Undertaking.converse c).AsksOnly P := fun s => hc s

theorem bind {u : Undertaking σ α} {f : α → Undertaking σ β} (hu : u.AsksOnly P) (hf : ∀ a, (f a).AsksOnly P) :
    (u >>= f).AsksOnly P := by
  intro s
  rw [runOn_bind]
  rcases hrun : u.runOn s with ⟨e | a, t⟩
  · exact hu.of_runOn hrun
  · exact (hu.of_runOn hrun).trans (hf a t)

theorem watched {u : Undertaking σ α} (hu : u.AsksOnly P) : u.watched.AsksOnly P := by
  intro s
  simp only [Undertaking.watched, runOn_of]
  rcases hrun : u.runOn s with ⟨(e | _ | _ | _) | a, t⟩
  · exact (hu.of_runOn hrun).fail e
  all_goals exact hu.of_runOn hrun

end AsksOnly

end Undertaking

namespace Job

variable {source : StatusSource (Session σ)}

/-- A wait makes the requests of its source. -/
theorem Wait.run_asksOnly (hsource : ∀ job now (s : Session σ), s.AsksOnly P (source job now s).2) (w : Wait) (allowed : Nat) (delay : Duration)
    (now : Nat) (s : Session σ) : s.AsksOnly P (w.run source allowed delay now s).state := by
  induction allowed generalizing delay now s with
  | zero => exact .refl s
  | succ allowed ih =>
    have hasked := hsource w.job now s
    rw [run_succ]
    cases w.round (source w.job now s).1 delay now with
    | ends outcome time => exact hasked
    | asks next => exact hasked.trans (ih _ next _)

/-- Waiting for a job makes the requests of its source. -/
theorem await_asksOnly (hsource : ∀ job now (s : Session σ), s.AsksOnly P (source job now s).2) (handle : Handle) (settings : PollSettings)
    (allowed now : Nat) (s : Session σ) : s.AsksOnly P (await source handle settings allowed now s).state := by
  unfold await
  dsimp only
  split
  · exact .refl s
  · exact Wait.run_asksOnly hsource _ allowed _ now s

end Job

/-- A pager that is polled makes the requests of its source. -/
theorem Pager.poll_asksOnly {source : PageSource (Session σ) α} (hsource : ∀ n (s : Session σ), s.AsksOnly P (source n s).2) (p : Pager α)
    (s : Session σ) : s.AsksOnly P (p.poll source s).2.2 :=
  Pager.poll_keeps source (P := s.AsksOnly P) (fun n u h => h.trans (hsource n u)) p (.refl s)

/-! ## The requests of a client -/

/-- A request that is sent once is the one in all exchanges. -/
theorem Once.request_eq {request : Result Http.Request} {reader : Http.Response → Result α} {log : List Exchange} {r : Result α}
    (h : Once request reader log r) : ∀ x ∈ log, request = .ok x.request := by
  intro x hx
  cases request with
  | error e =>
    rw [h.1] at hx
    exact absurd hx List.not_mem_nil
  | ok q =>
    obtain ⟨reply, rfl, -⟩ := h
    rw [List.mem_singleton.mp hx]

/-- A lookup asks for pages of its list. -/
theorem Lookup.request_eq {c : Client} {list : Collection α} {query : Query} {n : UInt32} {log : List Exchange}
    {found : Option (List α)} (h : Lookup c list query n log found) : ∀ x ∈ log, ∃ m, c.pageRequest list query m = .ok x.request := by
  induction h with
  | unsent => exact fun x hx => absurd hx List.not_mem_nil
  | failed hq | stale hq | last hq =>
    intro x hx
    rw [List.mem_singleton.mp hx]
    exact ⟨_, hq⟩
  | next hq _ _ _ _ ih =>
    intro x hx
    rcases List.mem_cons.mp hx with rfl | hx
    · exact ⟨_, hq⟩
    · exact ih x hx

namespace Client

/-- Whether a request is one that a client makes. -/
def Asks (c : Client) (q : Http.Request) : Prop := ∃ r, c.AsksAlong r q

variable (c : Client) (server : Http.Server σ)

theorem page_asksOnly {list : Collection α} (hlist : list.IsKept) (query : Query) (number : UInt32) :
    (c.page server list query number).AsksOnly c.Asks := by
  refine .of_sends (c.page_sends server list query number) ?_
  intro log r h x hx
  exact asksAlong_of_pageRequest hlist (h.request_eq x hx)

theorem pages_asksOnly {list : Collection α} (hlist : list.IsKept) (query : Query) (n : UInt32) (s : Session σ) :
    s.AsksOnly c.Asks (c.pages server list query n s).2 := c.page_asksOnly server hlist query n s

theorem deleteSpace_asksOnly (space : Space) : (c.deleteSpace server space).AsksOnly c.Asks := by
  refine .of_sends (c.delete_sends server _ _) ?_
  intro log r h x hx
  exact ⟨_, .space (h.request_eq x hx)⟩

theorem deleteServiceInstance_asksOnly (i : ServiceInstance) : (c.deleteServiceInstance server i).AsksOnly c.Asks := by
  have hsends : (c.deleteServiceInstance server i).Sends (Once (c.serviceInstanceDeletion i) deletionOf) := by
    unfold deleteServiceInstance serviceInstanceDeletion
    cases i.origin with
    | managed => exact c.delete_sends server _ _
    | userProvided => exact c.delete_sends server _ _
  refine .of_sends hsends ?_
  intro log r h x hx
  exact asksAlong_of_serviceInstanceDeletion (h.request_eq x hx)

theorem status_asksOnly (version : Job.Version) (job : String) : (c.status server version job).AsksOnly c.Asks := by
  refine .of_sends (c.status_sends server version job) ?_
  intro log r h x hx
  exact ⟨_, .job (h.request_eq x hx)⟩

theorem statuses_asksOnly (version : Job.Version) (job : String) (now : Nat) (s : Session σ) :
    s.AsksOnly c.Asks (c.statuses server version job now s).2 := c.status_asksOnly server version job s

end Client

/-! ## Operations -/

namespace Target

/-- Whether a list is read with requests of one kind. -/
def Listing.AsksOnly (P : Http.Request → Prop) (items : Listing σ α) : Prop := ∀ s : Session σ, s.AsksOnly P (items s).2

theorem Listing.AsksOnly.resolve {items : Listing σ α} (h : items.AsksOnly P) (entity name : String) :
    (items.resolve entity name).AsksOnly P := fun s => h s

variable (t : Target) (server : Http.Server σ)

theorem listing_asksOnly {list : Collection α} (hlist : list.IsKept) (query : Query) :
    (t.listing server list query).AsksOnly t.client.Asks := by
  intro s
  obtain ⟨log, hs, hl⟩ := t.client.pages_lookup server list query 1 s
  rw [listing, PageSource.results_eq_walk]
  refine .of_after hs ?_
  intro x hx
  obtain ⟨m, hq⟩ := hl.request_eq x hx
  exact Client.asksAlong_of_pageRequest hlist hq

theorem findOrganization_asksOnly (name : String) : (t.findOrganization server name).AsksOnly t.client.Asks :=
  (t.listing_asksOnly server .organizations _).resolve _ name

theorem organizationId_asksOnly : (t.organizationId server).AsksOnly t.client.Asks := by
  unfold organizationId
  cases t.organization with
  | none => exact .known _
  | some name => exact (t.findOrganization_asksOnly server name).bind fun found => .known (.ok found.id)

theorem findSpace_asksOnly (name : String) : (t.findSpace server name).AsksOnly t.client.Asks :=
  (t.organizationId_asksOnly server).bind fun organization =>
    (t.listing_asksOnly server (.spaces organization) _).resolve _ name

theorem spaceId_asksOnly : (t.spaceId server).AsksOnly t.client.Asks := by
  unfold spaceId
  cases t.space with
  | none => exact .known _
  | some name => exact (t.findSpace_asksOnly server name).bind fun found => .known (.ok found.id)

theorem findServiceInstance_asksOnly (space name : String) : (t.findServiceInstance server space name).AsksOnly t.client.Asks :=
  (t.listing_asksOnly server (.serviceInstances space) _).resolve _ name

/-- A list within the organization is read once the organization is looked up. -/
theorem within_asksOnly {list : String → Collection α} (hlist : ∀ organization, (list organization).IsKept) :
    (t.within server list).AsksOnly t.client.Asks := by
  intro s
  have hlookup := t.organizationId_asksOnly server
  unfold within
  rcases hrun : (t.organizationId server).runOn s with ⟨e | organization, u⟩
  · exact hlookup.of_runOn hrun
  · exact (hlookup.of_runOn hrun).trans (t.listing_asksOnly server (hlist organization) .all u)

theorem findSpaceQuota_asksOnly (name : String) : (t.findSpaceQuota server name).AsksOnly t.client.Asks :=
  fun s => t.within_asksOnly server .spaceQuotas s

/-- The next item of a list within the organization may cost the lookup of the organization. -/
theorem poll_asksOnly {list : String → Collection α} (hlist : ∀ organization, (list organization).IsKept) (state : Scoped α)
    (s : Session σ) : s.AsksOnly t.client.Asks (state.poll t server list s).2.2 := by
  have htake (organization : String) (pager : Pager α) (s : Session σ) :
      s.AsksOnly t.client.Asks (Scoped.take t server list organization pager s).2.2 :=
    Pager.poll_asksOnly (fun n s => t.client.pages_asksOnly server (hlist organization) .all n s) pager s
  cases state with
  | unopened =>
    have hlookup := t.organizationId_asksOnly server
    rcases hrun : (t.organizationId server).runOn s with ⟨e | organization, u⟩
    · simp only [Scoped.poll, hrun]
      exact hlookup.of_runOn hrun
    · simp only [Scoped.poll, hrun]
      exact (hlookup.of_runOn hrun).trans (htake organization .start u)
  | listing organization pager => exact htake organization pager s
  | closed => exact .refl s

theorem lookUp_asksOnly {find : Conversation σ α} (h : find.AsksOnly P) : (lookUp find).AsksOnly P := by
  refine .bind .start fun _ => .bind (.enter .resolving) fun _ => .bind h.watched fun found => ?_
  exact .bind (.enter .completed) fun _ => .known (.ok found)

/-- A change makes its own requests, and those for the status of its job. -/
theorem change_asksOnly (allowed : Nat) {answer : Conversation σ (Mutation.Response α)} (h : answer.AsksOnly t.client.Asks) :
    (t.change server allowed answer).AsksOnly t.client.Asks := by
  intro s
  simp only [change, Undertaking.runOn_of, Mutation.run]
  rcases hrun : answer.runOn s with ⟨e | value | handle, u⟩
  · exact h.of_runOn hrun
  · exact h.of_runOn hrun
  · simp only [Mutation.settle, acceptance]
    rcases hhook : (Conversation.enter .awaitingJob).runOn u with ⟨e | _, v⟩
    · exact (h.of_runOn hrun).trans (Conversation.AsksOnly.enter _ |>.of_runOn hhook)
    · have hentered := (h.of_runOn hrun).trans (Conversation.AsksOnly.enter _ |>.of_runOn hhook)
      exact hentered.trans (Job.await_asksOnly (t.client.statuses_asksOnly server .v2) handle t.settings allowed _ v)

theorem mutate_asksOnly (allowed : Nat) {answer : Conversation σ (Mutation.Response α)} (h : answer.AsksOnly t.client.Asks) :
    (t.mutate server allowed answer).AsksOnly t.client.Asks := by
  refine .bind (.converse (.enter .mutating)) fun _ => .bind (t.change_asksOnly server allowed h).watched fun completed => ?_
  exact .bind (.converse (.enter .completed)) fun _ => .pure completed

theorem deleteServiceInstance_asksOnly (allowed : Nat) (name : String) :
    (t.deleteServiceInstance server allowed name).AsksOnly t.client.Asks := by
  refine .bind (.converse .start) fun _ => .bind (.converse (.enter .resolving)) fun _ => ?_
  refine .bind (.converse (t.spaceId_asksOnly server).watched) fun space => ?_
  refine .bind (.converse (t.findServiceInstance_asksOnly server space name).watched) fun found => ?_
  exact t.mutate_asksOnly server allowed (t.client.deleteServiceInstance_asksOnly server found)

theorem deleteSpace_asksOnly (allowed : Nat) (name : String) : (t.deleteSpace server allowed name).AsksOnly t.client.Asks := by
  refine .bind (.converse .start) fun _ => .bind (.converse (.enter .resolving)) fun _ => ?_
  refine .bind (.converse (t.findSpace_asksOnly server name).watched) fun found => ?_
  exact t.mutate_asksOnly server allowed (t.client.deleteSpace_asksOnly server found)

/-! ## Actions -/

/-- What can be done with a target. What an action is about may come from anywhere, the replies to actions before included. -/
inductive Action : Type 1 where
  /-- Asks for a page of a list. -/
  | page {α : Type} (list : Collection α) (kept : list.IsKept) (query : Query) (number : UInt32)
  /-- Reads a list as a whole. -/
  | list {α : Type} (list : Collection α) (kept : list.IsKept) (query : Query)
  /-- Takes the next item of a list. -/
  | next {α : Type} (list : Collection α) (kept : list.IsKept) (query : Query) (pager : Pager α)
  /-- Takes the next item of a list within the organization. -/
  | nextWithin {α : Type} (list : String → Collection α) (kept : ∀ organization, (list organization).IsKept) (state : Scoped α)
  /-- Asks to delete a space that is known. -/
  | askDeletion (space : Space)
  /-- Asks to delete a service instance that is known. -/
  | askInstanceDeletion (i : ServiceInstance)
  /-- Asks for the status of a job. -/
  | status (version : Job.Version) (job : String)
  /-- Waits for a job. -/
  | await (version : Job.Version) (handle : Job.Handle) (settings : Job.PollSettings) (allowed now : Nat)
  /-- Looks up the organization that is targeted. -/
  | organizationId
  /-- Looks up the space that is targeted. -/
  | spaceId
  | getOrganization (name : String)
  | getSpace (name : String)
  | getSpaceQuota (name : String)
  | deleteSpace (allowed : Nat) (name : String)
  | deleteServiceInstance (allowed : Nat) (name : String)

/-- The session after an action. -/
def after (t : Target) (server : Http.Server σ) (s : Session σ) : Action → Session σ
  | .page list _ query number => ((t.client.page server list query number).runOn s).2
  | .list list _ query => ((t.client.list server list query).runOn s).2
  | .next list _ query pager => (pager.poll (t.client.pages server list query) s).2.2
  | .nextWithin list _ state => (state.poll t server list s).2.2
  | .askDeletion space => ((t.client.deleteSpace server space).runOn s).2
  | .askInstanceDeletion i => ((t.client.deleteServiceInstance server i).runOn s).2
  | .status version job => ((t.client.status server version job).runOn s).2
  | .await version handle settings allowed now => (Job.await (t.client.statuses server version) handle settings allowed now s).state
  | .organizationId => ((t.organizationId server).runOn s).2
  | .spaceId => ((t.spaceId server).runOn s).2
  | .getOrganization name => ((t.getOrganization server name).runOn s).2
  | .getSpace name => ((t.getSpace server name).runOn s).2
  | .getSpaceQuota name => ((t.getSpaceQuota server name).runOn s).2
  | .deleteSpace allowed name => ((t.deleteSpace server allowed name).runOn s).2
  | .deleteServiceInstance allowed name => ((t.deleteServiceInstance server allowed name).runOn s).2

/-- The session after actions. -/
def afterAll (t : Target) (server : Http.Server σ) (s : Session σ) (actions : List Action) : Session σ :=
  actions.foldl (t.after server) s

/-- An action makes only requests that the client makes along its routes. -/
theorem asksOnly_after (s : Session σ) (action : Action) : s.AsksOnly t.client.Asks (t.after server s action) := by
  cases action with
  | page list kept query number => exact t.client.page_asksOnly server kept query number s
  | list list kept query => exact t.listing_asksOnly server kept query s
  | next list kept query pager => exact Pager.poll_asksOnly (t.client.pages_asksOnly server kept query) pager s
  | nextWithin list kept state => exact t.poll_asksOnly server kept state s
  | askDeletion space => exact t.client.deleteSpace_asksOnly server space s
  | askInstanceDeletion i => exact t.client.deleteServiceInstance_asksOnly server i s
  | status version job => exact t.client.status_asksOnly server version job s
  | await version handle settings allowed now =>
    exact Job.await_asksOnly (t.client.statuses_asksOnly server version) handle settings allowed now s
  | organizationId => exact t.organizationId_asksOnly server s
  | spaceId => exact t.spaceId_asksOnly server s
  | getOrganization name => exact lookUp_asksOnly (t.findOrganization_asksOnly server name) s
  | getSpace name => exact lookUp_asksOnly (t.findSpace_asksOnly server name) s
  | getSpaceQuota name => exact lookUp_asksOnly (t.findSpaceQuota_asksOnly server name) s
  | deleteSpace allowed name => exact t.deleteSpace_asksOnly server allowed name s
  | deleteServiceInstance allowed name => exact t.deleteServiceInstance_asksOnly server allowed name s

/-- Actions make only requests that the client makes along its routes. -/
theorem asksOnly_afterAll (s : Session σ) (actions : List Action) : s.AsksOnly t.client.Asks (t.afterAll server s actions) := by
  induction actions generalizing s with
  | nil => exact .refl s
  | cons action actions ih => exact (t.asksOnly_after server s action).trans (ih _)

/-- The token never leaves the endpoint. Whatever is done with a target, in whatever order and against whatever server, each request
goes to the scheme, host and port of the address that the client was made with, and shows the client's token. -/
theorem token_stays_home (t : Target) (server : Http.Server σ) (s : Session σ) (actions : List Action) :
    ∃ sent, (t.afterAll server s actions).requests = s.requests ++ sent ∧
      ∀ q ∈ sent, q.url.origin = t.client.base.origin ∧
        Http.trimValue (Client.bearerCredentials t.client.token) ∈ q.authorization := by
  obtain ⟨sent, hsent, hasks⟩ := t.asksOnly_afterAll server s actions
  refine ⟨sent, hsent, ?_⟩
  intro q hq
  obtain ⟨r, hr⟩ := hasks q hq
  exact ⟨hr.staysHome.origin, hr.staysHome.token⟩

end Target

end ControlPlane
