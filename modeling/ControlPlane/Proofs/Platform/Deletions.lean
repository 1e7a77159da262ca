import ControlPlane.Platform.Scenario
import ControlPlane.Proofs.Platform.Jobs
import ControlPlane.Proofs.Platform.Lookups

/-!
# Deletions by name do what they are meant to

A deletion at a platform takes from the store the one entity that carries the name, a space together with the service instances in it,
and nothing else; where no entity or several carry it, it leaves the store as it is. A platform makes the deletion of what users look
after at once, and any other by a job. The main statement is `Target.deletes_named`.
-/

namespace ControlPlane

open Platform

variable {α β ε : Type}

/-! ## Entities by their ids -/

namespace HasScopes

variable {items : List α} {id : α → String}

/-- Entities of one id are the same. -/
theorem eq_of_id (h : HasScopes items id) {a b : α} (ha : a ∈ items) (hb : b ∈ items) (heq : id a = id b) : a = b :=
  List.inj_on_of_nodup_map h.distinct ha hb heq

/-- An entity is found by its id. -/
theorem find?_id (h : HasScopes items id) {a : α} (ha : a ∈ items) : items.find? (id · == id a) = some a := by
  cases hf : items.find? (id · == id a) with
  | none => exact absurd (beq_self_eq_true (id a)) (List.find?_eq_none.mp hf a ha)
  | some b =>
    have hb := List.find?_some hf
    rw [h.eq_of_id (List.mem_of_find?_eq_some hf) ha (beq_iff_eq.mp hb)]

/-- What has another id is all but the entity. -/
theorem filter_ne [DecidableEq α] (h : HasScopes items id) {a : α} (ha : a ∈ items) :
    items.filter (id · != id a) = items.erase a := by
  rw [(List.Nodup.of_map id h.distinct).erase_eq_filter a]
  refine List.filter_congr fun b hb => ?_
  rw [Bool.eq_iff_iff, bne_iff_ne, bne_iff_ne, not_iff_not]
  exact ⟨fun heq => h.eq_of_id hb ha heq, fun heq => heq ▸ rfl⟩

end HasScopes

/-! ## Answers to deletions -/

namespace Platform

variable {c : Client} {s : Store} {route : Route} {path : String} {pairs : List (String × String)} {deletion : Deletion}

/-- What a client asks to delete is answered along the route to which the path leads. -/
theorem Route.IsAlong.deleted (h : route.IsAlong path) (hc : c.Reaches s) (hdeletable : route.isDeletable = true)
    (hpairs : pairsFault? pairs route = none) :
    ∃ q, c.deletionRequest path pairs = .ok q ∧
      server q s = (.response (answer s pairs route).1, (answer s pairs route).2) :=
  h.answered hc (show route.allows .delete = true from hdeletable) nofun (Client.writes_withPairs pairs) hpairs

/-- A deletion is accepted as the first job of a store. -/
theorem delete_accepted (h : route.IsAlong path) (hc : c.Reaches s) (hdeletable : route.isDeletable = true)
    (hpairs : pairsFault? pairs route = none) (hjobs : s.jobs = [])
    (hanswer : answer s pairs route = delete s true deletion) :
    ∃ x, (c.delete server path pairs).Comes s (.ok (.accepted { id := Store.jobId s.started }))
      (s.withJob (s.nextJob (some deletion))) [x] := by
  obtain ⟨q, hq, hserver⟩ := h.deleted hc hdeletable hpairs
  have hdelete : delete s true deletion =
      (jsonResponse 202 (jobJson .v2 (Store.jobId s.started) .queued none), s.withJob (s.nextJob (some deletion))) := by
    rw [delete, if_pos rfl, Store.startJob_first hjobs]
    rfl
  rw [hanswer, hdelete] at hserver
  have hcomes := Client.delete_comes hq hserver rfl
  rw [deletionOf_job] at hcomes
  exact ⟨_, hcomes⟩

/-- A deletion is made at once. -/
theorem delete_made (h : route.IsAlong path) (hc : c.Reaches s) (hdeletable : route.isDeletable = true)
    (hpairs : pairsFault? pairs route = none) (hanswer : answer s pairs route = delete s false deletion) :
    ∃ x, (c.delete server path pairs).Comes s (.ok (.immediate ())) (s.apply deletion) [x] := by
  obtain ⟨q, hq, hserver⟩ := h.deleted hc hdeletable hpairs
  rw [hanswer] at hserver
  exact ⟨_, Client.delete_comes hq hserver rfl⟩

end Platform

/-! ## What operations come to -/

/-- Whether an operation with a platform, begun in a phase, comes to a result and a store as it is meant to. -/
def Undertaking.Achieves (u : Undertaking Store α) (phase : Phase) (s : Store) (goal : Except Job.Halt α → Store → Prop) : Prop :=
  ∃ r final log, u.Comes phase s r final log ∧ goal r final

/-- Whether an operation on what a name stands for comes to what it is meant to. Where the name stands for nothing or for several
things, the failure is told, with the number of those that are read, and the store is as it was. -/
def OnNamed (s : Store) (named : Result β) (goal : β → Except Job.Halt α → Store → Prop) (r : Except Job.Halt α) (final : Store) :
    Prop :=
  match named with
  | .ok b => goal b r final
  | .error e => r = .error (.failure e.asRead) ∧ final = s

namespace Undertaking.Achieves

variable {phase : Phase} {s : Store} {goal : Except Job.Halt α → Store → Prop}

/-- An operation is begun, and looks up what it works on. -/
theorem resolving {f : Unit → Undertaking Store α} (h : (f ()).Achieves .resolving s goal) :
    (converse .start >>= fun _ => converse (.enter .resolving) >>= f).Achieves phase s goal := by
  obtain ⟨r, final, log, hcomes, hgoal⟩ := h
  exact ⟨r, final, log, .start (.enter rfl hcomes), hgoal⟩

/-- An operation goes on with what is found. -/
theorem found {c : Conversation Store β} {f : β → Undertaking Store α} {named : Result β}
    {goal : β → Except Job.Halt α → Store → Prop} (hc : c.Reads s named)
    (hf : ∀ b, named = .ok b → (f b).Achieves phase s (goal b)) :
    (converse c.watched >>= f).Achieves phase s (OnNamed s named goal) := by
  obtain ⟨log, hcomes⟩ := hc
  cases named with
  | ok b =>
    obtain ⟨r, final, more, hrest, hgoal⟩ := hf b rfl
    exact ⟨r, final, _, .after hcomes hrest, hgoal⟩
  | error e => exact ⟨_, s, log, .fails hcomes, rfl, rfl⟩

/-- What an operation comes to that is run. -/
theorem runOn {u : Undertaking Store α} (h : ∀ phase, u.Achieves phase s goal) (history : List Activity) :
    goal (u.runOn ⟨s, history⟩).1 (u.runOn ⟨s, history⟩).2.server := by
  obtain ⟨r, final, log, hcomes, hgoal⟩ := h (Session.phase ⟨s, history⟩)
  obtain ⟨hresult, hserver, -⟩ := hcomes ⟨s, history⟩ rfl rfl
  rw [hresult, hserver]
  exact hgoal

end Undertaking.Achieves

/-- Where a thing is looked up in another one, a failure to find either is told. -/
theorem onNamed_bind (s : Store) (named : Result α) (next : α → Result β) (goal : β → Except Job.Halt ε → Store → Prop) :
    OnNamed s (named.bind next) goal = OnNamed s named fun a => OnNamed s (next a) goal := by
  cases named <;> rfl

/-! ## What deletions come to -/

/-- What a deletion by a job comes to, where the store is another one once the deletion is made. There is one job, which has been
polled up to the first state in which it is done. If it finished, the deletion is made; if it failed, nothing is deleted, and the
failure tells why. -/
def DoneByJob (s made : Store) (deletion : Platform.Deletion) (r : Except Job.Halt (Mutation.Completed Unit)) (final : Store) : Prop :=
  let id := Store.jobId s.started
  let polls := s.effectiveScript.findIdx Job.State.isTerminal + 1
  match s.effectiveScript.find? Job.State.isTerminal with
  | some .finished =>
    r = .ok (.job { id }) ∧
      final = { made with
        started := s.started + 1
        jobs := [(id, { s.nextJob (some deletion) with polls := polls, deletion := none })] }
  | some .failed =>
    r = .error (.failure (Job.Status.failure ⟨.failed, s.jobFailure.map Job.ErrorDetails.toError⟩ id)) ∧
      final = { s with
        started := s.started + 1
        jobs := [(id, { s.nextJob (some deletion) with polls := polls })] }
  | _ => False

/-- What the deletion of a service instance comes to: it is taken from the store, at once where the user looks after it, and otherwise by
a job. -/
def ServiceInstanceDeleted (s : Store) (i : ServiceInstance) (r : Except Job.Halt (Mutation.Completed Unit)) (final : Store) : Prop :=
  let made := { s with serviceInstances := s.serviceInstances.erase i }
  match i.origin with
  | .managed => DoneByJob s made (.serviceInstance i.id) r final
  | .userProvided => r = .ok (.immediate ()) ∧ final = made

/-- What the deletion of a space comes to: it is taken from the store by a job, with the service instances in it. -/
def SpaceDeleted (s : Store) (x : Space) : Except Job.Halt (Mutation.Completed Unit) → Store → Prop :=
  DoneByJob s
    { s with
      spaces := s.spaces.erase x
      serviceInstances := s.serviceInstances.filter (·.spaceId != some x.id) }
    (.space x.id)

namespace Target

variable {t : Target} {s : Store} {allowed : Nat}

section

variable (hc : t.client.Reaches s) (htimeout : t.settings.timeout = none)
  (hterminal : ∃ state ∈ s.effectiveScript, state.isTerminal = true) (hallowed : s.effectiveScript.length ≤ allowed)
include hc htimeout hterminal hallowed

/-- A change that is accepted as the first job of a store is done by this job. -/
theorem mutate_by_job {answer : Conversation Store (Mutation.Response Unit)} {deletion : Platform.Deletion} {x : Exchange}
    (h : answer.Comes s (.ok (.accepted { id := Store.jobId s.started })) (s.withJob (s.nextJob (some deletion))) [x]) :
    (t.mutate server allowed answer).Achieves .resolving s (DoneByJob s (s.apply deletion) deletion) := by
  obtain ⟨more, hwait⟩ := awaits_job hc htimeout hterminal hallowed (some deletion)
  have hpolls : (s.nextJob (some deletion)).polls = 0 := rfl
  unfold Undertaking.Achieves DoneByJob
  -- The first state in which the job is done is there, and it tells which of the two ends is reached.
  cases hfind : s.effectiveScript.find? Job.State.isTerminal with
  | none =>
    obtain ⟨state, hm, hstate⟩ := hterminal
    exact absurd hstate (List.find?_eq_none.mp hfind state hm)
  | some state =>
    cases state with
    | queued | running => cases List.find?_some hfind
    | finished =>
      rw [Task.outcome, Store.settled, hfind, if_pos rfl, if_pos rfl] at hwait
      refine ⟨_, _, _, mutate_job h hwait, rfl, ?_⟩
      simp only [Task.settled, hfind, if_pos, hpolls, Nat.zero_add]
      cases deletion <;> rfl
    | failed =>
      rw [Task.outcome, Store.settled, hfind, if_neg (by decide), if_neg (by decide)] at hwait
      refine ⟨_, _, _, mutate_job_failed h hwait, rfl, ?_⟩
      simp only [Task.settled, hfind, hpolls, Nat.zero_add]
      rfl

variable (hs : s.IsFresh)
include hs

/-- The deletion of a service instance that is in the store. -/
theorem deletes_serviceInstance {i : ServiceInstance} (hi : i ∈ s.serviceInstances) :
    (t.mutate server allowed (t.client.deleteServiceInstance server i)).Achieves .resolving s (ServiceInstanceDeleted s i) := by
  have hscope := hs.serviceInstances.scopes i hi
  have hfound : s.serviceInstance? i.id = some i := hs.serviceInstances.find?_id hi
  -- Ids are distinct, so that all that is deleted with the id is the one service instance.
  have hmade : s.apply (.serviceInstance i.id) = { s with serviceInstances := s.serviceInstances.erase i } :=
    congrArg (fun items => ({ s with serviceInstances := items } : Store)) (hs.serviceInstances.filter_ne hi)
  unfold Client.deleteServiceInstance ServiceInstanceDeleted
  cases horigin : i.origin with
  | managed =>
    have hanswer : answer s [("async", "true")] (.serviceInstance i.id) = delete s true (.serviceInstance i.id) := by
      rw [answer, hfound, if_pos (by rw [Option.any_some, ServiceInstance.isUserProvided, horigin]; rfl)]
      rfl
    obtain ⟨x, hx⟩ := delete_accepted (isAlong_serviceInstance hscope) hc rfl rfl hs.jobs hanswer
    rw [← hmade]
    exact mutate_by_job hc htimeout hterminal hallowed hx
  | userProvided =>
    have hanswer : answer s [] (.userProvidedServiceInstance i.id) = delete s false (.serviceInstance i.id) := by
      rw [answer, hfound, if_pos (by rw [Option.any_some, ServiceInstance.isUserProvided, horigin]; rfl)]
    obtain ⟨x, hx⟩ := delete_made (isAlong_userProvidedServiceInstance hscope) hc rfl rfl hanswer
    rw [← hmade]
    exact ⟨_, _, _, mutate_immediate hx, rfl, rfl⟩

/-- The deletion of a space that is in the store. -/
theorem deletes_space {x : Space} (hx : x ∈ s.spaces) :
    (t.mutate server allowed (t.client.deleteSpace server x)).Achieves .resolving s (SpaceDeleted s x) := by
  have hfound : s.space? x.id = some x := hs.spaces.find?_id hx
  have hmade : s.apply (.space x.id) = { s with
      spaces := s.spaces.erase x
      serviceInstances := s.serviceInstances.filter (·.spaceId != some x.id) } :=
    congrArg (fun items => ({ s with
      spaces := items
      serviceInstances := s.serviceInstances.filter (·.spaceId != some x.id) } : Store)) (hs.spaces.filter_ne hx)
  have hanswer : answer s [("async", "true"), ("recursive", "true")] (.space x.id) = delete s true (.space x.id) := by
    rw [answer, hfound, Option.isSome_some, if_pos rfl]
    rfl
  obtain ⟨_, hcomes⟩ := delete_accepted (isAlong_space (hs.spaces.scopes x hx)) hc rfl rfl hs.jobs hanswer
  unfold SpaceDeleted
  rw [← hmade]
  exact mutate_by_job hc htimeout hterminal hallowed hcomes

end

/-! ## Deletions by name -/

/-- Where the space is not found, it is not deleted. -/
theorem deleteSpace_fails {name : String} {e : Failure} {log : List Exchange} (h : (t.findSpace server name).Comes s (.error e) s log)
    (allowed : Nat) (history : List Activity) :
    ((t.deleteSpace server allowed name).runOn ⟨s, history⟩).1 = .error (.failure e) := by
  have hfails : ∀ phase, (t.deleteSpace server allowed name).Achieves phase s fun r _ => r = .error (.failure e) :=
    fun _ => .resolving ⟨_, s, log, .fails h, rfl⟩
  exact Undertaking.Achieves.runOn hfails history

/-- A deletion by name takes from the store what the name stands for, and nothing else, unless its job fails: then nothing is deleted.
Where the name, or the organization or the space that is targeted, stands for nothing or for several things, that is told, with the
number of those that are read; the store stays as it is, and no job is started. -/
theorem deletes_named (hc : t.client.Reaches s) (hs : s.IsFresh) (htimeout : t.settings.timeout = none)
    (hterminal : ∃ state ∈ s.effectiveScript, state.isTerminal = true) (hallowed : s.effectiveScript.length ≤ allowed)
    (name : String) (history : List Activity) :
    (let run := (t.deleteServiceInstance server allowed name).runOn ⟨s, history⟩
     OnNamed s (t.serviceInstanceNamed s name) (ServiceInstanceDeleted s) run.1 run.2.server) ∧
    (let run := (t.deleteSpace server allowed name).runOn ⟨s, history⟩
     OnNamed s (t.spaceNamed s name) (SpaceDeleted s) run.1 run.2.server) := by
  constructor
  · have h : ∀ phase, (t.deleteServiceInstance server allowed name).Achieves phase s
        (OnNamed s (t.serviceInstanceNamed s name) (ServiceInstanceDeleted s)) := by
      intro phase
      rw [serviceInstanceNamed, onNamed_bind]
      refine .resolving (.found (spaceId_reads hc hs) fun space hspace => ?_)
      refine .found (findServiceInstance_reads hc hs hspace name) fun i hi => ?_
      exact deletes_serviceInstance hc htimeout hterminal hallowed hs (List.mem_of_mem_filter (Resolution.mem_of_single hi))
    exact Undertaking.Achieves.runOn h history
  · have h : ∀ phase, (t.deleteSpace server allowed name).Achieves phase s (OnNamed s (t.spaceNamed s name) (SpaceDeleted s)) :=
      fun _ => .resolving (.found (findSpace_reads hc hs.isSearchable name) fun x hx =>
        deletes_space hc htimeout hterminal hallowed hs (mem_of_spaceNamed hx))
    exact Undertaking.Achieves.runOn h history

/-- A small platform that asks for a token, from which service instances and a space are deleted. -/
theorem deletes_named_standard :
    let t : Target := { client := ⟨linkBase, "token"⟩, organization := some "test-org", space := some "dev" }
    let s : Store := { Scenario.standard with requiredToken := some "token" }
    let deleted := fun name => (t.deleteServiceInstance server 3 name).runOn ⟨s, []⟩
    let emptied := (t.deleteSpace server 3 "dev").runOn ⟨s, []⟩
    (t.client.Reaches s ∧ s.IsFresh ∧ (∃ state ∈ s.effectiveScript, state.isTerminal = true)) ∧
      ((deleted "my-db").1 = .ok (.job { id := "job-1" }) ∧
        (deleted "my-db").2.server.serviceInstances = s.serviceInstances.drop 1) ∧
      ((deleted "my-creds").1 = .ok (.immediate ()) ∧
        (deleted "my-creds").2.server = { s with serviceInstances := s.serviceInstances.eraseIdx 1 }) ∧
      ((deleted "cache").1 = .error (.failure (.notFound "Service instance" "cache")) ∧ (deleted "cache").2.server = s) ∧
      (emptied.1 = .ok (.job { id := "job-1" }) ∧ emptied.2.server.spaces = s.spaces.drop 1 ∧
        emptied.2.server.serviceInstances = s.serviceInstances.drop 2) := by
  intro t s deleted emptied
  have hc : t.client.Reaches s := ⟨rfl, by decide +kernel, by decide +kernel, by decide +kernel, by decide +kernel⟩
  have hs : s.IsFresh := isFresh_standard _
  have hterminal : ∃ state ∈ s.effectiveScript, state.isTerminal = true := ⟨.finished, by decide, rfl⟩
  have hjob : Store.jobId s.started = "job-1" := by decide +kernel
  have hdone := fun name => deletes_named hc hs rfl hterminal (show s.effectiveScript.length ≤ 3 by decide) name []
  have hdatabase : t.serviceInstanceNamed s "my-db" = .ok (Scenario.managed "si-1" "my-db" "space-1") := by rfl
  have hcredentials : t.serviceInstanceNamed s "my-creds" = .ok (Scenario.userProvided "si-2" "my-creds" "space-1") := by rfl
  have hcache : t.serviceInstanceNamed s "cache" = .error (.notFound "Service instance" "cache") := by rfl
  have hspace : t.spaceNamed s "dev" = .ok (Scenario.space "space-1" "dev" "org-1") := by rfl
  refine ⟨⟨hc, hs, hterminal⟩, ?_, ?_, ?_, ?_⟩
  · have h := (hdone "my-db").1
    rw [hdatabase] at h
    obtain ⟨hresult, hserver⟩ := h
    rw [hjob] at hresult
    refine ⟨hresult, ?_⟩
    rw [hserver]
    rfl
  · have h := (hdone "my-creds").1
    rw [hcredentials] at h
    exact ⟨h.1, h.2.trans rfl⟩
  · have h := (hdone "cache").1
    rw [hcache] at h
    exact h
  · have h := (hdone "dev").2
    rw [hspace] at h
    obtain ⟨hresult, hserver⟩ := h
    rw [hjob] at hresult
    refine ⟨hresult, ?_⟩
    rw [hserver]
    exact ⟨rfl, rfl⟩

/-- Not every failure tells how many there are: of organizations that fill 4294967296 pages those on the first one are told. And a token
that cannot be sent deletes nothing, even where the platform asks for none. -/
theorem not_deletes_counted :
    let t : Target := { client := ⟨linkBase, "token"⟩, organization := some "test-org" }
    let unsendable : Target := { t with client := ⟨linkBase, "a\nb"⟩ }
    let crowd := Store.crowd "test-org" (2 ^ 32 * 50)
    let s := Scenario.standard
    (t.settings.timeout = none ∧ unsendable.settings.timeout = none ∧ (∃ state ∈ crowd.effectiveScript, state.isTerminal = true) ∧
        ∃ state ∈ s.effectiveScript, state.isTerminal = true) ∧
      (t.client.Reaches crowd ∧ crowd.IsFresh ∧ (crowd.organizations.filter (·.name == "test-org")).length = 2 ^ 32 * 50 ∧
        ((t.deleteSpace server 3 "dev").runOn ⟨crowd, []⟩).1 = .error (.failure (.ambiguous "Organization" "test-org" 50))) ∧
      (s.requiredToken = none ∧ s.IsFresh ∧ unsendable.spaceNamed s "dev" = .ok (Scenario.space "space-1" "dev" "org-1") ∧
        ((unsendable.deleteSpace server 3 "dev").runOn ⟨s, []⟩).1 = .error (.failure (.transport .badHeader))) := by
  intro t unsendable crowd s
  have hc : t.client.Reaches crowd := ⟨rfl, by decide +kernel, by decide +kernel, by decide +kernel, rfl⟩
  have hs : s.IsFresh := isFresh_standard none
  have hroot : unsendable.client.IsAtRoot := ⟨rfl, by decide +kernel, by decide +kernel⟩
  have hread : Cut.read (2 ^ 32 * 50) = 50 := by decide
  have hunsent := findOrganization_unsent hroot (by decide +kernel) hs.isReadable "test-org"
  obtain ⟨log, hcrowd⟩ := findOrganization_crowd (show 2 ≤ 2 ^ 32 * 50 by decide) hc
  rw [hread] at hcrowd
  refine ⟨⟨rfl, rfl, ⟨.finished, by decide, rfl⟩, ⟨.finished, by decide, rfl⟩⟩, ⟨hc, Store.isFresh_crowd _ _, ?_, ?_⟩,
    rfl, hs, by rfl, ?_⟩
  · rw [Store.named_crowd, Store.length_crowd]
  · exact deleteSpace_fails (findSpace_fails rfl hcrowd "dev") 3 []
  · exact deleteSpace_fails (findSpace_fails rfl hunsent "dev") 3 []

end Target

end ControlPlane
