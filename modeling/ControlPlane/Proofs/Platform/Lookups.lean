import ControlPlane.Proofs.Exchange.Course
import ControlPlane.Proofs.Platform.Listing

/-!
# Names looked up in a store

A name stands for the one entity of a store that carries it, in the organization and the space that are targeted
(`Target.spaceNamed`, `Target.serviceInstanceNamed`). A client finds that out by requests that leave the store as it is
(`Target.findSpace_reads`, `Target.findServiceInstance_reads`). A platform tells the number of pages in 32 bits, so that of entities
that fill more pages not all are read (`Platform.Cut.read`). Where several carry one name that matters for nothing but their number
(`Resolution.single_take_read`).
-/

namespace ControlPlane

open Platform

variable {α β ε : Type}

/-! ## What is read of a list -/

namespace Platform.Cut

/-- How many of so many items a client reads, with 50 on a page: all of them where their pages can be counted in 32 bits, and otherwise
those on as many pages as 32 bits tell, but at least on the first one. -/
def read (count : Nat) : Nat :=
  if count ⌈/⌉ 50 < 2 ^ 32 then count else max 1 (count ⌈/⌉ 50 % 2 ^ 32) * 50

theorem read_of_lt {count : Nat} (h : count ⌈/⌉ 50 < 2 ^ 32) : read count = count := if_pos h

/-- More items than are read are so many that the first page holds several of them. -/
theorem read_cases (count : Nat) : read count = count ∨ (2 ≤ read count ∧ read count < count) := by
  unfold read
  split
  · exact Or.inl rfl
  · next h =>
    rw [Nat.ceilDiv_eq_add_pred_div] at h ⊢
    right
    omega

/-- The items on the pages that are read. -/
theorem take_read (items : List α) :
    items.take (max 1 (pageCount items.length 50).toUInt32.toNat * 50) = items.take (read items.length) := by
  have hpages : pageCount items.length 50 = items.length ⌈/⌉ 50 := rfl
  by_cases h : items.length ⌈/⌉ 50 < 2 ^ 32
  · rw [take_counted items (by decide) h, read_of_lt h, List.take_length]
  · rw [read, if_neg h, hpages]
    rfl

end Platform.Cut

/-- A failure as it is told: of several entities of one name, the number that is read. -/
def Failure.asRead : Failure → Failure
  | .ambiguous entity name count => .ambiguous entity name (Cut.read count)
  | e => e

/-! ## Results -/

theorem ok_of_map {r : Result α} {f : α → β} {b : β} (h : r.map f = .ok b) : ∃ a, r = .ok a ∧ f a = b := by
  cases r with
  | error e => cases h
  | ok a => exact ⟨a, rfl, Except.ok.inj h⟩

/-- There are several entities of which none is the only one. -/
theorem Resolution.single_of_two_le (entity name : String) {items : List α} (h : 2 ≤ items.length) :
    single entity name items = .error (.ambiguous entity name items.length) := by
  match items, h with
  | _ :: _ :: _, _ => rfl

/-- The only entity of a list is in it. -/
theorem Resolution.mem_of_single {entity name : String} {items : List α} {a : α} (h : single entity name items = .ok a) :
    a ∈ items := by
  match items, h with
  | [_], h =>
    cases h
    exact List.mem_singleton.mpr rfl

/-- The entities that are read tell which ones there are, but for the number of several. -/
theorem Resolution.single_take_read (entity name : String) (items : List α) :
    single entity name (items.take (Cut.read items.length)) = (single entity name items).mapError Failure.asRead := by
  rcases Cut.read_cases items.length with h | ⟨hread, hlt⟩
  · rw [h, List.take_length]
    match items with
    | [] | [_] => rfl
    | _ :: _ :: _ => exact congrArg (fun count => (.error (.ambiguous entity name count) : Result α)) h.symm
  · have htake : (items.take (Cut.read items.length)).length = Cut.read items.length := List.length_take_of_le hlt.le
    have hseveral := single_of_two_le entity name (show 2 ≤ items.length by omega)
    rw [hseveral, single_of_two_le entity name (by omega), htake]
    rfl

/-! ## Conversations that only read -/

/-- Whether a conversation with a platform tells a result, and leaves the store as it is. -/
def Conversation.Reads (c : Conversation Store α) (s : Store) (result : Result α) : Prop :=
  ∃ log, c.Comes s (result.mapError Failure.asRead) s log

namespace Conversation.Reads

variable {c : Conversation Store α} {s : Store} {result : Result α}

/-- What is told by a conversation after another one. -/
theorem bind {f : α → Conversation Store β} {next : α → Result β} (hc : c.Reads s result)
    (hf : ∀ a, result = .ok a → (f a).Reads s (next a)) : (c >>= f).Reads s (result.bind next) := by
  obtain ⟨log, hcomes⟩ := hc
  cases result with
  | ok a =>
    obtain ⟨more, hcomes'⟩ := hf a rfl
    exact ⟨log ++ more, hcomes.bind hcomes'⟩
  | error e => exact ⟨log, hcomes.fails⟩

/-- What is told by a conversation whose result is put to use. -/
theorem map (g : α → β) (hc : c.Reads s result) : (do return g (← c)).Reads s (result.map g) := by
  have hknown : ∀ a, (Pure.pure (g a) : Conversation Store β).Reads s (.ok (g a)) := fun a => ⟨[], Comes.known (.ok (g a)) s⟩
  have h := hc.bind fun a _ => hknown a
  cases result <;> exact h

theorem throw {e : Failure} (h : e.asRead = e) : (MonadExcept.throw e : Conversation Store α).Reads s (.error e) :=
  ⟨[], by rw [Except.mapError, h]; exact Comes.known (.error e) s⟩

end Conversation.Reads

/-- A name that is resolved in what a platform serves stands for the only entity there that carries it. -/
theorem Platform.Serves.resolves {s : Store} {list : Collection α} {form : Resource.Form α ε} {items : Option String → List α}
    (h : Serves s list form items) {t : Target} (hc : t.client.Reaches s) (entity name : String) :
    ((t.listing server list (.ofName name)).resolve entity name).Reads s
      (Resolution.single entity name (items (some name))) := by
  obtain ⟨log, -, hresults⟩ := h.results hc (some name) none none (show 50 = max 1 (50 : UInt32).toNat from rfl)
  refine ⟨log, fun history => ?_⟩
  have hquery : Query.ofName name = Query.narrowed (some name) none none := rfl
  rw [Target.Listing.resolve, Conversation.runOn_of, Target.listing, hquery, hresults, Resolution.resolve]
  rw [Fallible.drain_map_ok, Cut.take_read, ← Resolution.single_take_read]
  rfl

/-! ## Stores -/

/-- Whether entities have ids of their own that can stand in paths. -/
structure HasScopes (items : List α) (id : α → String) : Prop where
  distinct : (items.map id).Nodup
  scopes : ∀ a ∈ items, IsScope (id a)

/-- Whether spaces and space quotas of a store can be looked up: what it holds can be read, and every organization has an id that can
stand in a path. -/
structure Platform.Store.IsSearchable (s : Store) : Prop where
  readable : s.IsReadable
  organizations : ∀ o ∈ s.organizations, IsScope o.id

/-- Whether a store is one that a platform begins with: there are no jobs yet, every entity has an id of its own that can stand in a
path, and every point in time is one that a calendar and a clock can show. -/
structure Platform.Store.IsFresh (s : Store) : Prop where
  jobs : s.jobs = []
  organizations : HasScopes s.organizations Organization.id
  spaces : HasScopes s.spaces Space.id
  serviceInstances : HasScopes s.serviceInstances ServiceInstance.id
  organizationsSince : ∀ o ∈ s.organizations, ∀ t ∈ o.createdAt, t.IsShowable
  spacesSince : ∀ x ∈ s.spaces, ∀ t ∈ x.createdAt, t.IsShowable

/-- The point in time of an organization to try things on is one that a calendar and a clock can show. -/
theorem Platform.Scenario.isShowable_organization {id name : String} {u : Timestamp}
    (hu : u ∈ (Scenario.organization id name).createdAt) : u.IsShowable := by
  have hcreated : (Scenario.organization id name).createdAt = (Timestamp.ofString "2016-06-08T16:41:33Z").toOption := rfl
  rw [hcreated] at hu
  cases h : Timestamp.ofString "2016-06-08T16:41:33Z" with
  | error e =>
    rw [h] at hu
    cases hu
  | ok v =>
    rw [h] at hu
    cases hu
    exact Timestamp.isShowable_of_ofString h

theorem Platform.Store.IsFresh.isReadable {s : Store} (h : s.IsFresh) : s.IsReadable where
  organizations o ho t ht := ⟨t.text, Timestamp.ofString_text (h.organizationsSince o ho t ht)⟩
  spaces x hx t ht := ⟨t.text, Timestamp.ofString_text (h.spacesSince x hx t ht)⟩

theorem Platform.Store.IsFresh.isSearchable {s : Store} (h : s.IsFresh) : s.IsSearchable :=
  ⟨h.isReadable, h.organizations.scopes⟩

/-- The small platform may begin as it is, whatever token it asks for. -/
theorem Platform.isFresh_standard (requiredToken : Option String) : Store.IsFresh { Scenario.standard with requiredToken } := by
  have horganizations : HasScopes Scenario.standard.organizations Organization.id := ⟨by decide, by decide⟩
  have hspaces : HasScopes Scenario.standard.spaces Space.id := ⟨by decide, by decide⟩
  have hinstances : HasScopes Scenario.standard.serviceInstances ServiceInstance.id := ⟨by decide, by decide⟩
  refine ⟨rfl, horganizations, hspaces, hinstances, fun o ho u hu => ?_, fun x hx u hu => ?_⟩
  · simp only [Scenario.standard, List.mem_cons, List.not_mem_nil, or_false] at ho
    rcases ho with rfl | rfl <;> exact Scenario.isShowable_organization hu
  · simp only [Scenario.standard, List.mem_cons, List.not_mem_nil, or_false] at hx
    rcases hx with rfl | rfl | rfl <;> cases hu

/-- A store with nothing but so many organizations of one name, each with an id of its own. -/
def Platform.Store.crowd (name : String) (count : Nat) : Store where
  organizations := (List.range count).map fun n => Scenario.organization ("org-" ++ toString n) name

namespace Platform.Store

/-- All organizations of a crowd have the name. -/
theorem named_crowd (name : String) (count : Nat) :
    (crowd name count).organizations.filter (·.name == name) = (crowd name count).organizations := by
  refine List.filter_eq_self.mpr fun o ho => ?_
  obtain ⟨n, -, rfl⟩ := List.mem_map.mp ho
  exact beq_self_eq_true name

theorem length_crowd (name : String) (count : Nat) : (crowd name count).organizations.length = count := by
  rw [crowd, List.length_map, List.length_range]

/-- A platform may begin with a crowd. -/
theorem isFresh_crowd (name : String) (count : Nat) : (crowd name count).IsFresh := by
  have hdistinct : ((crowd name count).organizations.map (·.id)).Nodup := by
    rw [crowd, List.map_map]
    refine List.nodup_range.map fun m n h => ?_
    exact Decimal.toString_injective ((String.append_right_inj "org-").mp h)
  have hscopes : ∀ o ∈ (crowd name count).organizations, IsScope o.id := by
    intro o ho
    obtain ⟨n, -, rfl⟩ := List.mem_map.mp ho
    have hfirst : ("org-" ++ toString n).toList.head? = some 'o' := by
      rw [String.toList_append]
      rfl
    have hne : ∀ other : String, other.toList.head? ≠ some 'o' → "org-" ++ toString n ≠ other := by
      rintro other hother rfl
      exact hother hfirst
    exact ⟨hne "" (by decide), hne "." (by decide), hne ".." (by decide)⟩
  have hnone : HasScopes ([] : List Space) Space.id := ⟨List.nodup_nil, nofun⟩
  refine ⟨rfl, ⟨hdistinct, hscopes⟩, hnone, ⟨List.nodup_nil, nofun⟩, fun o ho u hu => ?_, nofun⟩
  obtain ⟨n, -, rfl⟩ := List.mem_map.mp ho
  exact Scenario.isShowable_organization hu

end Platform.Store

namespace Target

/-- The id of the organization that is targeted in a store. -/
def organizationIn (t : Target) (s : Store) : Result String :=
  match t.organization with
  | none => .error (untargeted "organization")
  | some name => (Resolution.single Organization.kindName name (s.listOrganizations (some name))).map Organization.id

/-- The space of a name in the organization that is targeted. -/
def spaceNamed (t : Target) (s : Store) (name : String) : Result Space :=
  (t.organizationIn s).bind fun organization =>
    Resolution.single Space.kindName name (s.listSpaces organization (some name))

/-- The id of the space that is targeted in a store. -/
def spaceIn (t : Target) (s : Store) : Result String :=
  match t.space with
  | none => .error (untargeted "space")
  | some name => (t.spaceNamed s name).map Space.id

/-- The service instance of a name in the space that is targeted. -/
def serviceInstanceNamed (t : Target) (s : Store) (name : String) : Result ServiceInstance :=
  (t.spaceIn s).bind fun space =>
    Resolution.single ServiceInstance.kindName name (s.listServiceInstances space (some name))

variable {t : Target} {s : Store}

/-! ### What is found is in the store -/

theorem mem_of_spaceNamed {name : String} {x : Space} (h : t.spaceNamed s name = .ok x) : x ∈ s.spaces := by
  obtain ⟨organization, -, hx⟩ := ok_of_bind h
  exact List.mem_of_mem_filter (Resolution.mem_of_single hx)

/-- The organization that is targeted has an id that can stand in a path. -/
theorem isScope_of_organizationIn (hs : s.IsSearchable) {id : String} (h : t.organizationIn s = .ok id) : IsScope id := by
  unfold organizationIn at h
  cases ht : t.organization with
  | none =>
    rw [ht] at h
    cases h
  | some name =>
    rw [ht] at h
    obtain ⟨o, ho, rfl⟩ := ok_of_map h
    exact hs.organizations o (List.mem_of_mem_filter (Resolution.mem_of_single ho))

/-- The space that is targeted has an id that can stand in a path. -/
theorem isScope_of_spaceIn (hs : s.IsFresh) {id : String} (h : t.spaceIn s = .ok id) : IsScope id := by
  unfold spaceIn at h
  cases ht : t.space with
  | none =>
    rw [ht] at h
    cases h
  | some name =>
    rw [ht] at h
    obtain ⟨x, hx, rfl⟩ := ok_of_map h
    exact hs.spaces.scopes x (mem_of_spaceNamed hx)

/-! ### What is looked up is found -/

section

variable (hc : t.client.Reaches s)
include hc

theorem findOrganization_reads (hs : s.IsReadable) (name : String) :
    (t.findOrganization server name).Reads s
      (Resolution.single Organization.kindName name (s.listOrganizations (some name))) :=
  (serves_organizations hs).resolves hc Organization.kindName name

theorem organizationId_reads (hs : s.IsReadable) : (t.organizationId server).Reads s (t.organizationIn s) := by
  unfold organizationId organizationIn
  cases t.organization with
  | none => exact .throw rfl
  | some name => exact (findOrganization_reads hc hs name).map Organization.id

theorem findSpace_reads (hs : s.IsSearchable) (name : String) : (t.findSpace server name).Reads s (t.spaceNamed s name) :=
  (organizationId_reads hc hs.readable).bind fun _ ho =>
    (serves_spaces hs.readable (isScope_of_organizationIn hs ho)).resolves hc Space.kindName name

variable (hs : s.IsFresh)
include hs

theorem spaceId_reads : (t.spaceId server).Reads s (t.spaceIn s) := by
  unfold spaceId spaceIn
  cases t.space with
  | none => exact .throw rfl
  | some name => exact (findSpace_reads hc hs.isSearchable name).map Space.id

/-- A service instance is looked up in the space that is targeted. -/
theorem findServiceInstance_reads {space : String} (hspace : t.spaceIn s = .ok space) (name : String) :
    (t.findServiceInstance server space name).Reads s
      (Resolution.single ServiceInstance.kindName name (s.listServiceInstances space (some name))) :=
  (serves_serviceInstances s (isScope_of_spaceIn hs hspace)).resolves hc ServiceInstance.kindName name

end

/-! ### What is not found -/

/-- Of a crowd as many are told as are read. -/
theorem findOrganization_crowd {name : String} {count : Nat} (h : 2 ≤ count) (hc : t.client.Reaches (Store.crowd name count)) :
    ∃ log, (t.findOrganization server name).Comes (Store.crowd name count)
      (.error (.ambiguous Organization.kindName name (Cut.read count))) (Store.crowd name count) log := by
  obtain ⟨log, hcomes⟩ := findOrganization_reads hc (Store.isFresh_crowd name count).isReadable name
  have hlist : (Store.crowd name count).listOrganizations (some name) = (Store.crowd name count).organizations :=
    Store.named_crowd name count
  have hlength := Store.length_crowd name count
  rw [hlist, Resolution.single_of_two_le _ _ (by omega), hlength] at hcomes
  exact ⟨log, hcomes⟩

/-- Where the token cannot be sent, no organization is found. -/
theorem findOrganization_unsent (hc : t.client.IsAtRoot)
    (hsendable : Http.isHeaderValue (Client.bearerCredentials t.client.token) = false) (hs : s.IsReadable) (name : String) :
    (t.findOrganization server name).Comes s (.error (.transport .badHeader)) s [] := by
  have hrequest := (serves_organizations hs).pageRequest_unsendable hc hsendable (.ofName name) 1
  intro history
  rw [findOrganization, Listing.resolve, Conversation.runOn_of, listing, Client.results_of_unsent hrequest]
  rfl

/-- Where the organization that is targeted is not found, no space in it is. -/
theorem findSpace_fails {target : String} (htarget : t.organization = some target) {e : Failure} {log : List Exchange}
    (h : (t.findOrganization server target).Comes s (.error e) s log) (name : String) :
    (t.findSpace server name).Comes s (.error e) s log := by
  have hid : (t.organizationId server).Comes s (.error e) s log := by
    simp only [organizationId, htarget]
    exact h.fails
  exact hid.fails

end Target

end ControlPlane
