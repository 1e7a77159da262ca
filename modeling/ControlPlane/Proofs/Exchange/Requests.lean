import ControlPlane.Proofs.Exchange.Deletion
import ControlPlane.Proofs.Platform.Queries
import ControlPlane.Proofs.Platform.Routes

/-!
# Where requests go

A client asks along routes: for a page of a collection, for the deletion of an entity, for the status of a job (`Client.AsksAlong`). The
path of a route is one of written segments, in which an id is a segment that was made of it. Seen from the address of the client,
such a path changes nothing but the path of that address (`Client.requestAt_cases`), whatever the id says, so that every request goes to
the client's own host and shows its token (`Client.AsksAlong.staysHome`).
-/

namespace ControlPlane

open Platform

/-! ## The paths of routes -/

namespace Platform.Route

/-- The first segment of the path of a route: a version of the interface, mostly. -/
def root : Route → String
  | job .v3 _ => "v3"
  | health => "health"
  | _ => "v2"

/-- The segments after the first one. An id is one of them. -/
def branch : Route → List String
  | organizations => ["organizations"]
  | spaces id => ["organizations", Url.segmentText id, "spaces"]
  | spaceQuotas id => ["organizations", Url.segmentText id, "space_quota_definitions"]
  | serviceInstances id => ["spaces", Url.segmentText id, "service_instances"]
  | space id => ["spaces", Url.segmentText id]
  | serviceInstance id => ["service_instances", Url.segmentText id]
  | userProvidedServiceInstance id => ["user_provided_service_instances", Url.segmentText id]
  | job _ id => ["jobs", Url.segmentText id]
  | health => []

/-- The path of a route. -/
def path (r : Route) : String := Url.pathText r.root r.branch

/-- The id in a route. -/
def id? : Route → Option String
  | organizations | health => none
  | spaces id | spaceQuotas id | serviceInstances id | space id | serviceInstance id | userProvidedServiceInstance id
  | job _ id => some id

/-- The first segment is one that stands for itself. -/
theorem isPlainSegment_root (r : Route) : Url.IsPlainSegment r.root := by
  have hhealth : Url.IsPlainSegment "health" :=
    ⟨List.all_eq_true.mp (by decide +kernel), by decide, by decide, by decide⟩
  unfold root
  split
  · exact isPlainSegment_versions.2
  · exact hhealth
  · exact isPlainSegment_versions.1

/-- Each segment after the first one is a word, or made of the id. -/
theorem mem_branch {r : Route} {s : String} (h : s ∈ r.branch) : s ∈ words ∨ ∃ id ∈ r.id?, s = Url.segmentText id := by
  cases r with
  | organizations =>
    rw [List.mem_singleton.mp h]
    exact Or.inl (by decide)
  | health => exact absurd h List.not_mem_nil
  | spaces id | spaceQuotas id | serviceInstances id =>
    simp only [branch, List.mem_cons, List.not_mem_nil, or_false] at h
    rcases h with rfl | rfl | rfl
    · exact Or.inl (by decide)
    · exact Or.inr ⟨id, rfl, rfl⟩
    · exact Or.inl (by decide)
  | space id | serviceInstance id | userProvidedServiceInstance id | job version id =>
    simp only [branch, List.mem_cons, List.not_mem_nil, or_false] at h
    rcases h with rfl | rfl
    · exact Or.inl (by decide)
    · exact Or.inr ⟨id, rfl, rfl⟩

/-- Nothing in the path of a route begins another part of an address. -/
theorem segments_chars (r : Route) : ∀ s ∈ r.root :: r.branch, ∀ c ∈ s.toList, Url.isSegmentChar c = true := by
  intro s hs
  rcases List.mem_cons.mp hs with rfl | hs
  · exact r.isPlainSegment_root.chars
  · rcases mem_branch hs with hword | ⟨id, -, rfl⟩
    · exact (isPlainSegment_of_mem_words hword).chars
    · exact fun c => Url.isSegmentChar_of_mem

end Platform.Route

/-! ## Requests along routes -/

/-- Where an address leads to, its path left aside: the scheme, the host and the port. -/
def Url.origin (u : Url) : String × Option (Url.Host × Option UInt16) :=
  (u.scheme, u.authority.map fun a => (a.host, a.port))

namespace Client

/-- The requests of a client along a route. -/
inductive AsksAlong (c : Client) : Route → Http.Request → Prop
  | organizations {query : Query} {number : UInt32} {q : Http.Request} :
      c.pageRequest .organizations query number = .ok q → AsksAlong c .organizations q
  | spaces {organization : String} {query : Query} {number : UInt32} {q : Http.Request} :
      c.pageRequest (.spaces organization) query number = .ok q → AsksAlong c (.spaces organization) q
  | spaceQuotas {organization : String} {query : Query} {number : UInt32} {q : Http.Request} :
      c.pageRequest (.spaceQuotas organization) query number = .ok q → AsksAlong c (.spaceQuotas organization) q
  | serviceInstances {space : String} {query : Query} {number : UInt32} {q : Http.Request} :
      c.pageRequest (.serviceInstances space) query number = .ok q → AsksAlong c (.serviceInstances space) q
  | space {found : Space} {q : Http.Request} : c.spaceDeletion found = .ok q → AsksAlong c (.space found.id) q
  | serviceInstance {found : ServiceInstance} {q : Http.Request} :
      found.origin = .managed → c.serviceInstanceDeletion found = .ok q → AsksAlong c (.serviceInstance found.id) q
  | userProvidedServiceInstance {found : ServiceInstance} {q : Http.Request} :
      found.origin = .userProvided → c.serviceInstanceDeletion found = .ok q →
      AsksAlong c (.userProvidedServiceInstance found.id) q
  | job {version : Job.Version} {id : String} {q : Http.Request} :
      c.statusRequest version id = .ok q → AsksAlong c (.job version id) q

/-- Whether a request goes to the host of a client, and shows its token. -/
structure StaysHome (c : Client) (q : Http.Request) : Prop where
  origin : q.url.origin = c.base.origin
  token : Http.trimValue (bearerCredentials c.token) ∈ q.authorization

variable {α : Type} {c : Client} {q : Http.Request}

/-- A page of a collection that a platform keeps is asked for along a route. -/
theorem asksAlong_of_pageRequest {list : Collection α} (hlist : list.IsKept) {query : Query} {number : UInt32}
    (hq : c.pageRequest list query number = .ok q) : ∃ r, c.AsksAlong r q := by
  cases hlist with
  | organizations => exact ⟨_, .organizations hq⟩
  | spaces organization => exact ⟨_, .spaces hq⟩
  | spaceQuotas organization => exact ⟨_, .spaceQuotas hq⟩
  | serviceInstances space => exact ⟨_, .serviceInstances hq⟩

/-- The deletion of a service instance is asked for along a route. -/
theorem asksAlong_of_serviceInstanceDeletion {found : ServiceInstance} (hq : c.serviceInstanceDeletion found = .ok q) :
    ∃ r, c.AsksAlong r q := by
  cases horigin : found.origin with
  | managed => exact ⟨_, .serviceInstance horigin hq⟩
  | userProvided => exact ⟨_, .userProvidedServiceInstance horigin hq⟩

/-- A request along a route is one to the path of the route. -/
theorem AsksAlong.requestAt {r : Route} (h : c.AsksAlong r q) :
    ∃ method change pairs, Writes change pairs ∧ c.requestAt method r.path change = .ok q := by
  cases h with
  | organizations hq =>
    rw [pageRequest, show Collection.organizations.path = Route.organizations.path by decide +kernel] at hq
    exact ⟨_, _, _, writes_withPairs _, hq⟩
  | spaces hq | spaceQuotas hq | serviceInstances hq =>
    rw [Route.path, Route.branch, Url.pathText_scoped]
    exact ⟨_, _, _, writes_withPairs _, hq⟩
  | space hq =>
    rw [Route.path, Route.branch, Url.pathText_last]
    exact ⟨_, _, _, writes_withPairs _, hq⟩
  | serviceInstance horigin hq =>
    rw [serviceInstanceDeletion, horigin] at hq
    rw [Route.path, Route.branch, Url.pathText_last]
    exact ⟨_, _, _, writes_withPairs _, hq⟩
  | userProvidedServiceInstance horigin hq =>
    rw [serviceInstanceDeletion, horigin] at hq
    rw [Route.path, Route.branch, Url.pathText_last]
    exact ⟨_, _, _, writes_withPairs _, hq⟩
  | @job version id _ hq =>
    rw [Route.path, Route.branch, Url.pathText_last]
    unfold statusRequest jobPath at hq
    cases version with
    | v2 => exact ⟨_, _, _, writes_id, hq⟩
    | v3 => exact ⟨_, _, _, writes_id, hq⟩

/-- Without its credentials an address leads to the same place, with the same path. -/
theorem publicAddress_origin (u : Url) : (publicAddress u).origin = u.origin ∧ (publicAddress u).path = u.path := by
  unfold publicAddress
  split
  · refine ⟨?_, rfl⟩
    simp only [Url.origin, Url.withoutCredentials, Option.map_map]
    rfl
  · exact ⟨rfl, rfl⟩

/-- A request to a path of written segments goes to the address of the client, which can be asked and has segments, and shows the token.
The segments are walked along in the place of the last one of the address. -/
theorem requestAt_cases {first : String} {rest : List String} (hfirst : first ≠ "")
    (h : ∀ s ∈ first :: rest, ∀ ch ∈ s.toList, Url.isSegmentChar ch = true) {method : Http.Method} {change : Url → Url}
    {pairs : List (String × String)} (hchange : Writes change pairs) (hq : c.requestAt method (Url.pathText first rest) change = .ok q) :
    ∃ start, c.base.path = .segments start ∧ isUsable c.base = true ∧
      q.url.path = .segments (Url.walk start.dropLast (first :: rest)) ∧ c.StaysHome q := by
  rw [Client.requestAt] at hq
  obtain ⟨u, hu, hrequest⟩ := ok_of_bind hq
  obtain ⟨query, hwritten⟩ := hchange.only u
  have hjoin : c.base.join (Url.pathText first rest) = .ok u := by
    unfold Client.address at hu
    split at hu
    · cases hu
    · next hj =>
      split at hu
      · cases hu
        exact hj
      · cases hu
  unfold request at hrequest
  split at hrequest
  · split at hrequest
    · next husable =>
      cases hrequest
      have hfile : c.base.scheme ≠ "file" := by
        rw [← Url.join_scheme hfirst h hjoin]
        rw [hwritten] at husable
        exact (scheme_of_isUsable (u := { u with query := query }) husable).2
      cases hpath : c.base.path with
      | rootless s =>
        rw [Url.join_pathText hfirst h, if_neg hfile, hpath] at hjoin
        cases hjoin
      | segments start =>
        rw [Url.join_path hfile hpath hfirst h] at hjoin
        cases hjoin
        obtain ⟨horigin, hsame⟩ := publicAddress_origin (change _)
        have hbase : isUsable c.base = true := by
          rw [hwritten] at husable
          exact husable
        refine ⟨start, rfl, hbase, ?_, ?_, ?_⟩
        · exact hsame.trans (by rw [hwritten])
        · exact horigin.trans (by rw [hwritten]; rfl)
        · rw [List.mem_map]
          exact ⟨_, List.mem_append_right _ List.mem_cons_self, rfl⟩
    · cases hrequest
  · cases hrequest

/-- A request along a route goes to the host of the client, and shows its token. -/
theorem AsksAlong.staysHome {r : Route} (h : c.AsksAlong r q) : c.StaysHome q := by
  obtain ⟨method, change, pairs, hchange, hq⟩ := h.requestAt
  obtain ⟨start, -, -, -, hhome⟩ := requestAt_cases r.isPlainSegment_root.nonempty r.segments_chars hchange hq
  exact hhome

end Client

end ControlPlane
