import ControlPlane.Platform.Scenario
import ControlPlane.Proofs.Exchange.Lookup
import ControlPlane.Proofs.Platform.Answers
import ControlPlane.Proofs.Words
import Mathlib.Algebra.Order.Floor.Div

/-!
# A client lists what a store holds

A source that tells a list in pages of a size tells what is left of the list from any page on, by one request for each page that
is left (`TellsPages.walk`). So a client reads all of a collection that a platform serves (`Platform.Serves.lists`), and a platform
serves four of them. The main statement is `Client.lists_store`: to list what a store holds, through requests and responses, is to
take it from the store.
-/

namespace ControlPlane

open Platform

variable {σ α ε : Type}

/-! ## Reading the pages of a list -/

/-- How a source tells a list in pages of a size: each page costs one exchange, holds what was cut, and names the page after it as
long as there are more. -/
def TellsPages (source : PageSource (Session σ) α) (request : UInt32 → Result Http.Request) (server : σ) (items : List α)
    (size : Nat) : Prop :=
  ∀ n : UInt32, 1 ≤ n → ∃ (x : Exchange) (p : Page α), request n = .ok x.request ∧
    (∀ s : Session σ, s.server = server → source n s = (.ready (.ok p), s.after server [x])) ∧
      p.items = Cut.slice items n.toNat size ∧ p.next = Page.successor n (some (Cut.pageCount items.length size).toUInt32)

/-- From a page on, a source that tells a list in pages tells what is on the pages that are left by its own count, by one request for
each of them. -/
theorem TellsPages.walk {source : PageSource (Session σ) α} {request : UInt32 → Result Http.Request} {server : σ} {items : List α}
    {size : Nat} (h : TellsPages source request server items size) (left : Nat) (n : UInt32) (hn : 1 ≤ n)
    (hleft : n.toNat + left = max 1 (Cut.pageCount items.length size).toUInt32.toNat) :
    ∃ log, log.map (Except.ok ·.request) = (List.range' n.toNat (left + 1)).map (fun k => request k.toUInt32) ∧
      ∀ s : Session σ, s.server = server → (source.walk n s).2 = s.after server log ∧
        source.listing n s = ((items.drop ((n.toNat - 1) * size)).take ((left + 1) * size)).map .ok := by
  have hn32 (n : UInt32) : n.toNat.toUInt32 = n := UInt32.ofNat_toNat
  have hresult {n : UInt32} {s : Session σ} {x : Exchange} {p : Page α}
      (hx : source n s = (.ready (.ok p), s.after server [x])) : (source n s).1.result = .ok p := by
    rw [hx]
    rfl
  -- Each page is the first of those that are left; the pages behind it are left after one exchange more.
  induction left generalizing n with
  | zero =>
    obtain ⟨x, p, hq, hx, hitems, hnext⟩ := h n hn
    have hlast : p.next = none := hnext.trans ((Page.successor_toNat n _).1 (by omega))
    refine ⟨[x], ?_, fun s hs => ⟨?_, ?_⟩⟩
    · rw [List.range'_one, List.map_singleton, List.map_singleton, hn32, hq]
    · rw [PageSource.walk_of_last (hresult (hx s hs)) hlast, hx s hs]
    · rw [PageSource.listing_of_last (hresult (hx s hs)) hlast, hitems, Cut.slice, Nat.zero_add, Nat.one_mul]
  | succ left ih =>
    obtain ⟨x, p, hq, hx, hitems, hnext⟩ := h n hn
    have h1 : 1 ≤ n.toNat := UInt32.le_iff_toNat_le.mp hn
    obtain ⟨m, hm, hlt, hmn⟩ :=
      (Page.successor_toNat n _).2 (show n.toNat < (Cut.pageCount items.length size).toUInt32.toNat by omega)
    have hm1 : 1 ≤ m := by
      rw [UInt32.le_iff_toNat_le, hmn]
      exact Nat.le_add_left 1 _
    obtain ⟨log, hrequests, hwalk⟩ := ih m hm1 (by omega)
    have hrange : List.range' n.toNat (left + 1 + 1) = n.toNat :: List.range' m.toNat (left + 1) := by rw [hmn]; rfl
    rw [hm] at hnext
    refine ⟨x :: log, ?_, fun s hs => ?_⟩
    · rw [List.map_cons, hrequests, hrange, List.map_cons, hn32, hq]
    · obtain ⟨hs', hl⟩ := hwalk (s.after server [x]) rfl
      rw [hmn, Nat.add_sub_cancel] at hl
      constructor
      · rw [PageSource.walk_of_next (hresult (hx s hs)) hnext hlt, hx s hs, hs', Session.after_after, List.singleton_append]
      · rw [PageSource.listing_of_next (hresult (hx s hs)) hnext hlt, hx s hs, hl, hitems, ← List.map_append,
          Cut.slice_append_take items h1 size]

/-! ## Reading a collection that is served -/

/-- Where no page follows the first one, a collection is read with one request. -/
theorem Client.results_of_last {c : Client} {list : Collection α} {query : Query} {q : Http.Request}
    (hq : c.pageRequest list query 1 = .ok q) {server : Http.Server σ} {s : Session σ} {r : Http.Response} {t : σ}
    (hr : server q s.server = (.response r, t)) (hs : r.isSuccess = true) {p : Page α} (hp : pageOf list 1 r = .ok p)
    (hn : p.next = none) : (c.pages server list query).results s = (p.items.map .ok, s.after t [⟨q, .response r⟩]) := by
  have hpage : c.pages server list query 1 s = (.ready (.ok p), s.after t [⟨q, .response r⟩]) := by
    rw [pages, runOn_page hq hr hs, hp]
  have hresult : (c.pages server list query 1 s).1.result = .ok p := by
    rw [hpage]
    rfl
  rw [PageSource.results_eq_walk, PageSource.listing_of_last hresult hn, PageSource.walk_of_last hresult hn, hpage]

/-- Where its first page cannot be asked for, a collection tells nothing but the failure. -/
theorem Client.results_of_unsent {c : Client} {list : Collection α} {query : Query} {e : Failure}
    (hq : c.pageRequest list query 1 = .error e) (server : Http.Server σ) (s : Session σ) :
    (c.pages server list query).results s = ([.error e], s) := by
  have hsent : (c.getWith server list.path (query.pairs 1 ++ list.pairs)).runOn s = (.error e, s) := runOn_sendAt_unsent hq server s
  have hpage : c.pages server list query 1 s = (.ready (.error e), s) := by
    rw [pages, page_eq, Conversation.runOn_bind, hsent]
  have hresult : (c.pages server list query 1 s).1.result = .error e := by
    rw [hpage]
    rfl
  rw [PageSource.results_eq_walk, PageSource.listing_of_failed hresult, PageSource.walk_of_failed hresult, hpage]

namespace Platform

/-- What is served can be asked for. -/
theorem Serves.pageRequest {s : Store} {list : Collection α} {form : Resource.Form α ε} {items : Option String → List α}
    (h : Serves s list form items) {c : Client} (hc : c.Reaches s) (query : Query) (number : UInt32) :
    ∃ q, c.pageRequest list query number = .ok q := by
  obtain ⟨route, path, hat, -⟩ := h.answers
  exact hat.segments.requestAt hc .get (Client.writes_withPairs (query.pairs number ++ list.pairs))

/-- Where the token cannot be sent, nothing that is served can be asked for. -/
theorem Serves.pageRequest_unsendable {s : Store} {list : Collection α} {form : Resource.Form α ε} {items : Option String → List α}
    (h : Serves s list form items) {c : Client} (hc : c.IsAtRoot)
    (hsendable : Http.isHeaderValue (Client.bearerCredentials c.token) = false) (query : Query) (number : UInt32) :
    c.pageRequest list query number = .error (.transport .badHeader) := by
  obtain ⟨route, path, ⟨⟨first, rest, raw, hpath, hsegments, -⟩, -⟩, -⟩ := h.answers
  rw [Client.pageRequest, hpath]
  exact Client.requestAt_unsendable hc hsendable (hsegments first List.mem_cons_self).nonempty (fun x hx => (hsegments x hx).chars) _ _

/-- A collection that a platform serves is told in its pages. -/
theorem Serves.tellsPages {s : Store} {list : Collection α} {form : Resource.Form α ε} {items : Option String → List α}
    (h : Serves s list form items) {c : Client} (hc : c.Reaches s) (name : Option String) (perPage : Option UInt32)
    (direction : Option Query.Direction) {size : Nat} (hsize : size = max 1 (perPage.getD Query.defaultPerPage).toNat) :
    TellsPages (c.pages server list (.narrowed name perPage direction))
      (c.pageRequest list (.narrowed name perPage direction)) s (items name) size := by
  have hnat : (max 1 (Query.narrowed name perPage direction).pageSize).toNat = size := by rw [toNat_max_one, hsize]; rfl
  intro n hn
  obtain ⟨x, p, hq, hx, hitems, hnext⟩ := h.page hc name perPage direction hn
  rw [hnat] at hitems hnext
  refine ⟨x, p, hq, fun t ht => ?_, hitems, hnext⟩
  rw [Client.pages, hx t ht]

/-- A collection that a platform serves is read up to its last page, by the number of pages as it is sent. -/
theorem Serves.results {s : Store} {list : Collection α} {form : Resource.Form α ε} {items : Option String → List α}
    (h : Serves s list form items) {c : Client} (hc : c.Reaches s) (name : Option String) (perPage : Option UInt32)
    (direction : Option Query.Direction) {size : Nat} (hsize : size = max 1 (perPage.getD Query.defaultPerPage).toNat) :
    let pages := max 1 (Cut.pageCount (items name).length size).toUInt32.toNat
    ∃ log, log.map (Except.ok ·.request) =
        (List.range' 1 pages).map (fun n => c.pageRequest list (.narrowed name perPage direction) n.toUInt32) ∧
      ∀ history, (c.pages server list (.narrowed name perPage direction)).results ⟨s, history⟩ =
        (((items name).take (pages * size)).map .ok, Session.after ⟨s, history⟩ s log) := by
  intro pages
  have hone : (1 : UInt32).toNat = 1 := rfl
  have hpages : pages - 1 + 1 = pages := Nat.sub_add_cancel (Nat.le_max_left 1 _)
  obtain ⟨log, hrequests, hwalk⟩ := (h.tellsPages hc name perPage direction hsize).walk (pages - 1) 1 (UInt32.le_refl 1)
    (by rw [hone]; omega)
  refine ⟨log, by rw [hrequests, hone, hpages], fun history => ?_⟩
  obtain ⟨hs, hl⟩ := hwalk ⟨s, history⟩ rfl
  rw [PageSource.results_eq_walk, hl, hs, hone, hpages, Nat.sub_self, Nat.zero_mul, List.drop_zero]

/-- Whether each point in time that a store holds is one that some text gives. -/
structure Store.IsReadable (s : Store) : Prop where
  organizations : ∀ o ∈ s.organizations, ∀ t ∈ o.createdAt, ∃ text, Timestamp.ofString text = .ok t
  spaces : ∀ x ∈ s.spaces, ∀ t ∈ x.createdAt, ∃ text, Timestamp.ofString text = .ok t

/-- A point in time that some text gives comes back from its own text. -/
theorem ofString_text_of_readable {t : Timestamp} (h : ∃ text, Timestamp.ofString text = .ok t) :
    Timestamp.ofString t.text = .ok t := by
  obtain ⟨text, h⟩ := h
  exact Timestamp.ofString_text (Timestamp.isShowable_of_ofString h)

/-- The words in paths. -/
def Route.words : List String :=
  ["v2", "organizations", "spaces", "space_quota_definitions", "service_instances", "user_provided_service_instances", "jobs"]

/-- Every word is a plain segment. -/
theorem isPlainSegment_of_mem_words {s : String} (h : s ∈ Route.words) : Url.IsPlainSegment s := by
  have hwords : ∀ s ∈ Route.words,
      s.toList.all Url.isSegmentChar = true ∧ Url.isSingleDot s = false ∧ Url.isDoubleDot s = false ∧ s ≠ "" := by
    decide +kernel
  obtain ⟨h1, h2, h3, h4⟩ := hwords s h
  exact ⟨List.all_eq_true.mp h1, h2, h3, h4⟩

/-- The organizations of a store are served. -/
theorem serves_organizations {s : Store} (h : s.IsReadable) :
    Serves s .organizations Organization.form s.listOrganizations where
  answers := by
    refine ⟨.organizations, "/v2/organizations", ⟨⟨"v2", ["organizations"], .organizations, rfl, ?_, rfl, rfl⟩, rfl⟩, fun _ => rfl⟩
    intro x hx
    simp only [List.mem_cons, List.not_mem_nil, or_false] at hx
    rcases hx with rfl | rfl
    · exact isPlainSegment_of_mem_words (by decide)
    · exact isPlainSegment_of_mem_words (by decide)
  pairs p hp := by cases hp
  envelope := rfl
  reads name o ho := by
    have hm := List.mem_of_mem_filter ho
    refine Resource.decoder_reads _ ((Organization.Entity.decoder_reads _).mono (by decide)) (by decide) (fun t ht => ?_)
      fun t ht => by cases ht
    exact ofString_text_of_readable (h.organizations o hm t ht)

/-- Whether a text can stand in a path as an id: it is not empty, and is none of the names for a way up or for none. -/
structure IsScope (id : String) : Prop where
  nonempty : id ≠ ""
  single : id ≠ "."
  double : id ≠ ".."

instance (id : String) : Decidable (IsScope id) :=
  decidable_of_iff (id ≠ "" ∧ id ≠ "." ∧ id ≠ "..") ⟨fun ⟨h1, h2, h3⟩ => ⟨h1, h2, h3⟩, fun h => ⟨h.1, h.2, h.3⟩⟩

/-- The words for the versions of the interface are plain segments. -/
theorem isPlainSegment_versions : Url.IsPlainSegment "v2" ∧ Url.IsPlainSegment "v3" := by
  constructor <;> exact ⟨List.all_eq_true.mp (by decide +kernel), by decide, by decide, by decide⟩

/-- A path with an id among words leads along the route of these words, with that id. -/
theorem isAlong_id {id : String} (hid : IsScope id) (route : String → Route) {root parent : String} {children : List String}
    (hroot : Url.IsPlainSegment root) (hwords : ∀ w ∈ parent :: children, w ∈ Route.words)
    (halong : ∀ x : String, x.isEmpty = false → Route.along? (root :: parent :: x :: children) = some (route x))
    (hplain : ∀ x, (route x).plain? = (Route.plainSegment? x).map route) {path : String}
    (hpath : path = Url.pathText root (parent :: Url.segmentText id :: children)) : (route id).IsAlong path := by
  have hback : (route (Url.segmentText id)).plain? = some (route id) := by
    rw [hplain, Route.plainSegment?_segmentText]
    rfl
  have hsegment := Url.isPlainSegment_segmentText hid.nonempty hid.single hid.double
  have hnonempty : (Url.segmentText id).isEmpty = false := by simpa using hsegment.nonempty
  refine ⟨root, _, _, hpath, fun x hx => ?_, halong _ hnonempty, hback⟩
  rcases List.mem_cons.mp hx with rfl | hx
  · exact hroot
  · rcases List.mem_cons.mp hx with rfl | hx
    · exact isPlainSegment_of_mem_words (hwords _ List.mem_cons_self)
    · rcases List.mem_cons.mp hx with rfl | hx
      · exact hsegment
      · exact isPlainSegment_of_mem_words (hwords _ (List.mem_cons_of_mem _ hx))

/-- The spaces of an organization are served. -/
theorem serves_spaces {s : Store} (h : s.IsReadable) {id : String} (hid : IsScope id) :
    Serves s (.spaces id) Space.form (s.listSpaces id) where
  answers := by
    have hpath : (Collection.spaces id).path = Url.pathText "v2" ["organizations", Url.segmentText id, "spaces"] := by
      rw [Url.pathText_scoped]
      rfl
    exact ⟨.spaces id, "/v2/organizations/" ++ id ++ "/spaces",
      ⟨isAlong_id hid .spaces isPlainSegment_versions.1 (by decide) (fun x hx => (Route.along?_scoped hx).1) (fun _ => rfl) hpath,
        rfl⟩, fun _ => rfl⟩
  pairs p hp := by cases hp
  envelope := rfl
  reads name x hx := by
    have hm := List.mem_of_mem_filter hx
    refine Resource.decoder_reads _ ((Space.Entity.decoder_reads _).mono (by decide)) (by decide) (fun t ht => ?_)
      fun t ht => by cases ht
    exact ofString_text_of_readable (h.spaces x hm t ht)

/-- The space quotas of an organization are served, whatever their names. -/
theorem serves_spaceQuotas (s : Store) {id : String} (hid : IsScope id) :
    Serves s (.spaceQuotas id) SpaceQuota.form (fun _ => s.listSpaceQuotas id) where
  answers := by
    have hpath : (Collection.spaceQuotas id).path =
        Url.pathText "v2" ["organizations", Url.segmentText id, "space_quota_definitions"] := by
      rw [Url.pathText_scoped]
      rfl
    exact ⟨.spaceQuotas id, "/v2/organizations/" ++ id ++ "/space_quota_definitions",
      ⟨isAlong_id hid .spaceQuotas isPlainSegment_versions.1 (by decide) (fun x hx => (Route.along?_scoped hx).2.1) (fun _ => rfl)
        hpath, rfl⟩, fun _ => rfl⟩
  pairs p hp := by cases hp
  envelope := rfl
  reads name q _ :=
    Resource.decoder_reads _ ((SpaceQuota.Entity.decoder_reads _).mono (by decide)) (by decide) (fun t ht => by cases ht)
      fun t ht => by cases ht

/-- The service instances of a space are served. -/
theorem serves_serviceInstances (s : Store) {id : String} (hid : IsScope id) :
    Serves s (.serviceInstances id) ServiceInstance.form (s.listServiceInstances id) where
  answers := by
    have hpath : (Collection.serviceInstances id).path =
        Url.pathText "v2" ["spaces", Url.segmentText id, "service_instances"] := by
      rw [Url.pathText_scoped]
      rfl
    exact ⟨.serviceInstances id, "/v2/spaces/" ++ id ++ "/service_instances",
      ⟨isAlong_id hid .serviceInstances isPlainSegment_versions.1 (by decide) (fun x hx => (Route.along?_scoped hx).2.2) (fun _ => rfl)
        hpath, rfl⟩, fun _ => rfl⟩
  pairs p hp := by
    rw [List.mem_singleton.mp hp]
    decide
  envelope := rfl
  reads name i _ :=
    Resource.decoder_reads _ (ServiceInstance.Entity.decoder_reads _) (by decide) (fun t ht => by cases ht)
      fun t ht => by cases ht

end Platform

end ControlPlane
