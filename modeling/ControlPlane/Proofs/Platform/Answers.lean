import ControlPlane.Platform.Responder
import ControlPlane.Proofs.Exchange.Sends
import ControlPlane.Proofs.Json.Resources
import ControlPlane.Proofs.Platform.Cuts
import ControlPlane.Proofs.Text.Timestamps
import ControlPlane.Proofs.Url.Joined

/-!
# What is asked for is answered

A client at the root of a platform can ask for what is at a path of segments; the platform sees where they lead and the pairs that
were meant (`Client.arrival_of_requestAt`), and answers along the route of plain segments (`Route.IsAlong.answered`). Where it serves a
list there, the client reads from the answer the page that was cut from the list (`Platform.Serves.page`).
-/

namespace ControlPlane

open Platform

/-- Whether a client is at the root of a host that can be asked. -/
structure Client.IsAtRoot (c : Client) : Prop where
  root : c.base.path = .segments [""]
  host : c.base.hasHost = true
  usable : Client.isUsable c.base = true

/-- Whether a client is at the root of a host that can be asked, and shows the token that a platform asks for. -/
structure Client.Reaches (c : Client) (s : Store) : Prop where
  root : c.base.path = .segments [""]
  host : c.base.hasHost = true
  usable : Client.isUsable c.base = true
  sendable : Http.isHeaderValue (Client.bearerCredentials c.token) = true
  accepted : s.requiredToken.all (shows · ((c.credentials c.base).map Http.trimValue)) = true

/-! ## The request -/

namespace Client

theorem Reaches.isAtRoot {c : Client} {s : Store} (hc : c.Reaches s) : c.IsAtRoot := ⟨hc.root, hc.host, hc.usable⟩

/-- The credentials of a client as they arrive. -/
def shownCredentials (c : Client) : List (List UInt8) := (c.credentials c.base).map Http.trimValue

/-- The pairs behind an address without query are read back. -/
theorem pairs_withPairs {u : Url} (h : u.query = none) (pairs : List (String × String)) :
    (u.withPairs pairs).query.elim [] (fun q => Url.Form.decode (Text.octets q)) = pairs := by
  have hd := Url.Form.decode_append pairs
  simp only [Url.withPairs, h, Option.elim_none]
  generalize Url.Form.append [] pairs = written at hd
  cases written with
  | nil => exact hd
  | cons x xs =>
    rw [List.isEmpty_cons, if_neg (by decide), Option.elim_some, Text.octets_ofList]
    exact hd

/-- Whether a change of an address leaves all but its query, and puts pairs into a query that was not there. -/
structure Writes (change : Url → Url) (pairs : List (String × String)) : Prop where
  only : ∀ u, ∃ query, change u = { u with query := query }
  pairs : ∀ u, u.query = none → (change u).query.elim [] (fun q => Url.Form.decode (Text.octets q)) = pairs

theorem writes_withPairs (pairs : List (String × String)) : Writes (·.withPairs pairs) pairs where
  only _ := ⟨_, rfl⟩
  pairs _ h := pairs_withPairs h pairs

theorem writes_id : Writes id [] where
  only u := ⟨u.query, rfl⟩
  pairs u h := by rw [id, h, Option.elim_none]

/-- The address of a path of written segments, as they are walked along. -/
theorem address_of_pathText {c : Client} (hc : c.IsAtRoot) {first : String} {rest : List String} (hfirst : first ≠ "")
    (hchars : ∀ x ∈ first :: rest, ∀ ch ∈ x.toList, Url.isSegmentChar ch = true) :
    c.address (Url.pathText first rest) =
      .ok { c.base with path := .segments (Url.walk [] (first :: rest)), query := none, fragment := none } := by
  have hfile : c.base.scheme ≠ "file" := by
    intro hf
    have hu := hc.usable
    rw [isUsable, hf] at hu
    cases hu
  rw [address, Url.join_path hfile hc.root hfirst hchars]
  exact if_pos hc.host

/-- Where the token cannot be sent, nothing is. -/
theorem requestAt_unsendable {c : Client} (hc : c.IsAtRoot) (hsendable : Http.isHeaderValue (bearerCredentials c.token) = false)
    {first : String} {rest : List String} (hfirst : first ≠ "")
    (hchars : ∀ x ∈ first :: rest, ∀ ch ∈ x.toList, Url.isSegmentChar ch = true) (method : Http.Method) (change : Url → Url) :
    c.requestAt method (Url.pathText first rest) change = .error (.transport .badHeader) := by
  rw [requestAt, address_of_pathText hc hfirst hchars, Except.bind, request, if_neg (by rw [hsendable]; decide)]

/-- A platform sees where the segments lead that are asked for, and the pairs. -/
theorem arrival_of_requestAt {c : Client} (hc : c.IsAtRoot) (hsendable : Http.isHeaderValue (bearerCredentials c.token) = true)
    {first : String} {rest : List String} (hfirst : first ≠ "")
    (hchars : ∀ x ∈ first :: rest, ∀ ch ∈ x.toList, Url.isSegmentChar ch = true) (method : Http.Method)
    {change : Url → Url} {pairs : List (String × String)} (hchange : Writes change pairs) :
    ∃ q, c.requestAt method (Url.pathText first rest) change = .ok q ∧ (Arrival.ofRequest q).method = method ∧
      (Arrival.ofRequest q).path = (Url.Path.segments (Url.walk [] (first :: rest))).text ∧ (Arrival.ofRequest q).pairs = pairs ∧
      (Arrival.ofRequest q).authorization = c.shownCredentials := by
  have haddress := address_of_pathText hc hfirst hchars
  generalize hu : ({ c.base with path := .segments (Url.walk [] (first :: rest)), query := none, fragment := none } : Url) = u
    at haddress
  have hpairs := hchange.pairs u (by rw [← hu])
  obtain ⟨query, hwritten⟩ := hchange.only u
  have hpath : (change u).path = .segments (Url.walk [] (first :: rest)) := by rw [hwritten, ← hu]
  have hrequest : c.requestAt method (Url.pathText first rest) change =
      .ok ⟨method, (publicAddress (change u)).withoutFragment, (c.credentials (change u)).map Http.trimValue⟩ := by
    have husable : isUsable (change u) = true := by rw [hwritten, ← hu]; exact hc.usable
    rw [requestAt, haddress, Except.bind, request, if_pos hsendable, if_pos husable]
  refine ⟨_, hrequest, rfl, ?_, ?_, ?_⟩
  · simp only [Arrival.ofRequest, Url.withoutFragment, publicAddress]
    split <;> simp only [Url.withoutCredentials, hpath]
  · simp only [Arrival.pairs, Arrival.ofRequest, Url.withoutFragment, publicAddress]
    split <;> exact hpairs
  · rw [hwritten, ← hu]
    rfl

end Client

/-! ## The answer -/

namespace Platform

/-- The id in a route does not tell whether what is there can be deleted. -/
theorem Route.isDeletable_of_plain? {raw route : Route} (h : raw.plain? = some route) :
    raw.isDeletable = route.isDeletable := by
  cases raw with
  | organizations | health => cases h; rfl
  | spaces id | spaceQuotas id | serviceInstances id | space id | serviceInstance id | userProvidedServiceInstance id
  | job version id =>
    obtain ⟨plain, -, rfl⟩ := Option.map_eq_some_iff.mp h
    rfl

/-- A request goes along a route where its segments lead along it, its method can be used there, and its id and its pairs can be
read. -/
theorem routed_eq_ok {a : Arrival} {route : Route} :
    routed a = .ok route ↔ ∃ raw, (Route.segments? a.path).bind Route.along? = some raw ∧ raw.allows a.method = true ∧
      raw.plain? = some route ∧ pairsFault? a.pairs route = none := by
  constructor
  · intro h
    unfold routed at h
    split at h
    · cases h
    · next raw hraw =>
      split at h
      · next hallows =>
        split at h
        · cases h
        · next hplain =>
          split at h
          · cases h
          · next hpairs =>
            cases h
            exact ⟨raw, hraw, hallows, hplain, hpairs⟩
      · cases h
  · rintro ⟨raw, hraw, hallows, hplain, hpairs⟩
    simp only [routed, hraw, hallows, if_true, hplain, hpairs]

/-- A request that a route allows goes along the route that its segments lead to. -/
theorem routed_along {a : Arrival} {segments : List String} {raw route : Route}
    (hsegments : Route.segments? a.path = some segments) (halong : Route.along? segments = some raw)
    (hplain : raw.plain? = some route) (hallows : route.allows a.method = true) (hpairs : pairsFault? a.pairs route = none) :
    routed a = .ok route := by
  have hallows : raw.allows a.method = true := by
    rw [← hallows]
    unfold Route.allows
    rw [Route.isDeletable_of_plain? hplain]
  exact routed_eq_ok.mpr ⟨raw, by rw [hsegments, Option.bind_some, halong], hallows, hplain, hpairs⟩

/-- A request along a route that shows the token is answered along the route. -/
theorem respond_along (s : Store) {a : Arrival} {route : Route} (hrouted : routed a = .ok route) (hmethod : a.method ≠ .head)
    (htoken : s.requiredToken.all (shows · a.authorization) = true) : respond s a = answer s a.pairs route := by
  have hadmits : admits s.requiredToken a.authorization route = true := by
    rw [admits, htoken, Bool.or_true]
  simp only [respond, hrouted, hadmits, if_true, strip, if_neg hmethod]

/-- Whether a path of plain segments leads along a route. -/
def Route.IsAlong (route : Route) (path : String) : Prop :=
  ∃ first rest raw, path = Url.pathText first rest ∧ (∀ x ∈ first :: rest, Url.IsPlainSegment x) ∧
    Route.along? (first :: rest) = some raw ∧ raw.plain? = some route

/-- Whether a path of plain segments leads along a route to something that can be asked for. -/
structure Route.IsAt (route : Route) (path : String) : Prop where
  segments : route.IsAlong path
  askable : route.isDeletable = false

/-- What a client asks for at a path goes along the route to which the path leads. -/
theorem Route.IsAlong.routed {route : Route} {path : String} (h : route.IsAlong path) {c : Client} (hc : c.IsAtRoot)
    (hsendable : Http.isHeaderValue (Client.bearerCredentials c.token) = true) {method : Http.Method}
    (hallows : route.allows method = true) {change : Url → Url} {pairs : List (String × String)}
    (hchange : Client.Writes change pairs) (hpairs : pairsFault? pairs route = none) :
    ∃ q, c.requestAt method path change = .ok q ∧ (Arrival.ofRequest q).method = method ∧
      Platform.routed (.ofRequest q) = .ok route ∧ (Arrival.ofRequest q).pairs = pairs ∧
      (Arrival.ofRequest q).authorization = c.shownCredentials := by
  obtain ⟨first, rest, raw, rfl, hsegments, halong, hplain⟩ := h
  obtain ⟨q, hq, hm, hp, hwritten, hauth⟩ := Client.arrival_of_requestAt hc hsendable (hsegments first List.mem_cons_self).nonempty
    (fun x hx => (hsegments x hx).chars) method hchange
  rw [Url.walk_of_plain hsegments, List.nil_append] at hp
  refine ⟨q, hq, hm, routed_along ?_ halong hplain (by rw [hm]; exact hallows) (by rw [hwritten]; exact hpairs), hwritten, hauth⟩
  rw [hp]
  exact Route.segments?_text hsegments

/-- What a path of plain segments leads to can be asked for. -/
theorem Route.IsAlong.requestAt {route : Route} {path : String} (h : route.IsAlong path) {c : Client} {s : Store}
    (hc : c.Reaches s) (method : Http.Method) {change : Url → Url} {pairs : List (String × String)}
    (hchange : Client.Writes change pairs) : ∃ q, c.requestAt method path change = .ok q := by
  obtain ⟨first, rest, raw, rfl, hsegments, -⟩ := h
  obtain ⟨q, hq, -⟩ := Client.arrival_of_requestAt hc.isAtRoot hc.sendable (hsegments first List.mem_cons_self).nonempty
    (fun x hx => (hsegments x hx).chars) method hchange
  exact ⟨q, hq⟩

/-- What a client asks for at a path is answered along the route to which the path leads. -/
theorem Route.IsAlong.answered {route : Route} {path : String} (h : route.IsAlong path) {c : Client} {s : Store}
    (hc : c.Reaches s) {method : Http.Method} (hallows : route.allows method = true) (hmethod : method ≠ .head)
    {change : Url → Url} {pairs : List (String × String)} (hchange : Client.Writes change pairs)
    (hpairs : pairsFault? pairs route = none) :
    ∃ q, c.requestAt method path change = .ok q ∧
      server q s = (.response (answer s pairs route).1, (answer s pairs route).2) := by
  obtain ⟨q, hq, hm, hrouted, hwritten, hauth⟩ := h.routed hc.isAtRoot hc.sendable hallows hchange hpairs
  have htoken : s.requiredToken.all (shows · (Arrival.ofRequest q).authorization) = true := by
    rw [hauth]
    exact hc.accepted
  have hrespond := respond_along s hrouted (by rw [hm]; exact hmethod) htoken
  rw [hwritten] at hrespond
  exact ⟨q, hq, by rw [server, hrespond]⟩

/-- What a client asks for at a path of something that can be asked for is answered, whatever the pairs. -/
theorem Route.IsAt.asked {route : Route} {path : String} (h : route.IsAt path) {c : Client} {s : Store} (hc : c.Reaches s)
    {change : Url → Url} {pairs : List (String × String)} (hchange : Client.Writes change pairs) :
    ∃ q, c.requestAt .get path change = .ok q ∧
      server q s = (.response (answer s pairs route).1, (answer s pairs route).2) := by
  have hallows : route.allows .get = true := by rw [Route.allows, h.askable, Bool.not_false]
  have hpairs : pairsFault? pairs route = none := by
    have hget := h.askable
    cases route with
    | space id | serviceInstance id => cases hget
    | _ => rfl
  exact h.segments.answered hc hallows nofun hchange hpairs

variable {α ε : Type}

/-- A value is read from the response that holds the JSON form of it. -/
theorem decode_jsonResponse {d : Json.Decoder α} {v : Json} {a : α} (h : d.run (Text.octets v.compact) = .ok a) (status : UInt16) :
    (jsonResponse status v).decode d = .ok a := by
  show (d.run (Text.octets v.compact)).mapError _ = _
  rw [h]
  rfl

/-- The response that holds a page. -/
def holding (form : Resource.Form α ε) (e : Envelope α) : Http.Response :=
  jsonResponse 200 ((e.map form.toResource).toJson (Resource.toJson form.fieldsJson))

/-- A page is read from the response that holds it, if its resources come back. -/
theorem pageOf_holding {list : Collection α} {form : Resource.Form α ε} (henvelope : list.envelope = Collection.envelopeOf form)
    (number : UInt32) (e : Envelope α)
    (hreads : ∀ a ∈ e.resources,
      (Resource.decoder form.fields).Reads 3 ((form.toResource a).toJson form.fieldsJson) (form.toResource a)) :
    (holding form e).decode list.envelope = .ok e ∧ Client.pageOf list number (holding form e) = .ok (e.toPage number) := by
  have hback : (e.map form.toResource).map form.ofResource = e := by
    simp only [Envelope.map, List.map_map, Function.comp_def, form.ofResource_toResource, List.map_id']
  have hread := Envelope.decoder_reads (e.map form.toResource) fun b hb => by
    obtain ⟨a, ha, rfl⟩ := List.mem_map.mp hb
    exact hreads a ha
  have hmap := hread.map (·.map form.ofResource)
  rw [hback] at hmap
  have hrun : (Collection.envelopeOf form).run _ = .ok e := hmap.run (by decide)
  have hdecode : (holding form e).decode list.envelope = .ok e := decode_jsonResponse (henvelope ▸ hrun) 200
  exact ⟨hdecode, by rw [Client.pageOf, hdecode]; rfl⟩

/-- The page that was cut is read from the response that holds it, if its resources come back. -/
theorem pageOf_listed {list : Collection α} {form : Resource.Form α ε} (henvelope : list.envelope = Collection.envelopeOf form)
    {items : Option String → List α} {pairs : List (String × String)} {path : String} (number : UInt32)
    (hreads : ∀ a ∈ items (Cut.ofPairs pairs).name,
      (Resource.decoder form.fields).Reads 3 ((form.toResource a).toJson form.fieldsJson) (form.toResource a)) :
    Client.pageOf list number (listed pairs path items form) =
      .ok (((Cut.ofPairs pairs).envelope path (items (Cut.ofPairs pairs).name)).toPage number) :=
  (pageOf_holding henvelope number _ fun a ha => hreads a (List.mem_of_mem_drop (List.mem_of_mem_take ha))).2

/-- Whether a platform serves a collection: its path leads along a route to answers that list what the platform holds, and these
come back from their JSON forms. -/
structure Serves (s : Store) (list : Collection α) (form : Resource.Form α ε) (items : Option String → List α) : Prop where
  answers : ∃ route path, Route.IsAt route list.path ∧ ∀ pairs, answer s pairs route = (listed pairs path items form, s)
  pairs : ∀ p ∈ list.pairs, p.1 ≠ "page" ∧ p.1 ≠ "results-per-page" ∧ p.1 ≠ "q"
  envelope : list.envelope = Collection.envelopeOf form
  reads : ∀ name, ∀ a ∈ items name,
    (Resource.decoder form.fields).Reads 3 ((form.toResource a).toJson form.fieldsJson) (form.toResource a)

/-- A page of a collection that is served is asked for by one request, which leaves the platform as it is. It holds the items that
were cut, and names the page after it as long as there are more pages. -/
theorem Serves.page {s : Store} {list : Collection α} {form : Resource.Form α ε} {items : Option String → List α}
    (h : Serves s list form items) {c : Client} (hc : c.Reaches s) (name : Option String) (perPage : Option UInt32)
    (direction : Option Query.Direction) {number : UInt32} (hn : 1 ≤ number) :
    let query := Query.narrowed name perPage direction
    let size := (max 1 query.pageSize).toNat
    ∃ (x : Exchange) (p : Page α), c.pageRequest list query number = .ok x.request ∧
      (∀ t : Session Store, t.server = s → (c.page server list query number).runOn t = (.ok p, t.after s [x])) ∧
      p.items = Cut.slice (items name) number.toNat size ∧
      p.next = Page.successor number (some (Cut.pageCount (items name).length size).toUInt32) := by
  intro query size
  obtain ⟨route, path, hat, hanswer⟩ := h.answers
  obtain ⟨q, hq, hserver⟩ := hat.asked hc (Client.writes_withPairs (query.pairs number ++ list.pairs))
  rw [hanswer] at hserver
  let cut : Cut := ⟨number, max 1 query.pageSize, name⟩
  have hcut : Cut.ofPairs (query.pairs number ++ list.pairs) = cut := by
    rw [Cut.ofPairs_narrowed name perPage direction number h.pairs, show max 1 number = number from if_pos hn]
  have hpage : Client.pageOf list number (listed (query.pairs number ++ list.pairs) path items form) = _ :=
    pageOf_listed h.envelope number (h.reads _)
  rw [hcut] at hpage
  refine ⟨⟨q, .response (listed (query.pairs number ++ list.pairs) path items form)⟩,
    (cut.envelope path (items name)).toPage number, hq, fun t ht => ?_, rfl, rfl⟩
  rw [← ht] at hserver
  rw [Client.runOn_page hq hserver rfl, hpage, ht]

end Platform

end ControlPlane
