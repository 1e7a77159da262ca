import ControlPlane.Proofs.Platform.Answers
import ControlPlane.Proofs.Url.Written

/-!
# Clients and platforms understand a query alike

Whatever a list is asked for, the pairs that are read from the address of the request are those of the query, in their order; the
address is a link to the page asked for; and a platform reads from it the page, its size and the last name among the filters.
-/

namespace ControlPlane

open Platform

variable {α : Type}

/-! ## The pairs of a query -/

/-- The first `page` pair of a query is its own: a filter has another key. -/
theorem Query.find?_page (query : Query) (number : UInt32) (extra : List (String × String)) :
    (query.pairs number ++ extra).find? (·.1 == "page") = some ("page", toString number.toNat) := by
  have hfilters : (query.filters.map fun f => ("q", f.text)).find? (·.1 == "page") = none := by
    rw [List.find?_eq_none]
    intro p hp
    obtain ⟨f, -, rfl⟩ := List.mem_map.mp hp
    dsimp only
    decide
  rw [Query.pairs, List.append_assoc, List.append_assoc, List.find?_append, hfilters, Option.none_or]
  rfl

/-- An address with the pairs of a query is a link to the page, where it is read with the same query. -/
theorem linkedPage?_of_pairs {text : String} {u v : Url} (hread : Url.ofString text = .ok v) (hquery : v.query = u.query)
    {query : Query} {number : UInt32} {extra : List (String × String)} (hpairs : u.queryPairs = query.pairs number ++ extra) :
    linkedPage? text = some number := by
  have htarget : linkTarget? text = some v := by rw [linkTarget?, hread]
  have hsame : v.queryPairs = query.pairs number ++ extra := by rw [← hpairs, Url.queryPairs, Url.queryPairs, hquery]
  simp only [linkedPage?, htarget, Option.bind_eq_bind, Option.bind_some, hsame, Query.find?_page, Decimal.word32?_toString]

/-! ## The collections -/

/-- Whether a collection is one of those that a platform keeps. -/
inductive Collection.IsKept : {α : Type} → Collection α → Prop
  | organizations : IsKept organizations
  | spaces (organization : String) : IsKept (spaces organization)
  | spaceQuotas (organization : String) : IsKept (spaceQuotas organization)
  | serviceInstances (space : String) : IsKept (serviceInstances space)

/-- The path of a collection is one of written segments. -/
theorem Collection.IsKept.path {list : Collection α} (h : list.IsKept) : ∃ first rest,
    list.path = Url.pathText first rest ∧ first ≠ "" ∧ ∀ s ∈ first :: rest, ∀ c ∈ s.toList, Url.isSegmentChar c = true := by
  have hscoped (parent x child : String) (hp : ∀ c ∈ parent.toList, Url.isSegmentChar c = true)
      (hc : ∀ c ∈ child.toList, Url.isSegmentChar c = true) :
      ∀ s ∈ ["v2", parent, Url.segmentText x, child], ∀ c ∈ s.toList, Url.isSegmentChar c = true := by
    intro s hs
    simp only [List.mem_cons, List.not_mem_nil, or_false] at hs
    rcases hs with rfl | rfl | rfl | rfl
    · exact Url.forall_char (by decide +kernel)
    · exact hp
    · exact fun c => Url.isSegmentChar_of_mem
    · exact hc
  cases h with
  | organizations =>
    have hall : ∀ s ∈ ["v2", "organizations"], (s.toList.all fun c => decide (Url.isSegmentChar c = true)) = true := by
      decide +kernel
    exact ⟨"v2", ["organizations"], by decide +kernel, by decide, fun s hs => Url.forall_char (hall s hs)⟩
  | spaces organization =>
    refine ⟨"v2", ["organizations", Url.segmentText organization, "spaces"], ?_, by decide,
      hscoped _ _ _ (Url.forall_char (by decide +kernel)) (Url.forall_char (by decide +kernel))⟩
    rw [Url.pathText_scoped]
    rfl
  | spaceQuotas organization =>
    refine ⟨"v2", ["organizations", Url.segmentText organization, "space_quota_definitions"], ?_, by decide,
      hscoped _ _ _ (Url.forall_char (by decide +kernel)) (Url.forall_char (by decide +kernel))⟩
    rw [Url.pathText_scoped]
    rfl
  | serviceInstances space =>
    refine ⟨"v2", ["spaces", Url.segmentText space, "service_instances"], ?_, by decide,
      hscoped _ _ _ (Url.forall_char (by decide +kernel)) (Url.forall_char (by decide +kernel))⟩
    rw [Url.pathText_scoped]
    rfl

/-- The pairs of a collection ask for no page, no size and no name. -/
theorem Collection.IsKept.pairs {list : Collection α} (h : list.IsKept) :
    ∀ p ∈ list.pairs, p.1 ≠ "page" ∧ p.1 ≠ "results-per-page" ∧ p.1 ≠ "q" := by
  cases h with
  | organizations | spaces _ | spaceQuotas _ => exact fun p hp => absurd hp List.not_mem_nil
  | serviceInstances space =>
    intro p hp
    rw [List.mem_singleton.mp hp]
    dsimp only
    decide

namespace Client

/-! ## The request -/

/-- Whether a client can ask at all: its token can be sent, and its address can be asked. -/
structure CanAsk (c : Client) : Prop where
  sendable : Http.isHeaderValue (bearerCredentials c.token) = true
  usable : isUsable c.base = true

/-- An address that can be asked has a special scheme, and is no file. -/
theorem scheme_of_isUsable {u : Url} (h : isUsable u = true) : Url.isSpecial u.scheme = true ∧ u.scheme ≠ "file" := by
  rw [isUsable, Bool.and_eq_true, Bool.or_eq_true, beq_iff_eq, beq_iff_eq] at h
  rcases h.1 with h | h <;> rw [h] <;> decide

/-- The address of a client was read. -/
theorem isWritten_of_ofAddress {token address : String} {c : Client} (hc : ofAddress token address = .ok c)
    (hs : Url.isSpecial c.base.scheme = true) (hf : c.base.scheme ≠ "file") : c.base.IsWritten := by
  unfold ofAddress at hc
  split at hc
  · next base hread =>
    cases hc
    exact Url.isWritten_of_ofString hread hs hf
  · cases hc

/-- Whether the address of a client has ordinary characters and no percent forms, and its host a name that is not too long. In ASCII the
name may have any length. -/
structure HasOrdinaryAddress (c : Client) (address : String) : Prop where
  chars : ∀ ch ∈ address.toList, Url.Domain.isOrdinary ch = true ∧ ch ≠ '%'
  length : Url.Domain.isAscii address.toList = true ∨ ∀ a ∈ c.base.authority, a.host.text.length ≤ Url.Domain.Label.longest.2

/-- An address in ASCII without percent forms is ordinary. -/
theorem hasOrdinaryAddress_of_ascii (c : Client) {address : String} (h : ∀ ch ∈ address.toList, ch.toNat < 0x80 ∧ ch ≠ '%') :
    c.HasOrdinaryAddress address where
  chars ch hch := ⟨Url.Domain.isOrdinary_ascii (h ch hch).1, (h ch hch).2⟩
  length := Or.inl (Url.Domain.isAscii_iff.mpr fun ch hch => (h ch hch).1)

/-- The host of a client with an ordinary address is read as it is written. -/
theorem isReadable_of_ofAddress {token address : String} {c : Client} (hc : ofAddress token address = .ok c)
    (hs : Url.isSpecial c.base.scheme = true) (hf : c.base.scheme ≠ "file") (hordinary : c.HasOrdinaryAddress address) :
    ∀ a ∈ c.base.authority, a.host.IsReadable := by
  have hslash : ∀ ch ∈ (if address.toList.getLast? = some '/' then address else address ++ "/").toList,
      ch ∈ address.toList ∨ ch = '/' := by
    intro ch hch
    split at hch
    · exact Or.inl hch
    · rw [String.toList_append, List.mem_append] at hch
      exact hch.imp_right List.mem_singleton.mp
  unfold ofAddress at hc
  split at hc
  · next base hread =>
    cases hc
    refine Url.isReadable_of_ofString hread hs hf (fun ch hch => ?_) (hordinary.length.imp_left fun hall => ?_)
    · rcases hslash ch hch with hch | rfl
      · exact hordinary.chars ch hch
      · exact ⟨Url.Domain.isOrdinary_ascii (by decide), by decide⟩
    · refine Url.Domain.isAscii_iff.mpr fun ch hch => ?_
      rcases hslash ch hch with hch | rfl
      · exact Url.Domain.isAscii_iff.mp hall ch hch
      · decide
  · cases hc

section

variable {c : Client} {first : String} {rest : List String}

/-- The address of a path is in its written form, with the host of the client. -/
theorem address_of_written (hb : c.base.IsWritten) (hfirst : first ≠ "")
    (h : ∀ s ∈ first :: rest, ∀ ch ∈ s.toList, Url.isSegmentChar ch = true) :
    ∃ u, c.address (Url.pathText first rest) = .ok u ∧ u.IsWritten ∧ u.scheme = c.base.scheme ∧ u.authority = c.base.authority ∧
      u.query = none := by
  obtain ⟨segments, hj, hsegments⟩ := hb.join hfirst h
  obtain ⟨a, ha, hwritten⟩ := hb.authority
  have hhost : c.base.hasHost = true := by
    have hname : a.host ≠ .name "" := by
      intro he
      have hread := hwritten.host
      rw [he] at hread
      exact hread.1 rfl
    simpa only [Url.hasHost, ha, decide_eq_true_eq] using hname
  refine ⟨{ c.base with path := .segments segments, query := none, fragment := none }, ?_,
    ⟨hb.special, hb.remote, hb.authority, segments, rfl, hsegments⟩, rfl, rfl, rfl⟩
  rw [address, hj]
  exact if_pos hhost

/-- Without its credentials an address is in its written form, with the same host. -/
theorem publicAddress_written {u : Url} (hu : u.IsWritten) :
    (publicAddress u).IsWritten ∧ ∀ a ∈ (publicAddress u).authority, ∃ b ∈ u.authority, a.host = b.host := by
  unfold publicAddress
  split
  · obtain ⟨a, ha, hwritten⟩ := hu.authority
    have hsame : u.withoutCredentials.authority = some { a with user := "", password := "" } := by
      rw [Url.withoutCredentials, ha, Option.map_some]
    have hempty : ∀ c ∈ "".toList, Url.Stays Url.inUserInfo c := fun c hc => absurd hc List.not_mem_nil
    refine ⟨⟨hu.special, hu.remote, ⟨_, hsame, hempty, hempty, hwritten.host⟩, hu.path⟩, ?_⟩
    intro b hb
    rw [hsame] at hb
    exact ⟨a, ha, by rw [← Option.some.inj hb]⟩
  · exact ⟨hu, fun a ha => ⟨a, ha, rfl⟩⟩

/-- The characters of pairs stay in the query that they make. -/
theorem stays_withPairs {u : Url} (h : u.query = none) (pairs : List (String × String)) :
    ∀ t ∈ (u.withPairs pairs).query, ∀ ch ∈ t.toList, Url.Stays Url.inSpecialQuery ch := by
  intro t ht ch hch
  simp only [Url.withPairs, h, Option.elim_none] at ht
  split at ht
  · cases ht
  · cases ht
    rw [String.toList_ofList] at hch
    exact Url.Form.stays_append hch

/-- What a client that can ask sends to a path: an address in its written form, with its own host and the pairs. -/
theorem requestAt_of_written (hb : c.base.IsWritten) (hask : c.CanAsk) (hfirst : first ≠ "")
    (h : ∀ s ∈ first :: rest, ∀ ch ∈ s.toList, Url.isSegmentChar ch = true) (method : Http.Method) (pairs : List (String × String)) :
    ∃ q, c.requestAt method (Url.pathText first rest) (·.withPairs pairs) = .ok q ∧ q.url.IsWritten ∧ q.url.queryPairs = pairs ∧
      (∀ t ∈ q.url.query, ∀ ch ∈ t.toList, Url.Stays Url.inSpecialQuery ch) ∧ q.url.fragment = none ∧
      ∀ a ∈ q.url.authority, ∃ b ∈ c.base.authority, a.host = b.host := by
  obtain ⟨u, hu, hwritten, hscheme, hauthority, hquery⟩ := address_of_written hb hfirst h
  have husable : isUsable (u.withPairs pairs) = true := by
    have hbase := hask.usable
    rw [isUsable] at hbase ⊢
    simpa only [Url.withPairs, hscheme, hauthority] using hbase
  have hpairs : (u.withPairs pairs).IsWritten := ⟨hwritten.special, hwritten.remote, hwritten.authority, hwritten.path⟩
  obtain ⟨hpublic, hhost⟩ := publicAddress_written hpairs
  have hsame : (publicAddress (u.withPairs pairs)).query = (u.withPairs pairs).query := by
    unfold publicAddress
    split <;> rfl
  refine ⟨_, by rw [requestAt, hu, Except.bind, request, if_pos hask.sendable, if_pos husable],
    ⟨hpublic.special, hpublic.remote, hpublic.authority, hpublic.path⟩, ?_, ?_, rfl, ?_⟩
  · exact (congrArg (Option.elim · [] _) hsame).trans (pairs_withPairs hquery pairs)
  · intro t ht
    exact stays_withPairs hquery pairs t (hsame ▸ ht)
  · intro a ha
    obtain ⟨b, hb, he⟩ := hhost a ha
    exact ⟨b, hauthority ▸ hb, he⟩

/-- A client that sends a request to a path can ask. -/
theorem canAsk_of_requestAt {token address : String} (hc : ofAddress token address = .ok c) (hfirst : first ≠ "")
    (h : ∀ s ∈ first :: rest, ∀ ch ∈ s.toList, Url.isSegmentChar ch = true) {method : Http.Method} {pairs : List (String × String)}
    {q : Http.Request} (hq : c.requestAt method (Url.pathText first rest) (·.withPairs pairs) = .ok q) :
    c.CanAsk ∧ c.base.IsWritten := by
  rw [requestAt] at hq
  obtain ⟨u, hu, hrequest⟩ := ok_of_bind hq
  unfold request at hrequest
  split at hrequest
  · next hsendable =>
    split at hrequest
    · next husable =>
      have hscheme : u.scheme = c.base.scheme := by
        unfold Client.address at hu
        split at hu
        · cases hu
        · next hj =>
          split at hu
          · cases hu
            exact Url.join_scheme hfirst h hj
          · cases hu
      obtain ⟨hs, hf⟩ := scheme_of_isUsable husable
      have hb : c.base.IsWritten := isWritten_of_ofAddress hc (hscheme ▸ hs) (hscheme ▸ hf)
      obtain ⟨v, hv, -, hsame, hauthority, -⟩ := address_of_written hb hfirst h
      rw [hu] at hv
      cases hv
      refine ⟨⟨hsendable, ?_⟩, hb⟩
      rw [isUsable] at husable ⊢
      simpa only [Url.withPairs, hsame, hauthority] using husable
    · cases hrequest
  · cases hrequest

end

/-! ## Reading what was sent -/

/-- A host is read as it is written, where it is that of an address whose name is. -/
theorem isReadable_of_same {u v : Url} (hu : u.IsWritten) (hsame : ∀ a ∈ u.authority, ∃ b ∈ v.authority, a.host = b.host)
    (hname : ∀ a ∈ v.authority, ∀ name, a.host = .name name → a.host.IsReadable) : ∀ a ∈ u.authority, a.host.IsReadable := by
  intro a ha
  obtain ⟨b, hb, he⟩ := hsame a ha
  obtain ⟨a', ha', hplace⟩ := hu.authority
  rw [ha'] at ha
  cases ha
  refine Url.Host.isReadable_of_isRead hplace.host fun name hnamed => ?_
  rw [he] at hnamed ⊢
  exact hname b hb name hnamed

/-- Clients and platforms understand a query alike. A client that can ask, and no other, sends a request for a page. From the address of
the request the pairs of the query are read in their order, and then those of the collection; as a link the address leads to the page
asked for; and a platform reads from it that page, its size, and the last name, where all filters are for names. A link is read as an
address first, with its host: so a host that is a name must be read as it is written. That of an ordinary address is, in ASCII or with
letters of any script, unless its ASCII form has more than two thousand characters, which is longer than the name of any host that can be
reached. -/
theorem queries_understood {token address : String} {c : Client} (hc : ofAddress token address = .ok c) {list : Collection α}
    (hlist : list.IsKept) (query : Query) {number : UInt32} (hn : 1 ≤ number) :
    ((∃ q, c.pageRequest list query number = .ok q) ↔ c.CanAsk) ∧
      ∀ q, c.pageRequest list query number = .ok q →
        q.url.queryPairs = query.pairs number ++ list.pairs ∧
        ((c.HasOrdinaryAddress address ∨ ∀ a ∈ c.base.authority, ∀ name, a.host = .name name → a.host.IsReadable) →
          linkedPage? q.url.text = some number) ∧
        (Cut.ofPairs q.url.queryPairs).page = number ∧
        (Cut.ofPairs q.url.queryPairs).size = max 1 (query.perPage.getD 50) ∧
        ∀ names : List String, query.filters = names.map .named → (Cut.ofPairs q.url.queryPairs).name = names.getLast? := by
  obtain ⟨first, rest, hpath, hfirst, hsegments⟩ := hlist.path
  have hsent (hb : c.base.IsWritten) (hask : c.CanAsk) :=
    requestAt_of_written hb hask hfirst hsegments .get (query.pairs number ++ list.pairs)
  have hcan {q : Http.Request} (hq : c.pageRequest list query number = .ok q) : c.CanAsk ∧ c.base.IsWritten := by
    rw [pageRequest, hpath] at hq
    exact canAsk_of_requestAt hc hfirst hsegments hq
  refine ⟨⟨fun ⟨q, hq⟩ => (hcan hq).1, fun hask => ?_⟩, fun q hq => ?_⟩
  · obtain ⟨hs, hf⟩ := scheme_of_isUsable hask.usable
    obtain ⟨q, hq, -⟩ := hsent (isWritten_of_ofAddress hc hs hf) hask
    exact ⟨q, by rw [pageRequest, hpath, hq]⟩
  · obtain ⟨hask, hb⟩ := hcan hq
    obtain ⟨q', hq', hwritten, hpairs, hstays, hfragment, hhost⟩ := hsent hb hask
    rw [pageRequest, hpath, hq'] at hq
    cases hq
    have hcut := Cut.ofPairs_pairs query number hlist.pairs
    rw [← hpairs] at hcut
    refine ⟨hpairs, fun hhosts => ?_, ?_, ?_, fun names hnames => ?_⟩
    · have hname : ∀ a ∈ c.base.authority, ∀ name, a.host = .name name → a.host.IsReadable := by
        rcases hhosts with hordinary | hname
        · obtain ⟨hs, hf⟩ := scheme_of_isUsable hask.usable
          exact fun a ha _ _ => isReadable_of_ofAddress hc hs hf hordinary a ha
        · exact hname
      obtain ⟨v, hv, hquery⟩ := Url.ofString_text hwritten (isReadable_of_same hwritten hhost hname) hstays hfragment
      exact linkedPage?_of_pairs hv hquery hpairs
    · rw [hcut]
      exact if_pos hn
    · rw [hcut]
      rfl
    · rw [hcut, hnames]
      exact Cut.lastName?_named names

/-- A name that looks like another page is a name: neither reader takes it for the page. -/
theorem queries_understood_shadowing : ∃ c, ofAddress "t" "http://api.test/cf" = .ok c ∧ c.CanAsk ∧
    (∀ a ∈ c.base.authority, ∀ name, a.host = .name name → a.host.IsReadable) ∧ (Collection.serviceInstances "dev").IsKept ∧
    (1 : UInt32) ≤ 2 ∧
    ∃ q, c.pageRequest (.serviceInstances "dev") { filters := [.named "db", .named "x&page=9"], perPage := some 0 } 2 = .ok q ∧
      q.url.queryPairs = [("q", "name:db"), ("q", "name:x&page=9"), ("page", "2"), ("results-per-page", "0"),
        ("return_user_provided_service_instances", "true")] ∧
      linkedPage? q.url.text = some 2 ∧ Cut.ofPairs q.url.queryPairs = ⟨2, 1, some "x&page=9"⟩ := by
  have hc : ofAddress "t" "http://api.test/cf" =
      .ok ⟨{ scheme := "http", authority := some { host := .name "api.test" }, path := .segments ["cf", ""] }, "t"⟩ := rfl
  have hascii : ∀ ch ∈ "http://api.test/cf".toList, ch.toNat < 0x80 ∧ ch ≠ '%' := Url.forall_char (by decide)
  have hordinary (c : Client) := c.hasOrdinaryAddress_of_ascii hascii
  have hname := isReadable_of_ofAddress hc (by decide) (by decide) (hordinary _)
  have hask : CanAsk ⟨{ scheme := "http", authority := some { host := .name "api.test" }, path := .segments ["cf", ""] }, "t"⟩ :=
    ⟨by decide +kernel, by decide +kernel⟩
  obtain ⟨hsends, hread⟩ := queries_understood hc (.serviceInstances "dev")
    { filters := [.named "db", .named "x&page=9"], perPage := some 0 } (show (1 : UInt32) ≤ 2 by decide)
  obtain ⟨q, hq⟩ := hsends.mpr hask
  obtain ⟨hpairs, hlink, hpage, hsize, hlast⟩ := hread q hq
  refine ⟨_, hc, hask, fun a ha _ _ => hname a ha, .serviceInstances "dev", by decide, q, hq, ?_, hlink (Or.inl (hordinary _)), ?_⟩
  · rw [hpairs]
    decide +kernel
  · have hn := hlast ["db", "x&page=9"] rfl
    generalize Cut.ofPairs q.url.queryPairs = cut at hpage hsize hn
    cases cut
    cases hpage
    cases hsize
    cases hn
    rfl

end Client

end ControlPlane
