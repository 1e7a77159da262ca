import ControlPlane.Operation.Scoped
import ControlPlane.Proofs.Exchange.Names
import ControlPlane.Proofs.Paging.Ending
import ControlPlane.Proofs.Paging.Layers

/-!
# Lists within the organization, item by item

A list within the organization is taken from three layers: the organization is looked up, its list is begun, and it is read
(`Scoped.opening`, `Scoped.inside`). The layers together are like one list (`Scoped.follows`). The main statement is
`Scoped.looks_up_then_lists`: the first item costs the lookup, whose failure is told once; what comes behind the lookup is the plain list
of the organization that was found, of which a page is asked for when all items before it have been taken; and nothing is told or sent
behind the end or a failure.
-/

namespace ControlPlane

open Pager (Poll)
open Platform

variable {σ α : Type}

/-! ## The requests of a plain list -/

/-- What is sent for a request that is sent once. -/
theorem Once.requests {request : Result Http.Request} {reader : Http.Response → Result α} {log : List Exchange} {r : Result α}
    (h : Once request reader log r) : log.map (·.request) = request.toOption.toList := by
  cases request with
  | error e =>
    rw [h.1]
    rfl
  | ok q =>
    obtain ⟨reply, rfl, -⟩ := h
    rfl

namespace Client

variable (c : Client) (server : Http.Server σ) (list : Collection α) (query : Query)

/-- The requests for pages of a collection, of those that can be asked for. -/
def pageRequests (pages : List UInt32) : List Http.Request :=
  pages.flatMap fun n => (c.pageRequest list query n).toOption.toList

/-- No fetch of a page answers "not yet". -/
theorem pages_ready (n : UInt32) (s : Session σ) : (c.pages server list query n s).1.pendings = 0 := rfl

/-- A page that is fetched is asked for. -/
theorem requests_page (n : UInt32) (s : Session σ) :
    (c.pages server list query n s).2.requests = s.requests ++ (c.pageRequest list query n).toOption.toList := by
  obtain ⟨log, hs, honce⟩ := c.page_sends server list query n s
  rw [show (c.pages server list query n s).2 = _ from hs, Session.requests_after, honce.requests]

/-- However often a collection is polled, its pages are asked for that the polls demand, and nothing else. -/
theorem requests_polls (k : Nat) (s : Session σ) :
    (Pager.polls (c.pages server list query) k .start s).2.2.requests =
      s.requests ++ c.pageRequests list query ((c.pages server list query).asked s k) := by
  have hkept := Pager.polls_keeps (c.pages server list query).noting
    (P := fun u => u.1.requests = s.requests ++ c.pageRequests list query u.2)
    (fun n u hu => by
      simp only [PageSource.noting, requests_page, hu, pageRequests, List.flatMap_append, List.flatMap_singleton,
        List.append_assoc])
    k .start (s := (s, [])) (by simp [pageRequests])
  obtain ⟨asked, hnoting, -⟩ := Pager.polls_course (c.pages server list query) k .start s []
  rw [hnoting] at hkept
  rw [PageSource.asked, hnoting]
  exact hkept

/-- A page is asked for by so many polls just if the list gets to it and the pages before it hold less than so many items. -/
theorem lt_length_asked_iff (k : Nat) (s : Session σ) (i : Nat) :
    let visits := ((c.pages server list query).walk 1 s).1
    i < ((c.pages server list query).asked s k).length ↔
      i < visits.length ∧ (Visit.results (visits.take i)).length < k := by
  intro visits
  obtain ⟨hlength, hlast⟩ := Pager.answers_of_isReady (c.pages_ready server list query) k (show Pager.start.IsReady from trivial) s
  rw [PageSource.asked_eq_demanded _ s k hlast, Visit.lt_length_demanded_iff]
  exact and_congr_right fun _ => by rw [show (Pager.answers (PageSource.told _ s k)).length = k from hlength]

end Client

/-- A page that a server replies as it is written down is read. -/
theorem pages_scripted {ε : Type} {c : Client} {list : Collection α} {form : Resource.Form α ε}
    (henvelope : list.envelope = Collection.envelopeOf form) (e : Envelope α)
    (hreads : ∀ a ∈ e.resources,
      (Resource.decoder form.fields).Reads 3 ((form.toResource a).toJson form.fieldsJson) (form.toResource a))
    {query : Query} {n : UInt32} {q : Http.Request} (hq : c.pageRequest list query n = .ok q) {s : Session (List Http.Reply)}
    {rest : List Http.Reply} (hs : s.server = .response (holding form e) :: rest) :
    c.pages Http.Server.scripted list query n s =
      (.ready (.ok (e.toPage n)), s.after rest [⟨q, .response (holding form e)⟩]) := by
  obtain ⟨-, hpage⟩ := pageOf_holding henvelope n e hreads
  rw [Client.pages, Client.runOn_page hq (show Http.Server.scripted q s.server = (_, rest) by rw [hs]; rfl) rfl, hpage]

/-! ## The lookup -/

/-- What a lookup of the organization comes to, and the session behind it. Where none is targeted nothing is sent. Otherwise the
organizations of its name are read, to their last page if they can be, and what is found is the only one. -/
def Target.LookedUp (t : Target) (s : Session σ) (lookup : Result String × Session σ) : Prop :=
  match t.organization with
  | none => lookup = (.error (untargeted "organization"), s)
  | some name => ∃ log found, lookup.2 = s.after lookup.2.server log ∧
      Lookup t.client .organizations (.ofName name) 1 log found ∧ ∀ id, lookup.1 = .ok id ↔ ∃ o, found = some [o] ∧ o.id = id

theorem Target.organizationId_lookedUp (t : Target) (server : Http.Server σ) (s : Session σ) :
    t.LookedUp s ((t.organizationId server).runOn s) := by
  unfold organizationId LookedUp
  cases t.organization with
  | none => rfl
  | some name =>
    obtain ⟨log, hs, htold⟩ := ((t.resolve_sends server .organizations (.ofName name) Organization.kindName name).bind
      fun found => Conversation.Sends.known (.ok found.id)) s
    rcases htold with ⟨e, ⟨found, hl, hf⟩, hr⟩ | ⟨o, first, rest, rfl, ⟨found, hl, hf⟩, rfl, hr⟩
    · refine ⟨log, found, hs, hl, fun id => ⟨fun h => ?_, ?_⟩⟩
      · cases hr.symm.trans h
      · rintro ⟨o, ho, -⟩
        cases (hf o).mpr ho
    · rw [List.append_nil] at hs
      refine ⟨first, found, hs, hl, fun id => ⟨fun h => ?_, ?_⟩⟩
      · cases hr.symm.trans h
        exact ⟨o, (hf o).mp rfl, rfl⟩
      · rintro ⟨o', ho, rfl⟩
        cases (hf o').mpr ho
        exact hr

namespace Scoped

variable (t : Target) (server : Http.Server σ) (list : String → Collection α)

/-! ## The layers -/

/-- A list within the organization as something that is polled. -/
def polled : Polled (Scoped α) (Session σ) α := fun x s => x.poll t server list s

/-- The outer layers: the organization is looked up, once, and its list is begun. -/
def opening : Polled Bool (Session σ) (String × Pager α) :=
  (Polled.once (t.organizationId server).runOn).mapItems fun organization => (organization, .start)

/-- The inner layer: the list of an organization is read. -/
def inside : Polled (String × Pager α) (Session σ) α := fun x s =>
  let next := Polled.pager (t.client.pages server (list x.1) .all) x.2 s
  (next.1, (x.1, next.2.1), next.2.2)

/-- The states of a list within the organization, and of its layers. -/
inductive Related : Nested Bool (String × Pager α) → Scoped α → Prop
  | unopened : Related ⟨true, none⟩ .unopened
  | listing (organization : String) (p : Pager α) : Related ⟨false, some (organization, p)⟩ (.listing organization p)
  /-- At the end of the list its layers have left it. -/
  | ended (organization : String) (page : UInt32) : Related ⟨false, none⟩ (.listing organization (.ended page))
  | closed : Related ⟨false, none⟩ .closed

variable {t server list}

/-! ## One poll -/

section

variable {s u : Session σ} {organization : String} {p : Pager α}

/-- A lookup that fails ends the list. -/
theorem polled_of_error {e : Failure} (h : (t.organizationId server).runOn s = (.error e, u)) :
    polled t server list .unopened s = (.failed e, .closed, u) := by
  simp only [polled, poll, h]

/-- After a lookup that finds the organization, its list is polled from the beginning. -/
theorem polled_of_ok (h : (t.organizationId server).runOn s = (.ok organization, u)) :
    polled t server list .unopened s = polled t server list (.listing organization .start) u := by
  simp only [polled, poll, h]

/-- A list whose organization is known is polled like any other. -/
theorem polled_listing {told : Poll α} {q : Pager α}
    (h : Polled.pager (t.client.pages server (list organization) .all) p s = (told, q, u)) :
    polled t server list (.listing organization p) s = (told, .listing organization q, u) := by
  simp only [Polled.pager] at h
  simp only [polled, poll, take, h]

end

/-- A list whose organization is known goes along with its layers. -/
theorem follows_listing (organization : String) (p : Pager α) (s : Session σ) :
    let next := polled t server list (.listing organization p) s
    ∃ y, Nested.Tells (opening t server) (inside t server list) ⟨false, some (organization, p)⟩ s next.1 y next.2.2 ∧
      Related y next.2.1 := by
  rcases hp : Polled.pager (t.client.pages server (list organization) .all) p s with ⟨told, q, u⟩
  have hinside : inside t server list (organization, p) s = (told, (organization, q), u) := by simp only [inside, hp]
  rw [polled_listing hp]
  by_cases htold : told = .finished
  · subst htold
    -- The layers leave the list at its end, and find that there is no other.
    obtain ⟨page, hq⟩ := Pager.poll_last (t.client.pages server (list organization) .all) p s (a := none)
      (by rw [show p.poll _ s = _ from hp]; rfl) (.inl rfl)
    rw [show p.poll _ s = _ from hp] at hq
    obtain rfl : q = .ended page := hq
    exact ⟨_, .of_inner_finished hinside (.of_outer_finished rfl), .ended organization page⟩
  · exact ⟨_, .of_inner hinside htold, .listing organization q⟩

/-- A list within the organization goes along with its layers. -/
theorem follows : Nested.Follows (opening t server) (inside t server list) (polled t server list) Related := by
  intro x z s h
  cases h with
  | unopened =>
    rcases hrun : (t.organizationId server).runOn s with ⟨e | organization, u⟩
    · have hopening : opening (α := α) t server true s = (.failed e, false, u) := by
        simp only [opening, Polled.mapItems, Polled.once, hrun, Poll.map]
      rw [polled_of_error hrun]
      exact ⟨_, .of_outer_failed hopening, .closed⟩
    · have hopening : opening (α := α) t server true s = (.item (organization, .start), false, u) := by
        simp only [opening, Polled.mapItems, Polled.once, hrun, Poll.map]
      rw [polled_of_ok hrun]
      exact (follows_listing organization .start u).imp fun y h => ⟨.of_outer_item hopening h.1, h.2⟩
  | listing organization p => exact follows_listing organization p s
  | ended organization page =>
    rw [polled_listing (Pager.isOver_ended _ page s)]
    exact ⟨_, .of_outer_finished rfl, .ended organization page⟩
  | closed => exact ⟨_, .of_outer_finished rfl, .closed⟩

/-- Whether no fetch is under way that is not ready. -/
def IsReady : Scoped α → Prop
  | .listing _ p => p.IsReady
  | _ => True

/-- A list within the organization is polled in an orderly way. -/
theorem isOrderly_polled : (polled t server list).IsOrderly IsReady := by
  have hlisting (organization : String) (p : Pager α) (s : Session σ) (hp : p.IsReady) :
      let next := polled t server list (.listing organization p) s
      (∃ a y u, next = (.item a, y, u) ∧ IsReady y) ∨ (next.1.IsLast ∧ (polled t server list).IsOver next.2.1) := by
    rcases hnext : Polled.pager (t.client.pages server (list organization) .all) p s with ⟨told, q, u⟩
    have horderly := Polled.isOrderly_pager (t.client.pages_ready server (list organization) .all) p s hp
    rw [hnext] at horderly
    rw [polled_listing hnext]
    rcases horderly with ⟨a, q', u', he, hq⟩ | ⟨hlast, hover⟩
    · cases he
      exact .inl ⟨a, _, _, rfl, hq⟩
    · exact .inr ⟨hlast, fun v => polled_listing (hover v)⟩
  intro x s hx
  cases x with
  | unopened =>
    rcases hrun : (t.organizationId server).runOn s with ⟨e | organization, u⟩
    · rw [polled_of_error hrun]
      exact .inr ⟨.inr ⟨e, rfl⟩, fun _ => rfl⟩
    · rw [polled_of_ok hrun]
      exact hlisting organization .start u trivial
  | listing organization p => exact hlisting organization p s hx
  | closed => exact .inr ⟨.inl rfl, fun _ => rfl⟩

/-! ## Polls, one after another -/

/-- A list whose organization is known is polled like any other, however often. -/
theorem times_listing (organization : String) (k : Nat) (p : Pager α) (s : Session σ) :
    let plain := Pager.polls (t.client.pages server (list organization) .all) k p s
    (polled t server list).times k (.listing organization p) s = (plain.1, .listing organization plain.2.1, plain.2.2) := by
  induction k generalizing p s with
  | zero => rfl
  | succ k ih =>
    rw [Polled.times, polled_listing (p := p) rfl, ih]
    rfl

/-- After a lookup that fails nothing more is told or done. -/
theorem times_of_error {s u : Session σ} {e : Failure} (h : (t.organizationId server).runOn s = (.error e, u)) (k : Nat) :
    (polled t server list).times (k + 1) .unopened s = (.failed e :: List.replicate k .finished, .closed, u) := by
  have hover : (polled t server list).IsOver .closed := fun _ => rfl
  rw [Polled.times, polled_of_error h, hover.times]

/-- After a lookup that finds the organization, its list is polled from the beginning. -/
theorem times_of_ok {s u : Session σ} {organization : String} (h : (t.organizationId server).runOn s = (.ok organization, u))
    (k : Nat) :
    let plain := Pager.polls (t.client.pages server (list organization) .all) (k + 1) .start u
    (polled t server list).times (k + 1) .unopened s = (plain.1, .listing organization plain.2.1, plain.2.2) := by
  have hfirst : (polled t server list).times (k + 1) .unopened s =
      (polled t server list).times (k + 1) (.listing organization .start) u := by
    rw [Polled.times, polled_of_ok h, Polled.times]
  rw [hfirst]
  exact times_listing organization (k + 1) .start u

/-- Polled often enough, a list within the organization has told all that it tells when it is taken as a whole. -/
theorem exists_times_within (s : Session σ) :
    ∃ k, Pager.answers ((polled t server list).times k .unopened s).1 = (t.within server list s).1.map some ++ [none] ∧
      ((polled t server list).times k .unopened s).2.2 = (t.within server list s).2 := by
  rcases hrun : (t.organizationId server).runOn s with ⟨e | organization, u⟩
  · refine ⟨2, ?_⟩
    rw [times_of_error hrun]
    simp only [Target.within, hrun, and_true]
    rfl
  · let source := t.client.pages server (list organization) .all
    obtain ⟨k, hk⟩ := Pager.exists_polls_answers source ((source.listing 1 u).length + 1) .start u
    have hanswers := source.answers_ended u hk
    have hstate := source.polls_to_end u (k := k) (by rw [hanswers]; simp)
    cases k with
    | zero => simp [Pager.polls, Pager.answers] at hk
    | succ k =>
      refine ⟨k + 1, ?_⟩
      rw [times_of_ok hrun]
      simp only [Target.within, hrun]
      exact ⟨hanswers, hstate⟩

/-- However many items are taken from a list within the organization, against any server. Before the first one nothing is done. The first
one costs the lookup of the organization: nothing is sent for it where none is targeted, and otherwise the organizations of its name are
read to their last page. A lookup that fails is told, and then the end. After one that finds the organization, the list tells and does
what the plain list of that organization tells and does from its beginning, all of it; a page is asked for with the first item behind
those of all pages before it, and no sooner. At most one failure is told, and behind it, as behind the end, nothing is told but the end,
and nothing is done. When enough has been taken, it is what the list tells that is taken as a whole. All this the three layers tell and
do, and nothing else. -/
theorem looks_up_then_lists (t : Target) (server : Http.Server σ) (list : String → Collection α) (s : Session σ) :
    let taken k := (polled t server list).times k .unopened s
    let lookup := (t.organizationId server).runOn s
    taken 0 = ([], .unopened, s) ∧
      t.LookedUp s lookup ∧
      (∀ e, lookup.1 = .error e → ∀ k,
        (taken (k + 1)).1 = .failed e :: List.replicate k .finished ∧ (taken (k + 1)).2.2 = lookup.2) ∧
      (∀ organization, lookup.1 = .ok organization → ∀ k,
        let source := t.client.pages server (list organization) .all
        let visits := (source.walk 1 lookup.2).1
        let asked := source.asked lookup.2 (k + 1)
        (taken (k + 1)).1 = source.told lookup.2 (k + 1) ∧
          (taken (k + 1)).2.2 = (Pager.polls source (k + 1) .start lookup.2).2.2 ∧
          (taken (k + 1)).2.2.requests = lookup.2.requests ++ t.client.pageRequests (list organization) .all asked ∧
          asked <+: Visit.pages visits ∧
          ∀ i, i < asked.length ↔ i < visits.length ∧ (Visit.results (visits.take i)).length ≤ k) ∧
      (∀ k, Poll.Tapers (taken k).1) ∧
      (∀ k, (∃ told ∈ (taken k).1, told.IsLast) → ∀ j,
        (taken (k + j)).1 = (taken k).1 ++ List.replicate j .finished ∧ (taken (k + j)).2.2 = (taken k).2.2) ∧
      (∃ k, Pager.answers (taken k).1 = (t.within server list s).1.map some ++ [none] ∧
        (taken k).2.2 = (t.within server list s).2) ∧
      ∀ told u, (∃ x, Nested.Runs (opening t server) (inside t server list) ⟨true, none⟩ s told x u) ↔
        told = (taken told.length).1 ∧ u = (taken told.length).2.2 := by
  intro taken lookup
  have hready : IsReady (.unopened : Scoped α) := trivial
  refine ⟨rfl, t.organizationId_lookedUp server s, fun e he k => ?_, fun organization ho k => ?_,
    fun k => isOrderly_polled.tapers hready k s, fun k ⟨told, hmem, hlast⟩ j => ?_, exists_times_within s,
    fun told u => follows.runs_iff .unopened s told u⟩
  · have hrun : (t.organizationId server).runOn s = (.error e, lookup.2) := Prod.ext he rfl
    simp only [taken, times_of_error hrun, and_self]
  · intro source visits asked
    have hrun : (t.organizationId server).runOn s = (.ok organization, lookup.2) := Prod.ext ho rfl
    have hstate : (taken (k + 1)).2.2 = (Pager.polls source (k + 1) .start lookup.2).2.2 := by
      simp only [taken, times_of_ok hrun, source]
    refine ⟨?_, hstate, ?_, source.asked_prefix_pages _ _, fun i => ?_⟩
    · simp only [taken, times_of_ok hrun]
      rfl
    · rw [hstate]
      exact t.client.requests_polls server (list organization) .all (k + 1) lookup.2
    · exact (t.client.lt_length_asked_iff server (list organization) .all (k + 1) lookup.2 i).trans
        (and_congr_right fun _ => Nat.lt_succ_iff)
  · simp only [taken, isOrderly_polled.times_after hready hmem hlast j, and_self]

/-! ## Two pages of spaces -/

/-- Where no organization is targeted, that it is not is all that a list of spaces tells, and nothing is sent. Where one is targeted that
has two spaces on a page each, they are told one after the other, and the second page is asked for with the second space. -/
theorem lists_two_pages :
    let nowhere : Target := { client := ⟨linkBase, "token"⟩ }
    let t : Target := { nowhere with organization := some "acme" }
    let organization : Organization := { id := "org-1", name := "acme" }
    let dev : Space := { id := "space-1", name := "dev" }
    let prod : Space := { id := "space-2", name := "prod" }
    let paged (space : Space) := Http.Reply.response (holding Space.form { totalPages := some 2, resources := [space] })
    let s : Session (List Http.Reply) := ⟨[.response (sole Organization.form organization), paged dev, paged prod], []⟩
    let taken (t : Target) k := (polled t Http.Server.scripted .spaces).times k .unopened s
    ((taken nowhere 3).1 = [.failed (Target.untargeted "organization"), .finished, .finished] ∧ (taken nowhere 3).2.2 = s) ∧
      (taken t 1).2.2.requests.length = 2 ∧ (taken t 2).2.2.requests.length = 3 ∧
      ∃ k, Pager.answers (taken t k).1 = [some (.ok dev), some (.ok prod), none] ∧
        ∀ j, (taken t (k + j)).2.2 = (taken t k).2.2 := by
  intro nowhere t organization dev prod paged s taken
  let source := t.client.pages Http.Server.scripted (.spaces "org-1") .all
  have hc : t.client.Reaches {} := ⟨rfl, by decide +kernel, by decide +kernel, by decide +kernel, rfl⟩
  have hempty : Store.IsReadable {} := ⟨nofun, nofun⟩
  obtain ⟨q, hq⟩ := (serves_organizations hempty).pageRequest hc (.ofName "acme") 1
  have hspaces := serves_spaces hempty (show IsScope "org-1" by decide)
  obtain ⟨q₁, hq₁⟩ := hspaces.pageRequest hc .all 1
  obtain ⟨q₂, hq₂⟩ := hspaces.pageRequest hc .all 2
  have hlookup : (t.organizationId Http.Server.scripted).Comes s.server (.ok "org-1") [paged dev, paged prod] _ :=
    (Target.resolve_sole (t := t) (l := .organizations) rfl (a := organization)
      (Resource.decoder_reads _ ((Organization.Entity.decoder_reads _).mono (by decide)) (by decide) nofun nofun) hq
      Organization.kindName "acme" _).map Organization.id
  obtain ⟨u, hrun, hu, hsent⟩ : ∃ u, (t.organizationId Http.Server.scripted).runOn s = (.ok "org-1", u) ∧
      u.server = [paged dev, paged prod] ∧ u.requests = [q] := ⟨_, hlookup [], rfl, rfl⟩
  have hpage {space : Space} (hspace : space = dev ∨ space = prod) {n : UInt32} {q : Http.Request}
      (hq : t.client.pageRequest (.spaces "org-1") .all n = .ok q) {v : Session (List Http.Reply)} {rest : List Http.Reply}
      (hv : v.server = paged space :: rest) :
      source n v = (.ready (.ok (.counted [space] n (some 2))), v.after rest [⟨q, paged space⟩]) := by
    refine pages_scripted rfl _ (fun a ha => ?_) hq hv
    obtain rfl := List.mem_singleton.mp ha
    rcases hspace with rfl | rfl
    all_goals exact Resource.decoder_reads _ ((Space.Entity.decoder_reads _).mono (by decide)) (by decide) nofun nofun
  have hdev := hpage (.inl rfl) hq₁ hu
  have hprod := hpage (.inr rfl) hq₂ (show (u.after [paged prod] [⟨q₁, paged dev⟩]).server = [paged prod] from rfl)
  have hwalk : (source.walk 1 u).1 = [⟨1, [.ok dev]⟩, ⟨2, [.ok prod]⟩] := by
    rw [PageSource.walk_of_next (n := 2) (congrArg (·.1.result) hdev) rfl (by decide), hdev,
      PageSource.walk_of_last (congrArg (·.1.result) hprod) rfl]
    rfl
  obtain ⟨-, -, hnowhere, -⟩ := looks_up_then_lists nowhere Http.Server.scripted .spaces s
  obtain ⟨-, -, -, hlists, -, hafter, ⟨k, hanswers, -⟩, -⟩ := looks_up_then_lists t Http.Server.scripted .spaces s
  have hsends (k : Nat) (hk : k = 0 ∨ k = 1) : (taken t (k + 1)).2.2.requests.length = k + 2 := by
    obtain ⟨-, -, hrequests, hprefix, hasked⟩ := hlists "org-1" (congrArg Prod.fst hrun) k
    simp only [hrun] at hrequests hprefix hasked
    rw [show (PageSource.walk _ 1 u).1 = _ from hwalk] at hprefix hasked
    have hlength : (source.asked u (k + 1)).length = k + 1 := by
      have hbefore : k < (source.asked u (k + 1)).length := (hasked k).mpr (by rcases hk with rfl | rfl <;> decide)
      have hafter : ¬k + 1 < (source.asked u (k + 1)).length := mt (hasked (k + 1)).mp (by rcases hk with rfl | rfl <;> decide)
      omega
    rw [show (taken t (k + 1)).2.2.requests = _ from hrequests, hsent, List.prefix_iff_eq_take.mp hprefix, hlength]
    rcases hk with rfl | rfl <;> simp [Visit.pages, Client.pageRequests, hq₁, hq₂, Except.toOption]
  have hwithin : (t.within Http.Server.scripted .spaces s).1 = [.ok dev, .ok prod] := by
    simp only [Target.within, hrun, Target.listing, PageSource.results_eq_walk, PageSource.listing]
    rw [hwalk]
    rfl
  rw [hwithin] at hanswers
  refine ⟨hnowhere _ rfl 2, hsends 0 (.inl rfl), hsends 1 (.inr rfl), k, hanswers, fun j => (hafter k ?_ j).2⟩
  obtain ⟨told, hmem, hend⟩ := List.mem_filterMap.mp (show none ∈ Pager.answers (taken t k).1 by rw [hanswers]; simp)
  refine ⟨told, hmem, ?_⟩
  cases told <;> simp_all [Poll.answer?, Poll.IsLast]

end Scoped

end ControlPlane
