import ControlPlane.Proofs.Platform.Listing

/-!
# Where a list that was read ends

A list is read to a page that no page follows. A page says so itself (`Envelope.IsLast`), or it has a link to the page after it that
leads to no page (`Envelope.IsStranded`): both end the list, and the reader cannot tell which (`Client.list_ends`). So a list can be
read well and still be cut short (`Client.list_cut_short`).
-/

namespace ControlPlane

open Platform

variable {σ α : Type}

/-! ## The page after a page -/

namespace Envelope

/-- Whether a page, by the number that was asked for, says that no page follows: it is not before the last one where all are counted,
and otherwise has no link to one. -/
def IsLast (e : Envelope α) (number : UInt32) : Prop :=
  (∃ total, e.totalPages = some total ∧ ¬number < total) ∨ (e.totalPages = none ∧ e.nextUrl = none)

/-- Whether a page has nothing but a link for the page that follows, and this leads to no page. -/
def IsStranded (e : Envelope α) : Prop := e.totalPages = none ∧ ∃ href, e.nextUrl = some href ∧ linkedPage? href = none

/-- A page holds the resources of its envelope. -/
theorem items_toPage (e : Envelope α) (number : UInt32) : (e.toPage number).items = e.resources := by
  unfold toPage
  cases e.totalPages <;> rfl

/-- No page follows the last one, or one that is stranded. -/
theorem next_toPage_eq_none_iff (e : Envelope α) (number : UInt32) :
    (e.toPage number).next = none ↔ e.IsLast number ∨ e.IsStranded := by
  unfold toPage IsLast IsStranded
  cases e.totalPages with
  | some total => simp [Page.withTotalResults, Page.counted, Page.successor]
  | none =>
    cases e.nextUrl with
    | none => simp [Page.withTotalResults, Page.linked]
    | some href => simp [Page.withTotalResults, Page.linked]

end Envelope

/-- In the third version no page follows one without a link to it, or with a link that leads to no page. -/
theorem EnvelopeV3.next_toPage_eq_none_iff (e : EnvelopeV3 α) (number : UInt32) :
    (e.toPage number).next = none ↔ e.pagination.next = none ∨ ∃ l, e.pagination.next = some l ∧ linkedPage? l.href = none := by
  unfold toPage
  cases e.pagination.next with
  | none => simp [Page.withTotalResults, Page.linked]
  | some l => simp [Page.withTotalResults, Page.linked]

/-! ## The last exchange -/

/-- Whether exchanges read a list up to items, and the last of them brought a page of some kind, whose resources are the last of the
items. -/
def Client.Ends (c : Client) (list : Collection α) (query : Query) (kind : Envelope α → UInt32 → Prop) (log : List Exchange)
    (items : List α) : Prop :=
  ∃ first x number e, log = first ++ [x] ∧ c.pageRequest list query number = .ok x.request ∧
    x.read (·.decode list.envelope) = some e ∧ e.resources <:+ items ∧ kind e number

/-- What a response of success says is read from it. -/
theorem Exchange.read_response {α : Type} (q : Http.Request) {r : Http.Response} {reader : Http.Response → Result α} {a : α}
    (hs : r.isSuccess = true) (h : reader r = .ok a) : read ⟨q, .response r⟩ reader = some a := by
  have hcheck : r.check = .ok r := if_pos hs
  simp only [read, hcheck, Except.bind, h, Except.toOption]

/-- A page that was read was read as an envelope. -/
theorem Exchange.envelope_of_page {x : Exchange} {list : Collection α} {number : UInt32} {p : Page α}
    (h : x.read (Client.pageOf list number) = some p) :
    ∃ e, x.read (·.decode list.envelope) = some e ∧ p = e.toPage number := by
  obtain ⟨r, hr, hs, hp⟩ := response_of_read h
  cases he : r.decode list.envelope with
  | error f =>
    rw [Client.pageOf, he] at hp
    cases hp
  | ok e =>
    rw [Client.pageOf, he] at hp
    cases hp
    refine ⟨e, ?_, rfl⟩
    rw [show x = ⟨x.request, .response r⟩ from hr ▸ rfl]
    exact read_response x.request hs he

/-- A list that is read to its end ends with a page that no page follows. -/
theorem Lookup.ends {c : Client} {list : Collection α} {query : Query} {number : UInt32} {log : List Exchange}
    {found : Option (List α)} (h : Lookup c list query number log found) :
    ∀ items, found = some items → c.Ends list query (fun e n => (e.toPage n).next = none) log items := by
  induction h with
  | unsent | failed | stale => exact nofun
  | @last n x p hq hx hn =>
    intro items hi
    cases hi
    obtain ⟨e, he, rfl⟩ := Exchange.envelope_of_page hx
    exact ⟨[], x, n, e, rfl, hq, he, e.items_toPage n ▸ List.suffix_refl _, hn⟩
  | @next n m x p rest found hq hx hn hlt hl ih =>
    intro items hi
    obtain ⟨more, hm, rfl⟩ := Option.map_eq_some_iff.mp hi
    obtain ⟨first, y, k, e, rfl, hy, he, hsuffix, hnone⟩ := ih more hm
    exact ⟨x :: first, y, k, e, rfl, hy, he, hsuffix.trans (List.suffix_append _ _), hnone⟩

/-- Reading all of a collection is a lookup in it. -/
theorem Client.list_lookup (c : Client) (server : Http.Server σ) (list : Collection α) (query : Query) (s : Session σ) :
    ∃ log, ((c.list server list query).runOn s).2 = s.after ((c.list server list query).runOn s).2.server log ∧
      Lookup c list query 1 log ((c.list server list query).runOn s).1.toOption := by
  simp only [Client.list, Conversation.runOn_of, PageSource.collect, PageSource.results_eq_walk]
  exact c.pages_lookup server list query 1 s

/-- Whatever is asked of any server: where all of a collection is read, the last exchange brought a page that is the last one by what
it says, or one whose link to the page after it leads to no page. In the third version as in the second, such a link is as good
as none. -/
theorem Client.list_ends (c : Client) (server : Http.Server σ) (list : Collection α) (query : Query) (s : Session σ) :
    (∃ log, ((c.list server list query).runOn s).2 = s.after ((c.list server list query).runOn s).2.server log ∧
        ∀ items, ((c.list server list query).runOn s).1 = .ok items →
          c.Ends list query (fun e number => e.IsLast number ∨ e.IsStranded) log items) ∧
      ∀ (e : EnvelopeV3 α) (number : UInt32), (e.toPage number).next = none ↔
        e.pagination.next = none ∨ ∃ l, e.pagination.next = some l ∧ linkedPage? l.href = none := by
  refine ⟨?_, fun e number => e.next_toPage_eq_none_iff number⟩
  obtain ⟨log, hs, hl⟩ := c.list_lookup server list query s
  refine ⟨log, hs, fun items hi => ?_⟩
  obtain ⟨first, x, number, e, hlog, hq, he, hitems, hnone⟩ := hl.ends items (by rw [hi]; rfl)
  exact ⟨first, x, number, e, hlog, hq, he, hitems, (e.next_toPage_eq_none_iff number).mp hnone⟩

/-- A server that lists one organization with a link to go on from it, which has no number. The list is read as if it ended there,
though the page that came last is not the last one. In the third version no page follows such a link either. -/
theorem Client.list_cut_short :
    let c : Client := ⟨linkBase, "token"⟩
    let href := "/v2/organizations?after=org-1"
    let e : Envelope Organization := { nextUrl := some href, resources := [{ id := "org-1", name := "test-org" }] }
    let read := (c.list Http.Server.scripted .organizations .all).runOn ⟨[.response (holding Organization.form e)], []⟩
    let v3 : EnvelopeV3 Organization := { pagination := { next := some ⟨href⟩ } }
    (read.1 = .ok e.resources ∧
        ¬c.Ends .organizations .all (fun e number => e.IsLast number) read.2.exchanges e.resources) ∧
      (v3.toPage 1).next = none := by
  intro c href e read v3
  have hlink : linkedPage? href = none := by decide +kernel
  have hc : c.Reaches {} := ⟨rfl, by decide +kernel, by decide +kernel, by decide +kernel, rfl⟩
  have hserves : Serves {} .organizations Organization.form (Store.listOrganizations {}) := serves_organizations ⟨nofun, nofun⟩
  obtain ⟨q, hq⟩ := hserves.pageRequest hc .all 1
  obtain ⟨hdecode, hpage⟩ : (holding Organization.form e).decode Collection.organizations.envelope = .ok e ∧
      pageOf .organizations 1 (holding Organization.form e) = .ok (e.toPage 1) :=
    pageOf_holding rfl 1 e fun o ho => by
      rw [List.mem_singleton.mp ho]
      exact Resource.decoder_reads _ ((Organization.Entity.decoder_reads _).mono (by decide)) (by decide) nofun nofun
  have hnone : (e.toPage 1).next = none := (e.next_toPage_eq_none_iff 1).mpr (Or.inr ⟨rfl, href, rfl, hlink⟩)
  have hread : read = (.ok e.resources, ⟨[], [.exchanged q (.response (holding Organization.form e))]⟩) := by
    have h := results_of_last (s := ⟨[.response (holding Organization.form e)], []⟩) hq
      (show Http.Server.scripted q _ = (.response (holding Organization.form e), []) from rfl) rfl hpage hnone
    simp only [read, list, Conversation.runOn_of, PageSource.collect, h, Fallible.whole_map_ok, Envelope.items_toPage]
    rfl
  refine ⟨⟨by rw [hread], ?_⟩, (v3.next_toPage_eq_none_iff 1).mpr (Or.inr ⟨_, rfl, hlink⟩)⟩
  rintro ⟨first, x, number, e', hlog, -, hx, -, hlast⟩
  have hexchanges : read.2.exchanges = [] ++ [⟨q, .response (holding Organization.form e)⟩] := by
    rw [hread]
    rfl
  obtain ⟨-, hsingle⟩ := List.append_inj' (hexchanges.symm.trans hlog) rfl
  obtain rfl := List.singleton_inj.mp hsingle
  obtain rfl : e = e' := Option.some.inj ((Exchange.read_response q rfl hdecode).symm.trans hx)
  rcases hlast with ⟨total, htotal, -⟩ | ⟨-, hurl⟩
  · cases htotal
  · cases hurl

end ControlPlane
