import ControlPlane.Operation.Target
import ControlPlane.Proofs.Exchange.Sends
import ControlPlane.Proofs.Paging.Results

/-!
# What a lookup sends

A name is looked up in a list that is read to its last page. `Lookup` says which exchanges reading a list can make from a page
on, and what they find: everything on all pages, or nothing where a page cannot be asked for, is not answered well, or names a
page that is not after it. `Lookup.Then` is what follows a lookup that finds exactly one entity. The main statement is
`Target.resolve_sends`: against any server, to resolve a name is to look it up.
-/

namespace ControlPlane

variable {σ α β : Type}

/-- The exchanges of reading a list from a page on, and what they find, where the list can be read to its end. -/
inductive Lookup (c : Client) (list : Collection α) (query : Query) : UInt32 → List Exchange → Option (List α) → Prop
  /-- The page cannot be asked for. -/
  | unsent {n : UInt32} {e : Failure} : c.pageRequest list query n = .error e → Lookup c list query n [] none
  /-- The page is not answered well, or cannot be read. -/
  | failed {n : UInt32} {x : Exchange} :
      c.pageRequest list query n = .ok x.request → x.read (Client.pageOf list n) = none → Lookup c list query n [x] none
  /-- The page names a page that is not after it. -/
  | stale {n m : UInt32} {x : Exchange} {p : Page α} :
      c.pageRequest list query n = .ok x.request → x.read (Client.pageOf list n) = some p → p.next = some m → ¬n < m →
      Lookup c list query n [x] none
  /-- The page is the last one. -/
  | last {n : UInt32} {x : Exchange} {p : Page α} :
      c.pageRequest list query n = .ok x.request → x.read (Client.pageOf list n) = some p → p.next = none →
      Lookup c list query n [x] (some p.items)
  /-- The page names a page after it, which is asked for next. -/
  | next {n m : UInt32} {x : Exchange} {p : Page α} {rest : List Exchange} {found : Option (List α)} :
      c.pageRequest list query n = .ok x.request → x.read (Client.pageOf list n) = some p → p.next = some m → n < m →
      Lookup c list query m rest found → Lookup c list query n (x :: rest) (found.map (p.items ++ ·))

/-- What follows a lookup from the first page on: nothing, unless it finds exactly one entity. -/
def Lookup.Then (c : Client) (list : Collection α) (query : Query) (rest : α → List Exchange → Prop)
    (log : List Exchange) : Prop :=
  ∃ first tail found, log = first ++ tail ∧ Lookup c list query 1 first found ∧
    ((∃ a, found = some [a] ∧ rest a tail) ∨ ((¬∃ a, found = some [a]) ∧ tail = []))

/-- A name looked up in a list, and the one entity found. -/
def Resolves (c : Client) (list : Collection α) (query : Query) (log : List Exchange) (r : Result α) : Prop :=
  ∃ found, Lookup c list query 1 log found ∧ ∀ a, r = .ok a ↔ found = some [a]

/-! ## Reading a list -/

theorem toOption_map (f : α → β) (r : Result α) : (r.map f).toOption = r.toOption.map f := by
  cases r <;> rfl

/-- Where every page costs a request of its own, reading a list from a page on is a lookup from that page on, and finds all
that the list holds. -/
theorem Lookup.of_walk {c : Client} {list : Collection α} {query : Query} {source : PageSource (Session σ) α}
    (hsource : ∀ n s, ∃ log, (source n s).2 = s.after (source n s).2.server log ∧
      Once (c.pageRequest list query n) (Client.pageOf list n) log (source n s).1.result)
    (n : UInt32) (s : Session σ) :
    ∃ log, (source.walk n s).2 = s.after (source.walk n s).2.server log ∧
      Lookup c list query n log (Fallible.whole (source.listing n s)).toOption := by
  induction n, s using PageSource.walk_induction source with
  | failed n s e hr =>
    obtain ⟨log, hs, ho⟩ := hsource n s
    rw [hr] at ho
    rw [PageSource.walk_of_failed hr, PageSource.listing_of_failed hr]
    refine ⟨log, hs, ?_⟩
    rcases ho.of_error with ⟨hq, rfl⟩ | ⟨x, hq, rfl, hx⟩
    · exact .unsent hq
    · exact .failed hq hx
  | stale n s p m hr hn hle =>
    obtain ⟨log, hs, ho⟩ := hsource n s
    rw [hr] at ho
    obtain ⟨x, hq, rfl, hx⟩ := ho.of_ok
    rw [PageSource.walk_of_stale hr hn hle, PageSource.listing_of_stale hr hn hle]
    exact ⟨[x], hs, .stale hq hx hn hle⟩
  | last n s p hr hn =>
    obtain ⟨log, hs, ho⟩ := hsource n s
    rw [hr] at ho
    obtain ⟨x, hq, rfl, hx⟩ := ho.of_ok
    rw [PageSource.walk_of_last hr hn, PageSource.listing_of_last hr hn, Fallible.whole_map_ok]
    exact ⟨[x], hs, .last hq hx hn⟩
  | next n s p m hr hn hlt ih =>
    obtain ⟨log, hs, ho⟩ := hsource n s
    obtain ⟨rest, hs', hl⟩ := ih
    rw [hr] at ho
    obtain ⟨x, hq, rfl, hx⟩ := ho.of_ok
    rw [PageSource.walk_of_next hr hn hlt, PageSource.listing_of_next hr hn hlt, Fallible.whole_append, toOption_map]
    exact ⟨x :: rest, Session.after_trans hs hs', .next hq hx hn hlt hl⟩

/-- Reading a collection from a page on is a lookup. -/
theorem Client.pages_lookup (c : Client) (server : Http.Server σ) (list : Collection α) (query : Query) (n : UInt32)
    (s : Session σ) :
    ∃ log, ((c.pages server list query).walk n s).2 = s.after ((c.pages server list query).walk n s).2.server log ∧
      Lookup c list query n log (Fallible.whole ((c.pages server list query).listing n s)).toOption := by
  refine Lookup.of_walk (fun n s => ?_) n s
  simp only [pages, Fetch.ready]
  exact c.page_sends server list query n s

/-! ## Resolving a name -/

/-- Where a list is read to its end, a name is resolved when the list holds exactly one entity. -/
theorem Resolution.resolve_eq_ok (entity name : String) (items : List (Result α)) (a : α) :
    (resolve entity name items).1 = .ok a ↔ (Fallible.whole items).toOption = some [a] := by
  unfold resolve Fallible.whole
  rcases (Fallible.drain items).1 with e | _ | ⟨b, _ | ⟨c, rest⟩⟩ <;>
    simp [Except.bind, Except.toOption, single]

namespace Target

/-- To resolve a name against a list is to look it up in the list. -/
theorem resolve_sends (t : Target) (server : Http.Server σ) (list : Collection α) (query : Query) (entity name : String) :
    ((t.listing server list query).resolve entity name).Sends (Resolves t.client list query) := by
  intro s
  obtain ⟨log, hs, hl⟩ := t.client.pages_lookup server list query 1 s
  have hx : ((t.listing server list query).resolve entity name).runOn s =
      ((Resolution.resolve entity name ((t.client.pages server list query).listing 1 s)).1,
        ((t.client.pages server list query).walk 1 s).2) := by
    simp only [Listing.resolve, Conversation.runOn_of, listing, PageSource.results_eq_walk]
  rw [hx]
  exact ⟨log, hs, _, hl, Resolution.resolve_eq_ok entity name _⟩

end Target

/-! ## What follows a lookup -/

/-- A conversation, and what follows its result where it has one. -/
def Followed (told : List Exchange → Result α → Prop) (rest : α → List Exchange → Prop) (log : List Exchange) : Prop :=
  (∃ e, told log (.error e)) ∨ ∃ a first tail, log = first ++ tail ∧ told first (.ok a) ∧ rest a tail

namespace Followed

variable {told : List Exchange → Result α → Prop} {told' : α → List Exchange → Result β → Prop} {log : List Exchange}

/-- What follows may be told with fewer words. -/
theorem mono {rest rest' : α → List Exchange → Prop} (h : Followed told rest log)
    (hr : ∀ a tail, rest a tail → rest' a tail) : Followed told rest' log := by
  rcases h with h | ⟨a, first, tail, hl, ht, h⟩
  · exact Or.inl h
  · exact Or.inr ⟨a, first, tail, hl, ht, hr a tail h⟩

/-- What follows two conversations follows the second, which follows the first. -/
theorem unchained {rest : β → List Exchange → Prop} (h : Followed (Conversation.Chained told told') rest log) :
    Followed told (fun a => Followed (told' a) rest) log := by
  rcases h with ⟨e, ⟨e', h, -⟩ | ⟨a, first, tail, hl, h, h'⟩⟩ | ⟨b, log', more, hl, ⟨e, -, hb⟩ | ⟨a, first, tail, hl', h, h'⟩, hm⟩
  · exact Or.inl ⟨e', h⟩
  · exact Or.inr ⟨a, first, tail, hl, h, Or.inl ⟨e, h'⟩⟩
  · cases hb
  · refine Or.inr ⟨a, first, tail ++ more, ?_, h, Or.inr ⟨b, tail, more, rfl, h', hm⟩⟩
    rw [hl, hl', List.append_assoc]

end Followed

namespace Conversation

/-- What the exchanges of a conversation look like together with those that follow its result, whatever these are. -/
def Leads (c : Conversation σ α) (shape : (α → List Exchange → Prop) → List Exchange → Prop) : Prop :=
  ∃ told, c.Sends told ∧ ∀ rest log, Followed told rest log → shape rest log

namespace Leads

/-- A failure that is known sends nothing, and nothing follows it. -/
theorem throw (e : Failure) : (MonadExcept.throw e : Conversation σ α).Leads fun _ log => log = [] := by
  refine ⟨_, Sends.known (.error e), fun rest log h => ?_⟩
  rcases h with ⟨e, h, -⟩ | ⟨a, first, tail, -, ⟨-, h⟩, -⟩
  · exact h
  · cases h

/-- A result that is known sends nothing. -/
theorem pure (a : α) : (Pure.pure a : Conversation σ α).Leads fun rest => rest a := by
  refine ⟨_, Sends.known (.ok a), fun rest log h => ?_⟩
  rcases h with ⟨e, -, h⟩ | ⟨b, first, tail, rfl, ⟨rfl, h⟩, hr⟩
  · cases h
  · cases h
    exact hr

/-- What follows two conversations, one after another. -/
theorem bind {c : Conversation σ α} {f : α → Conversation σ β} {shape : (α → List Exchange → Prop) → List Exchange → Prop}
    {shape' : α → (β → List Exchange → Prop) → List Exchange → Prop} (hc : c.Leads shape) (hf : ∀ a, (f a).Leads (shape' a)) :
    (c >>= f).Leads fun rest => shape fun a => shape' a rest := by
  obtain ⟨told, hs, hc⟩ := hc
  obtain ⟨told', hf⟩ := Classical.axiomOfChoice hf
  exact ⟨_, hs.bind fun a => (hf a).1, fun rest log h => hc _ _ (h.unchained.mono fun a => (hf a).2 rest)⟩

end Leads

end Conversation

namespace Target

/-- What follows a name that is resolved. -/
theorem resolve_leads (t : Target) (server : Http.Server σ) (list : Collection α) (query : Query) (entity name : String) :
    ((t.listing server list query).resolve entity name).Leads (Lookup.Then t.client list query) := by
  refine ⟨_, t.resolve_sends server list query entity name, fun rest log h => ?_⟩
  rcases h with ⟨e, found, hl, hf⟩ | ⟨a, first, tail, rfl, ⟨found, hl, hf⟩, hr⟩
  · refine ⟨log, [], found, (List.append_nil log).symm, hl, Or.inr ⟨?_, rfl⟩⟩
    rintro ⟨a, ha⟩
    cases (hf a).mpr ha
  · exact ⟨first, tail, found, rfl, hl, Or.inl ⟨a, (hf a).mp rfl, hr⟩⟩

/-- What follows the lookup of the organization that is targeted: nothing where none is, or the one looked up cannot be
found. -/
def InOrganization (t : Target) (rest : String → List Exchange → Prop) (log : List Exchange) : Prop :=
  match t.organization with
  | none => log = []
  | some name => Lookup.Then t.client .organizations (.ofName name) (fun found => rest found.id) log

/-- What follows the lookup of a space of the organization. -/
def AtSpace (t : Target) (name : String) (rest : Space → List Exchange → Prop) : List Exchange → Prop :=
  t.InOrganization fun organization => Lookup.Then t.client (.spaces organization) (.ofName name) rest

/-- What follows the lookup of the space that is targeted. -/
def InSpace (t : Target) (rest : String → List Exchange → Prop) (log : List Exchange) : Prop :=
  match t.space with
  | none => log = []
  | some name => t.AtSpace name (fun found => rest found.id) log

theorem organizationId_leads (t : Target) (server : Http.Server σ) : (t.organizationId server).Leads t.InOrganization := by
  unfold organizationId InOrganization
  cases t.organization with
  | none => exact .throw _
  | some name => exact (t.resolve_leads server .organizations (.ofName name) _ name).bind fun found => .pure found.id

theorem findSpace_leads (t : Target) (server : Http.Server σ) (name : String) :
    (t.findSpace server name).Leads (t.AtSpace name) :=
  (t.organizationId_leads server).bind fun organization =>
    t.resolve_leads server (.spaces organization) (.ofName name) _ name

theorem spaceId_leads (t : Target) (server : Http.Server σ) : (t.spaceId server).Leads t.InSpace := by
  unfold spaceId InSpace
  cases t.space with
  | none => exact .throw _
  | some name => exact (t.findSpace_leads server name).bind fun found => .pure found.id

end Target

end ControlPlane
