import ControlPlane.Proofs.Exchange.Course
import ControlPlane.Proofs.Platform.Routes

/-!
# Which entity a name stands for

An entity that is found by its name is the only one that the server lists when it is asked for the name (`ListedFor`): whether it
carries the name is up to the server, except for space quotas, where the client looks at the names itself. The main statement is
`Target.finds_listed`: what is looked up or deleted by its name is listed for that name by the last exchanges before. A server that
does not look at names can so have the wrong space deleted (`Target.finds_unnamed`).
-/

namespace ControlPlane

open Platform

variable {σ α β : Type}

/-! ## What is found in a list -/

/-- Whether exchanges ask for a name in a list and find an entity. -/
structure ListedFor (c : Client) (list : Collection α) (nameOf : α → String) (name : String) (log : List Exchange) (a : α) :
    Prop where
  /-- The entity is the only one, on all pages to the last, that is listed in reply to the requests for the name. -/
  only : Lookup c list (.ofName name) 1 log (some [a])
  /-- It carries the name if all do that are listed in reply to these requests. -/
  named : (∀ x ∈ log, ∀ n p, x.read (Client.pageOf list n) = some p → ∀ b ∈ p.items, nameOf b = name) → nameOf a = name

/-- What is found by a lookup is on the pages that it reads. -/
theorem Lookup.forall_of_pages {c : Client} {list : Collection α} {query : Query} {n : UInt32} {log : List Exchange}
    {found : Option (List α)} (h : Lookup c list query n log found) {P : α → Prop}
    (hP : ∀ x ∈ log, ∀ n p, x.read (Client.pageOf list n) = some p → ∀ b ∈ p.items, P b) :
    ∀ items, found = some items → ∀ a ∈ items, P a := by
  induction h with
  | unsent | failed | stale => exact nofun
  | @last n x p hq hx hn =>
    intro items hi
    cases hi
    exact hP x List.mem_cons_self n p hx
  | @next n m x p rest found hq hx hn hlt hl ih =>
    intro items hi a ha
    obtain ⟨more, hm, rfl⟩ := Option.map_eq_some_iff.mp hi
    rcases List.mem_append.mp ha with ha | ha
    · exact hP x List.mem_cons_self n p hx a ha
    · exact ih (fun y hy => hP y (List.mem_cons_of_mem x hy)) more hm a ha

/-- The one entity that a lookup finds is listed for the name. -/
theorem Lookup.listedFor {c : Client} {list : Collection α} {name : String} {log : List Exchange} {a : α}
    (h : Lookup c list (.ofName name) 1 log (some [a])) (nameOf : α → String) : ListedFor c list nameOf name log a where
  only := h
  named hall := h.forall_of_pages hall [a] rfl a (List.mem_singleton.mpr rfl)

/-- An item of a whole list is an item of the list. -/
theorem Fallible.mem_of_whole {items : List (Result α)} :
    ∀ {all : List α}, whole items = .ok all → ∀ a ∈ all, Except.ok a ∈ items := by
  induction items with
  | nil =>
    intro all h a ha
    cases h
    cases ha
  | cons r rest ih =>
    intro all h a ha
    cases r with
    | error e => cases h
    | ok b =>
      have hr : (whole rest).map (b :: ·) = .ok all := h
      cases hw : whole rest with
      | error e =>
        rw [hw] at hr
        cases hr
      | ok more =>
        rw [hw] at hr
        cases hr
        rcases List.mem_cons.mp ha with rfl | ha
        · exact List.mem_cons_self
        · exact List.mem_cons_of_mem _ (ih hw a ha)

namespace Target

/-! ## Lookups -/

/-- An operation that only looks something up does so after its first two phases. -/
theorem runOn_lookUp (find : Conversation σ α) (s : Session σ) :
    (lookUp find).runOn s =
      (find.watched >>= fun a => Conversation.enter .completed >>= fun _ => pure a).runOn
        ((s.record (.entered .started)).record (.entered .resolving)) := by
  have hstart : Conversation.start.runOn s = (.ok (), s.record (.entered .started)) := rfl
  have henter : (Conversation.enter .resolving).runOn (s.record (.entered .started)) = (.ok (), _) := Conversation.runOn_enter rfl
  rw [lookUp, Conversation.runOn_bind, hstart]
  dsimp only
  rw [Conversation.runOn_bind, henter]

/-- Where an operation that only looks something up has a result, its lookup has it, with the same exchanges. -/
theorem find_of_lookUp {find : Conversation σ α} {s : Session σ} {a : α} (h : ((lookUp find).runOn s).1 = .ok a) :
    ∃ t, t.exchanges = s.exchanges ∧ (find.runOn t).1 = .ok a ∧
      ((lookUp find).runOn s).2.exchanges = (find.runOn t).2.exchanges := by
  refine ⟨(s.record (.entered .started)).record (.entered .resolving), by simp only [Session.exchanges_entered], ?_⟩
  revert h
  rw [runOn_lookUp, Conversation.runOn_bind]
  simp only [Conversation.watched, Conversation.runOn_of]
  rcases find.runOn ((s.record (.entered .started)).record (.entered .resolving)) with ⟨e | b, t⟩
  · intro h
    cases h
  · by_cases hp : t.phase.canAdvance .completed = true
    · simp only [Conversation.runOn_bind, Conversation.runOn_enter hp, Conversation.runOn_pure, Session.exchanges_entered]
      exact fun h => ⟨h, trivial⟩
    · simp only [Conversation.runOn_bind, Conversation.enter, Conversation.runOn_of, Phase.advance, if_neg hp]
      intro h
      cases h

/-- An operation that only looks something up comes to what its lookup comes to, and leaves the server as the lookup does. -/
theorem lookUp_comes {find : Conversation σ α} {s u : σ} {r : Result α} {log : List Exchange} (h : find.Comes s r u log)
    (history : List Activity) :
    ((lookUp find).runOn ⟨s, history⟩).1 = r ∧ ((lookUp find).runOn ⟨s, history⟩).2.server = u := by
  rw [runOn_lookUp, Conversation.runOn_bind]
  simp only [Session.record, Conversation.watched, Conversation.runOn_of, h _]
  cases r with
  | error e => exact ⟨rfl, Session.server_fail _ e⟩
  | ok a =>
    simp only [Conversation.runOn_bind]
    rw [Conversation.runOn_enter (by rw [Session.phase_after]; rfl)]
    exact ⟨rfl, rfl⟩

/-- An operation that only looks something up has the result that its lookup comes to. -/
theorem lookUp_of_comes {find : Conversation σ α} {s u : σ} {a : α} {log : List Exchange} (h : find.Comes s (.ok a) u log)
    (history : List Activity) : ((lookUp find).runOn ⟨s, history⟩).1 = .ok a :=
  (lookUp_comes h history).1

/-- What is told of a lookup is told of an operation that only looks something up. -/
theorem lookUp_ok {find : Conversation σ α} {told : List Exchange → Result α → Prop} (hf : find.Sends told) {s : Session σ} {a : α}
    (h : ((lookUp find).runOn s).1 = .ok a) :
    ∃ log, ((lookUp find).runOn s).2.exchanges = s.exchanges ++ log ∧ told log (.ok a) := by
  obtain ⟨t, hs, ha, hx⟩ := find_of_lookUp h
  obtain ⟨log, ht, htold⟩ := hf t
  rw [ha] at htold
  exact ⟨log, by rw [hx, ht, Session.exchanges_after, hs], htold⟩

/-- A space that is found is listed for its name, after the organization was looked up. -/
theorem findSpace_sends (t : Target) (server : Http.Server σ) (name : String) :
    (t.findSpace server name).Sends fun log r => ∀ x, r = .ok x →
      ∃ before lookup organization, log = before ++ lookup ∧ ListedFor t.client (.spaces organization) Space.name name lookup x := by
  obtain ⟨told, hs, -⟩ := t.organizationId_leads server
  refine (hs.bind fun organization => t.resolve_sends server (.spaces organization) (.ofName name) _ name).weaken ?_
  rintro log r (⟨e, -, rfl⟩ | ⟨organization, before, lookup, rfl, -, found, hl, hf⟩) x hx
  · cases hx
  · obtain rfl := (hf x).mp hx
    exact ⟨before, lookup, organization, rfl, hl.listedFor _⟩

/-- A space quota that is found carries its name. -/
theorem name_of_findSpaceQuota {t : Target} {server : Http.Server σ} {name : String} {s : Session σ} {q : SpaceQuota}
    (h : ((t.findSpaceQuota server name).runOn s).1 = .ok q) : q.name = name := by
  have hwhole := (Resolution.resolve_eq_ok _ _ _ q).mp h
  cases hw : Fallible.whole (Fallible.select (·.name == name) (t.spaceQuotas server s).1) with
  | error e =>
    rw [hw] at hwhole
    cases hwhole
  | ok all =>
    rw [hw] at hwhole
    cases hwhole
    have hm := Fallible.mem_of_whole hw q (List.mem_singleton.mpr rfl)
    exact beq_iff_eq.mp (List.mem_filter.mp hm).2

end Target

/-! ## Deletions -/

/-- Whether an exchange asks for a deletion. -/
def Exchange.IsDeletion (x : Exchange) : Prop := x.request.method = .delete

/-- Exchanges of which none asks for a deletion do not hold one that does. -/
theorem Exchange.IsDeletion.not_mem {d : Exchange} (hd : d.IsDeletion) {log : List Exchange}
    (h : log.countP (·.request.method == .delete) = 0) : d ∉ log :=
  fun hm => List.countP_eq_zero.mp h d hm (beq_iff_eq.mpr hd)

section

variable {c : Client} {d : Exchange} {log : List Exchange} (hd : d.IsDeletion) (hm : d ∈ log)
include hd hm

/-- What asks for a deletion after a lookup is among what follows the one entity found. -/
theorem Lookup.Then.of_deletion {list : Collection α} {query : Query} {rest : α → List Exchange → Prop}
    (h : Lookup.Then c list query rest log) :
    ∃ lookup tail a, log = lookup ++ tail ∧ Lookup c list query 1 lookup (some [a]) ∧ rest a tail ∧ d ∈ tail := by
  obtain ⟨lookup, tail, found, rfl, hl, ⟨a, rfl, hr⟩ | ⟨-, rfl⟩⟩ := h
  · exact ⟨lookup, tail, a, rfl, hl, hr, (List.mem_append.mp hm).resolve_left (hd.not_mem hl.countP_delete)⟩
  · rw [List.append_nil] at hm
    exact absurd hm (hd.not_mem hl.countP_delete)

/-- What asks for a deletion comes first, and with the request that is made for it. -/
theorem Deletion.of_deletion {request : Result Http.Request} (h : Deletion c request log) :
    request = .ok d.request ∧ ∃ after, log = d :: after := by
  cases h with
  | unsent => cases hm
  | answered hq =>
    obtain rfl := List.mem_singleton.mp hm
    exact ⟨hq, [], rfl⟩
  | accepted hq _ _ _ hw =>
    rcases List.mem_cons.mp hm with rfl | hm
    · exact ⟨hq, _, rfl⟩
    · exact absurd hm (hd.not_mem hw.careful.1)

namespace Target

variable {t : Target}

theorem InOrganization.of_deletion {rest : String → List Exchange → Prop} (h : t.InOrganization rest log) :
    ∃ before tail organization, log = before ++ tail ∧ rest organization tail ∧ d ∈ tail := by
  unfold InOrganization at h
  cases ho : t.organization with
  | none =>
    rw [ho] at h
    rw [show log = [] from h] at hm
    cases hm
  | some name =>
    rw [ho] at h
    obtain ⟨lookup, tail, found, hlog, -, hr, hmem⟩ := Lookup.Then.of_deletion hd hm h
    exact ⟨lookup, tail, found.id, hlog, hr, hmem⟩

theorem AtSpace.of_deletion {name : String} {rest : Space → List Exchange → Prop} (h : t.AtSpace name rest log) :
    ∃ before lookup tail organization found, log = before ++ (lookup ++ tail) ∧
      Lookup t.client (.spaces organization) (.ofName name) 1 lookup (some [found]) ∧ rest found tail ∧ d ∈ tail := by
  obtain ⟨before, tail, organization, rfl, hr, hmem⟩ := InOrganization.of_deletion hd hm h
  obtain ⟨lookup, tail, found, rfl, hl, hr, hmem⟩ := Lookup.Then.of_deletion hd hmem hr
  exact ⟨before, lookup, tail, organization, found, rfl, hl, hr, hmem⟩

theorem InSpace.of_deletion {rest : String → List Exchange → Prop} (h : t.InSpace rest log) :
    ∃ before tail space, log = before ++ tail ∧ rest space tail ∧ d ∈ tail := by
  unfold InSpace at h
  cases ho : t.space with
  | none =>
    rw [ho] at h
    rw [show log = [] from h] at hm
    cases hm
  | some name =>
    rw [ho] at h
    obtain ⟨before, lookup, tail, -, found, rfl, -, hr, hmem⟩ := AtSpace.of_deletion hd hm h
    exact ⟨before ++ lookup, tail, found.id, (List.append_assoc _ _ _).symm, hr, hmem⟩

end Target

end

/-- Against any server: an organization or a space that is looked up by its name, and the space or the service instance whose deletion
is asked for by its name, is the only entity that is listed for that name by the last exchanges before. A space quota that is
looked up carries its name. -/
theorem Target.finds_listed (t : Target) (server : Http.Server σ) (allowed : Nat) (name : String) (s : Session σ) :
    (∀ q, ((t.getSpaceQuota server name).runOn s).1 = .ok q → q.name = name) ∧
      (∀ o, ((t.getOrganization server name).runOn s).1 = .ok o →
        ∃ lookup, ((t.getOrganization server name).runOn s).2.exchanges = s.exchanges ++ lookup ∧
          ListedFor t.client .organizations Organization.name name lookup o) ∧
      (∀ x, ((t.getSpace server name).runOn s).1 = .ok x →
        ∃ before lookup organization, ((t.getSpace server name).runOn s).2.exchanges = s.exchanges ++ (before ++ lookup) ∧
          ListedFor t.client (.spaces organization) Space.name name lookup x) ∧
      (∃ log, ((t.deleteSpace server allowed name).runOn s).2.exchanges = s.exchanges ++ log ∧
        ∀ d ∈ log, d.IsDeletion → ∃ before lookup after organization found, log = before ++ (lookup ++ d :: after) ∧
          ListedFor t.client (.spaces organization) Space.name name lookup found ∧
          t.client.spaceDeletion found = .ok d.request) ∧
      ∃ log, ((t.deleteServiceInstance server allowed name).runOn s).2.exchanges = s.exchanges ++ log ∧
        ∀ d ∈ log, d.IsDeletion → ∃ before lookup after space found, log = before ++ (lookup ++ d :: after) ∧
          ListedFor t.client (.serviceInstances space) ServiceInstance.name name lookup found ∧
          t.client.serviceInstanceDeletion found = .ok d.request := by
  refine ⟨fun q h => ?_, fun o h => ?_, fun x h => ?_, ?_, ?_⟩
  · obtain ⟨u, -, hq, -⟩ := find_of_lookUp h
    exact name_of_findSpaceQuota hq
  · obtain ⟨lookup, hx, found, hl, hf⟩ := lookUp_ok (t.resolve_sends server .organizations (.ofName name) _ name) h
    obtain rfl := (hf o).mp rfl
    exact ⟨lookup, hx, hl.listedFor _⟩
  · obtain ⟨log, hx, htold⟩ := lookUp_ok (t.findSpace_sends server name) h
    obtain ⟨before, lookup, organization, rfl, hl⟩ := htold x rfl
    exact ⟨before, lookup, organization, hx, hl⟩
  · obtain ⟨log, hx, hshape⟩ := t.deleteSpace_adds server allowed name s
    refine ⟨log, hx, fun d hm hd => ?_⟩
    obtain ⟨before, lookup, tail, organization, found, rfl, hl, hr, hmem⟩ := AtSpace.of_deletion hd hm hshape
    obtain ⟨hq, after, rfl⟩ := Deletion.of_deletion hd hmem hr
    exact ⟨before, lookup, after, organization, found, rfl, hl.listedFor _, hq⟩
  · obtain ⟨log, hx, hshape⟩ := t.deleteServiceInstance_adds server allowed name s
    refine ⟨log, hx, fun d hm hd => ?_⟩
    obtain ⟨before, tail, space, rfl, hr, hmem⟩ := InSpace.of_deletion hd hm hshape
    obtain ⟨lookup, tail, found, rfl, hl, hr, hmem⟩ := Lookup.Then.of_deletion hd hmem hr
    obtain ⟨hq, after, rfl⟩ := Deletion.of_deletion hd hmem hr
    exact ⟨before, lookup, after, space, found, rfl, hl.listedFor _, hq⟩

/-! ## A server that does not look at names -/

/-- The response that lists an entity as the only one. -/
def Platform.sole {ε : Type} (form : Resource.Form α ε) (a : α) : Http.Response :=
  holding form { totalPages := some 1, resources := [a] }

/-- Where an entity is listed as the only one, it is found by any name. -/
theorem Target.resolve_sole {ε : Type} {t : Target} {l : Collection α} {form : Resource.Form α ε}
    (henvelope : l.envelope = Collection.envelopeOf form) {a : α}
    (hreads : (Resource.decoder form.fields).Reads 3 ((form.toResource a).toJson form.fieldsJson) (form.toResource a))
    {query : Query} {q : Http.Request} (hq : t.client.pageRequest l query 1 = .ok q) (entity name : String)
    (rest : List Http.Reply) :
    ((t.listing Http.Server.scripted l query).resolve entity name).Comes (.response (sole form a) :: rest) (.ok a) rest
      [⟨q, .response (sole form a)⟩] := by
  intro history
  obtain ⟨-, hpage⟩ := pageOf_holding henvelope 1 { totalPages := some 1, resources := [a] } fun b hb =>
    List.mem_singleton.mp hb ▸ hreads
  have hresults := Client.results_of_last (s := ⟨.response (sole form a) :: rest, history⟩) hq
    (show Http.Server.scripted q _ = (.response (sole form a), rest) from rfl) rfl hpage rfl
  simp only [Listing.resolve, Conversation.runOn_of, listing, hresults]
  rfl

/-- A server that lists the only organization, space and service instance that it has, whatever names are asked for: they are found
by names that they do not carry, and the deletion of the space and of the service instance is asked for by such names. -/
theorem Target.finds_unnamed :
    let t : Target := { client := ⟨linkBase, "token"⟩, organization := some "acme", space := some "dev" }
    let organization : Organization := { id := "org-1", name := "other" }
    let space : Space := { id := "space-1", name := "prod" }
    let service : ServiceInstance := { id := "si-1", name := "backup", origin := .userProvided }
    let lookups := [.response (sole Organization.form organization), .response (sole Space.form space)]
    let done := Http.Reply.response { status := 204 }
    (organization.name ≠ "acme" ∧ space.name ≠ "dev" ∧ service.name ≠ "db") ∧
      ((t.getOrganization Http.Server.scripted "acme").runOn ⟨lookups, []⟩).1 = .ok organization ∧
      ((t.getSpace Http.Server.scripted "dev").runOn ⟨lookups, []⟩).1 = .ok space ∧
      (∃ d ∈ ((t.deleteSpace Http.Server.scripted 0 "dev").runOn ⟨lookups ++ [done], []⟩).2.exchanges,
        d.IsDeletion ∧ t.client.spaceDeletion space = .ok d.request) ∧
      ∃ d ∈ ((t.deleteServiceInstance Http.Server.scripted 0 "db").runOn
          ⟨lookups ++ [.response (sole ServiceInstance.form service), done], []⟩).2.exchanges,
        d.IsDeletion ∧ t.client.serviceInstanceDeletion service = .ok d.request := by
  intro t organization space service lookups done
  have hc : t.client.Reaches {} := ⟨rfl, by decide +kernel, by decide +kernel, by decide +kernel, rfl⟩
  have hempty : Store.IsReadable {} := ⟨nofun, nofun⟩
  obtain ⟨q₁, hq₁⟩ := (serves_organizations hempty).pageRequest hc (.ofName "acme") 1
  obtain ⟨q₂, hq₂⟩ := (serves_spaces hempty (show IsScope organization.id by decide)).pageRequest hc (.ofName "dev") 1
  obtain ⟨q₃, hq₃⟩ := (serves_serviceInstances {} (show IsScope space.id by decide)).pageRequest hc (.ofName "db") 1
  obtain ⟨d₁, hd₁⟩ := (isAlong_space (show IsScope space.id by decide)).requestAt hc .delete
    (Client.writes_withPairs [("async", "true"), ("recursive", "true")])
  obtain ⟨d₂, hd₂⟩ := (isAlong_userProvidedServiceInstance (show IsScope service.id by decide)).requestAt hc .delete
    (Client.writes_withPairs [])
  have horganization (rest) := resolve_sole (t := t) (l := .organizations) rfl (a := organization)
    (Resource.decoder_reads _ ((Organization.Entity.decoder_reads _).mono (by decide)) (by decide) nofun nofun) hq₁
    Organization.kindName "acme" rest
  have hspace (rest) := resolve_sole (t := t) (l := .spaces "org-1") rfl (a := space)
    (Resource.decoder_reads _ ((Space.Entity.decoder_reads _).mono (by decide)) (by decide) nofun nofun) hq₂
    Space.kindName "dev" rest
  have hinstance (rest) := resolve_sole (t := t) (l := .serviceInstances "space-1") rfl (a := service)
    (Resource.decoder_reads _ (ServiceInstance.Entity.decoder_reads _) (by decide) nofun nofun) hq₃
    ServiceInstance.kindName "db" rest
  have hfound (rest) : (t.findSpace Http.Server.scripted "dev").Comes (lookups ++ rest) (.ok space) rest _ :=
    ((horganization _).map Organization.id).bind (hspace rest)
  have hscope (rest) : (t.spaceId Http.Server.scripted).Comes (lookups ++ rest) (.ok "space-1") rest _ :=
    (hfound rest).map Space.id
  have hgone {path : String} {pairs : List (String × String)} {q : Http.Request}
      (hq : t.client.deletionRequest path pairs = .ok q) :
      (t.client.delete Http.Server.scripted path pairs).Comes [done] (.ok (.immediate ())) [] [⟨q, done⟩] :=
    Client.delete_comes hq (show Http.Server.scripted q [done] = (.response { status := 204 }, []) from rfl) rfl
  refine ⟨by decide, lookUp_of_comes (horganization _) [], lookUp_of_comes (hfound []) [],
    ⟨⟨d₁, done⟩, ?_, ?_, hd₁⟩, ⟨⟨d₂, done⟩, ?_, ?_, hd₂⟩⟩
  · have hdeleted : (t.deleteSpace Http.Server.scripted 0 "dev").Comes .started (lookups ++ [done]) _ _ _ :=
      .start (.enter rfl (.after (hfound _) (mutate_immediate (hgone hd₁))))
    rw [(hdeleted _ rfl rfl).2.2]
    simp
  · exact Client.method_of_requestAt hd₁
  · have hdeleted : (t.deleteServiceInstance Http.Server.scripted 0 "db").Comes .started
        (lookups ++ [.response (sole ServiceInstance.form service), done]) _ _ _ :=
      .start (.enter rfl (.after (hscope _) (.after (hinstance _) (mutate_immediate (hgone hd₂)))))
    rw [(hdeleted _ rfl rfl).2.2]
    simp
  · exact Client.method_of_requestAt hd₂

end ControlPlane
