import ControlPlane.Proofs.Exchange.Names
import ControlPlane.Proofs.Platform.Lookups
import Mathlib.GroupTheory.GroupAction.Ring

/-!
# Entities of one name

A lookup by name tells how many entities of its scope carry the name: it finds the only one, and fails where there is none and where
there are several, of which it tells the number that is read (`Resolution.Decides`). Organizations and spaces are narrowed down by the
platform, and space quotas by the client, which reads those of the organization. It does not matter who looks at the names as long as
the pages of a list can be counted in 32 bits, so that all of it is read. The main statement is `Target.lookups_decide`.
-/

namespace ControlPlane

open Platform

variable {α : Type}

/-! ## What there is of a name -/

/-- Whether a result tells which entities carry a name: the only one, none, or several, with a number that is told for them. -/
structure Resolution.Decides (entity name : String) (namesakes : List α) (told : Nat) (result : Result α) : Prop where
  sole : ∀ a, result = .ok a ↔ namesakes = [a]
  none : result = .error (.notFound entity name) ↔ namesakes = []
  several : ∀ count, result = .error (.ambiguous entity name count) ↔ 2 ≤ namesakes.length ∧ count = told

/-- The resolution of a name tells which entities there are. -/
theorem Resolution.decides_single (entity name : String) (namesakes : List α) :
    Decides entity name namesakes namesakes.length (single entity name namesakes) := by
  match namesakes with
  | [] | [_] | _ :: _ :: _ => constructor <;> simp [single, eq_comm]

/-- As it is told, the resolution of a name tells which entities there are, with the number of those that are read. -/
theorem Resolution.decides_asRead (entity name : String) (namesakes : List α) :
    Decides entity name namesakes (Cut.read namesakes.length) ((single entity name namesakes).mapError Failure.asRead) := by
  match namesakes with
  | [] | [_] | _ :: _ :: _ => constructor <;> simp [single, Except.mapError, Failure.asRead, eq_comm]

/-- What is wanted of items without failures. -/
theorem Fallible.select_map_ok (isWanted : α → Bool) (items : List α) :
    select isWanted (items.map .ok) = (items.filter isWanted).map .ok :=
  List.filter_map

/-! ## Space quotas on many pages -/

/-- A store with one organization, and with so many small space quotas in it before a large one. -/
def Platform.Store.smallBeforeLarge (count : Nat) : Store where
  organizations := [Scenario.organization "org-1" "test-org"]
  spaceQuotas :=
    List.replicate count (Scenario.spaceQuota "quota-1" "small" "org-1") ++ [Scenario.spaceQuota "quota-2" "large" "org-1"]

namespace Platform.Store

theorem isSearchable_smallBeforeLarge (count : Nat) : (smallBeforeLarge count).IsSearchable := by
  have hcreated : ∀ o ∈ (smallBeforeLarge count).organizations, ∀ u ∈ o.createdAt, ∃ text, Timestamp.ofString text = .ok u := by
    intro o ho u hu
    obtain rfl := List.mem_singleton.mp ho
    exact ⟨u.text, Timestamp.ofString_text (Scenario.isShowable_organization hu)⟩
  refine ⟨⟨hcreated, nofun⟩, fun o ho => ?_⟩
  obtain rfl := List.mem_singleton.mp ho
  exact ⟨by decide, by decide, by decide⟩

/-- All space quotas are in the organization. -/
theorem quotas_smallBeforeLarge (count : Nat) :
    (smallBeforeLarge count).spaceQuotas.filter (·.organizationId == some "org-1") = (smallBeforeLarge count).spaceQuotas := by
  refine List.filter_eq_self.mpr fun q hq => ?_
  rcases List.mem_append.mp hq with hq | hq
  · rw [List.eq_of_mem_replicate hq]
    rfl
  · rw [List.mem_singleton.mp hq]
    rfl

/-- The large space quota is not among the first ones. -/
theorem large_not_before {count first : Nat} (h : first ≤ count) :
    ((smallBeforeLarge count).spaceQuotas.take first).filter (·.name == "large") = [] := by
  rw [smallBeforeLarge, List.take_append_of_le_length (by rwa [List.length_replicate]), List.take_replicate]
  refine List.filter_eq_nil_iff.mpr fun q hq => ?_
  rw [List.eq_of_mem_replicate hq]
  decide

/-- The large space quota is there. -/
theorem large_mem (count : Nat) : Scenario.spaceQuota "quota-2" "large" "org-1" ∈
    (smallBeforeLarge count).spaceQuotas.filter fun q => q.organizationId == some "org-1" && q.name == "large" :=
  List.mem_filter.mpr ⟨List.mem_append_right _ (List.mem_singleton.mpr rfl), by decide⟩

end Platform.Store

namespace Target

variable {t : Target} {s : Store} {log : List Exchange}

/-! ## Lookups in an organization -/

section

variable {organization : String} (hid : (t.organizationId server).Comes s (.ok organization) s log)
  (hc : t.client.Reaches s) (hscope : IsScope organization)
include hid hc hscope

/-- The name of a space is resolved among those that the platform lists for it. -/
theorem findSpace_decides (hs : s.IsReadable) (name : String) :
    let named := s.spaces.filter fun x => x.organizationId == some organization && x.name == name
    ∃ told log, (t.findSpace server name).Comes s told s log ∧
      Resolution.Decides "Space" name named (Cut.read named.length) told := by
  obtain ⟨more, hspaces⟩ := (serves_spaces hs hscope).resolves hc Space.kindName name
  exact ⟨_, log ++ more, hid.bind hspaces, Resolution.decides_asRead _ _ _⟩

/-- The name of a space quota is resolved among those that are read. -/
theorem findSpaceQuota_comes (name : String) :
    let quotas := s.spaceQuotas.filter (·.organizationId == some organization)
    ∃ log, (t.findSpaceQuota server name).Comes s
      (Resolution.single "Space Quota" name ((quotas.take (Cut.read quotas.length)).filter (·.name == name))) s log := by
  intro quotas
  obtain ⟨more, -, hresults⟩ :=
    (serves_spaceQuotas s hscope).results hc none none none (show 50 = max 1 (50 : UInt32).toNat from rfl)
  refine ⟨log ++ more, fun history => ?_⟩
  have hread : t.spaceQuotas server ⟨s, history⟩ =
      ((quotas.take (Cut.read quotas.length)).map .ok, Session.after ⟨s, history⟩ s (log ++ more)) := by
    simp only [spaceQuotas, within, hid history]
    rw [← Cut.take_read quotas]
    exact (hresults _).trans (Prod.ext rfl (Session.after_after _ s s log more))
  rw [findSpaceQuota, Listing.resolve, Conversation.runOn_of]
  simp only [hread, Fallible.select_map_ok, Resolution.resolve]
  rw [Fallible.drain_map_ok]
  rfl

end

/-- Where the organization is not found, neither is a space quota in it. -/
theorem findSpaceQuota_fails {e : Failure} (h : (t.organizationId server).Comes s (.error e) s log) (name : String) :
    (t.findSpaceQuota server name).Comes s (.error e) s log := by
  intro history
  rw [findSpaceQuota, Listing.resolve, Conversation.runOn_of]
  simp only [spaceQuotas, within, h history]
  rfl

/-- Where the last page is not read, the last space quota is not found. -/
theorem findSpaceQuota_hidden (htarget : t.organization = some "test-org") {count : Nat} (hread : Cut.read (count + 1) ≤ count)
    (hc : t.client.Reaches (Store.smallBeforeLarge count)) :
    ∃ log, (t.findSpaceQuota server "large").Comes (Store.smallBeforeLarge count) (.error (.notFound "Space Quota" "large"))
      (Store.smallBeforeLarge count) log := by
  obtain ⟨log, hid⟩ := organizationId_reads hc (Store.isSearchable_smallBeforeLarge count).readable
  have hfound : t.organizationIn (Store.smallBeforeLarge count) = .ok "org-1" := by
    simp only [organizationIn, htarget]
    rfl
  rw [hfound] at hid
  obtain ⟨more, hquota⟩ := findSpaceQuota_comes hid hc (by decide) "large"
  have hlength : (Store.smallBeforeLarge count).spaceQuotas.length = count + 1 := by
    rw [Store.smallBeforeLarge, List.length_append, List.length_replicate, List.length_singleton]
  rw [Store.quotas_smallBeforeLarge, hlength, Store.large_not_before hread] at hquota
  exact ⟨more, hquota⟩

/-- The id of the organization that is targeted is the one of the organization that is looked up. -/
theorem organizationId_of_target {σ : Type} (server : Http.Server σ) {target : String} (h : t.organization = some target) :
    t.organizationId server = do return (← t.findOrganization server target).id := by
  simp only [organizationId, h]

/-! ## Lookups -/

/-- A lookup leaves the store as it is and tells which entities of its scope carry the name. Organizations are looked up among all;
spaces and space quotas among those of the only organization that has the name that is targeted, whatever others hold. Where there
is no such organization, or several, the lookup fails as the one of the organization does. The platform tells the number of pages in
32 bits: space quotas are looked up among those that are read, and of several organizations or spaces the number that is read is
told. Where the pages can be counted that is all of them. -/
theorem lookups_decide (hc : t.client.Reaches s) (hs : s.IsSearchable) (name : String) (history : List Activity) :
    let organization := fun name => (t.getOrganization server name).runOn ⟨s, history⟩
    let space := (t.getSpace server name).runOn ⟨s, history⟩
    let quota := (t.getSpaceQuota server name).runOn ⟨s, history⟩
    (∀ name, let named := s.organizations.filter (·.name == name)
        Resolution.Decides "Organization" name named (Cut.read named.length) (organization name).1 ∧ (organization name).2.server = s) ∧
      (space.2.server = s ∧ quota.2.server = s) ∧
      ∀ target, t.organization = some target →
        (∀ o, s.organizations.filter (·.name == target) = [o] →
          (let named := s.spaces.filter fun x => x.organizationId == some o.id && x.name == name
           Resolution.Decides "Space" name named (Cut.read named.length) space.1) ∧
          (let quotas := s.spaceQuotas.filter (·.organizationId == some o.id)
           let named := (quotas.take (Cut.read quotas.length)).filter (·.name == name)
           Resolution.Decides "Space Quota" name named named.length quota.1 ∧
             (quotas.length ⌈/⌉ 50 < 2 ^ 32 →
               named = s.spaceQuotas.filter fun q => q.organizationId == some o.id && q.name == name))) ∧
          ∀ e, (organization target).1 = .error e → space.1 = .error e ∧ quota.1 = .error e := by
  intro organization space quota
  refine ⟨fun name => ?_, ⟨?_, ?_⟩, fun target htarget => ?_⟩
  · obtain ⟨log, hcomes⟩ := findOrganization_reads hc hs.readable name
    obtain ⟨hresult, hserver⟩ := lookUp_comes hcomes history
    exact ⟨hresult ▸ Resolution.decides_asRead _ _ _, hserver⟩
  · obtain ⟨log, hcomes⟩ := findSpace_reads hc hs name
    exact (lookUp_comes hcomes history).2
  · obtain ⟨log, hcomes⟩ := organizationId_reads hc hs.readable
    cases hid : t.organizationIn s with
    | error e =>
      rw [hid] at hcomes
      exact (lookUp_comes (findSpaceQuota_fails hcomes name) history).2
    | ok id =>
      rw [hid] at hcomes
      obtain ⟨_, hquota⟩ := findSpaceQuota_comes hcomes hc (isScope_of_organizationIn hs hid) name
      exact (lookUp_comes hquota history).2
  -- The organization that is targeted is looked up first, and its result decides how the lookup goes on.
  have hfirst := organizationId_of_target server htarget
  obtain ⟨log, hcomes⟩ := findOrganization_reads hc hs.readable target
  have hdecides := Resolution.decides_asRead Organization.kindName target (s.listOrganizations (some target))
  generalize (Resolution.single Organization.kindName target (s.listOrganizations (some target))).mapError Failure.asRead = told
    at hcomes hdecides
  refine ⟨fun o ho => ?_, fun e he => ?_⟩
  · obtain rfl : told = .ok o := (hdecides.sole o).mpr ho
    have hscope : IsScope o.id := hs.organizations o (List.mem_of_mem_filter (ho ▸ List.mem_singleton.mpr rfl))
    have hid : (t.organizationId server).Comes s (.ok o.id) s log := by
      rw [hfirst]
      exact hcomes.map Organization.id
    refine ⟨?_, ?_, fun hpages => ?_⟩
    · obtain ⟨told, more, hspace, hdecides⟩ := findSpace_decides hid hc hscope hs.readable name
      obtain rfl : space.1 = told := (lookUp_comes hspace history).1
      exact hdecides
    · obtain ⟨more, hquota⟩ := findSpaceQuota_comes hid hc hscope name
      have hresult : quota.1 = _ := (lookUp_comes hquota history).1
      rw [hresult]
      exact Resolution.decides_single _ _ _
    · rw [Cut.read_of_lt hpages, List.take_length, List.filter_filter]
      exact List.filter_congr fun q _ => Bool.and_comm _ _
  · obtain rfl : told = .error e := (lookUp_comes hcomes history).1.symm.trans he
    have hid : (t.organizationId server).Comes s (.error e) s log := by
      rw [hfirst]
      exact hcomes.fails
    exact ⟨(lookUp_comes hid.fails history).1, (lookUp_comes (findSpaceQuota_fails hid name) history).1⟩

/-- A small platform on which one name is carried by spaces of both organizations, and another one by two of the same. -/
theorem lookups_decide_standard :
    let t : Target := { client := ⟨linkBase, "token"⟩, organization := some "test-org" }
    let elsewhere : Target := { t with organization := some "no-org" }
    let standard := Scenario.standard
    let s : Store :=
      { standard with spaces := standard.spaces ++ [Scenario.space "space-4" "prod" "org-1"], requiredToken := some "token" }
    let space := fun name => ((t.getSpace server name).runOn ⟨s, []⟩).1
    let quota := fun name => ((t.getSpaceQuota server name).runOn ⟨s, []⟩).1
    (t.client.Reaches s ∧ s.IsSearchable) ∧
      (space "dev" = .ok (Scenario.space "space-1" "dev" "org-1") ∧ space "test" = .error (.notFound "Space" "test") ∧
        space "prod" = .error (.ambiguous "Space" "prod" 2)) ∧
      (quota "small" = .ok (Scenario.spaceQuota "quota-1" "small" "org-1") ∧
        quota "medium" = .error (.notFound "Space Quota" "medium")) ∧
      ((elsewhere.getSpace server "dev").runOn ⟨s, []⟩).1 = .error (.notFound "Organization" "no-org") ∧
      ((t.getSpace server "dev").runOn ⟨s, []⟩).2.server = s := by
  intro t elsewhere standard s space quota
  have hc : t.client.Reaches s := ⟨rfl, by decide +kernel, by decide +kernel, by decide +kernel, by decide +kernel⟩
  have hfresh := isFresh_standard (some "token")
  have hsince : ∀ x ∈ s.spaces, ∀ u ∈ x.createdAt, ∃ text, Timestamp.ofString text = .ok u := by
    have hnone : ∀ x ∈ s.spaces, x.createdAt = none := by decide
    intro x hx u hu
    rw [hnone x hx] at hu
    cases hu
  have hs : s.IsSearchable := ⟨⟨hfresh.isReadable.organizations, hsince⟩, hfresh.organizations.scopes⟩
  -- What the store holds of each name, in the organization that is targeted.
  have htarget : s.organizations.filter (·.name == "test-org") = [Scenario.organization "org-1" "test-org"] := by rfl
  have hspaces := fun name => ((lookups_decide hc hs name []).2.2 "test-org" rfl).1 _ htarget
  have hquotas : ∀ name, let named := s.spaceQuotas.filter fun q => q.organizationId == some "org-1" && q.name == name
      Resolution.Decides "Space Quota" name named named.length (quota name) := by
    intro name named
    obtain ⟨hdecides, hall⟩ := (hspaces name).2
    have hnamed : _ = named := hall (by decide)
    rwa [hnamed] at hdecides
  refine ⟨⟨hc, hs⟩, ⟨?_, ?_, ?_⟩, ⟨?_, ?_⟩, ?_, (lookups_decide hc hs "dev" []).2.1.1⟩
  · exact ((hspaces "dev").1.sole _).mpr (by rfl)
  · exact (hspaces "test").1.none.mpr (by rfl)
  · exact ((hspaces "prod").1.several 2).mpr (by decide)
  · exact ((hquotas "small").sole _).mpr (by rfl)
  · exact (hquotas "medium").none.mpr (by rfl)
  · obtain ⟨horganization, -, hscope⟩ := lookups_decide (t := elsewhere) hc hs "dev" []
    exact ((hscope "no-org" rfl).2 _ ((horganization "no-org").1.none.mpr (by rfl))).1

/-- Not every lookup tells what there is. Of organizations that fill 4294967296 pages those on the first one are told; a space quota behind
as many pages is not found; and by a token that cannot be sent nothing is found, even where the platform asks for none. -/
theorem not_lookups_counted :
    let t : Target := { client := ⟨linkBase, "token"⟩, organization := some "test-org" }
    let unsendable : Target := { t with client := ⟨linkBase, "a\nb"⟩ }
    let crowd := Store.crowd "test-org" (2 ^ 32 * 50)
    let large := Store.smallBeforeLarge (2 ^ 32 * 50 - 1)
    let s := Scenario.standard
    (t.client.Reaches crowd ∧ crowd.IsSearchable ∧
        let named := crowd.organizations.filter (·.name == "test-org")
        ¬Resolution.Decides "Organization" "test-org" named named.length ((t.getOrganization server "test-org").runOn ⟨crowd, []⟩).1) ∧
      (t.client.Reaches large ∧ large.IsSearchable ∧
        let named := large.spaceQuotas.filter fun q => q.organizationId == some "org-1" && q.name == "large"
        ¬Resolution.Decides "Space Quota" "large" named named.length ((t.getSpaceQuota server "large").runOn ⟨large, []⟩).1) ∧
      (s.requiredToken = none ∧ s.IsSearchable ∧
        let named := s.spaces.filter fun x => x.organizationId == some "org-1" && x.name == "dev"
        ¬Resolution.Decides "Space" "dev" named named.length ((unsendable.getSpace server "dev").runOn ⟨s, []⟩).1) := by
  intro t unsendable crowd large s
  have hcrowd : t.client.Reaches crowd := ⟨rfl, by decide +kernel, by decide +kernel, by decide +kernel, rfl⟩
  have hlarge : t.client.Reaches large := ⟨rfl, by decide +kernel, by decide +kernel, by decide +kernel, rfl⟩
  have hroot : unsendable.client.IsAtRoot := ⟨rfl, by decide +kernel, by decide +kernel⟩
  have hs : s.IsSearchable := (isFresh_standard none).isSearchable
  have hread : Cut.read (2 ^ 32 * 50) = 50 := by decide
  have hhidden : Cut.read (2 ^ 32 * 50 - 1 + 1) ≤ 2 ^ 32 * 50 - 1 := by decide
  refine ⟨⟨hcrowd, (Store.isFresh_crowd _ _).isSearchable, fun h => ?_⟩,
    ⟨hlarge, Store.isSearchable_smallBeforeLarge _, fun h => ?_⟩, rfl, hs, fun h => ?_⟩
  · obtain ⟨log, hcomes⟩ := findOrganization_crowd (show 2 ≤ 2 ^ 32 * 50 by decide) hcrowd
    rw [hread] at hcomes
    have htold := ((h.several 50).mp (lookUp_comes hcomes []).1).2
    rw [Store.named_crowd, Store.length_crowd] at htold
    exact absurd htold (by decide)
  · obtain ⟨log, hcomes⟩ := findSpaceQuota_hidden (t := t) rfl hhidden hlarge
    exact List.ne_nil_of_mem (Store.large_mem _) (h.none.mp (lookUp_comes hcomes []).1)
  · have hunsent := findSpace_fails (t := unsendable) rfl (findOrganization_unsent hroot (by decide +kernel) hs.readable "test-org") "dev"
    have hfound := (h.sole (Scenario.space "space-1" "dev" "org-1")).mpr (by rfl)
    cases hfound.symm.trans (lookUp_comes hunsent []).1

end Target

end ControlPlane
