import ControlPlane.Proofs.Platform.Histories
import Mathlib.Data.List.Basic

/-!
# What is taken from a store

A history changes the collections of a store only by the deletions that are made in it (`Store.deletions`): those that are asked for
directly, and those of jobs, made by the poll that tells a job finished. What remains is what none of them takes
(`Store.resources_afterAll`). A space is taken together with the service instances in it, so that no service instance is left behind
in a space that is gone. The main statement is `Store.isCoherent_afterAll`.
-/

namespace ControlPlane.Platform

namespace Store

/-! ## Deletions in a history -/

/-- The deletion that an action makes, if it makes one. That of a job is made by the poll that tells the job finished. -/
def deletion? (s : Store) : Action → Option Deletion
  | .pollJob id => (s.job? id).bind Task.nextDeletion
  | .deleteServiceInstance id => some (.serviceInstance id)
  | .deleteSpace id => some (.space id)
  | .startJob _ | .setJobScript _ | .setJobFailure _ => none

/-- The deletions that are made in a history, in their order, each with the action that makes it. -/
def deletions (s : Store) : List Action → List (Action × Deletion)
  | [] => []
  | a :: rest => ((s.deletion? a).map (a, ·)).toList ++ (s.after a).deletions rest

/-- An action changes the collections by the deletion that it makes, and by nothing else. -/
theorem resources_after_eq (s : Store) (a : Action) :
    (s.after a).resources = (s.without ((s.deletion? a).map (a, ·) |>.toList.map Prod.snd)).resources := by
  have hnone : s.resources = (s.without []).resources := by rw [without_nil]
  cases a with
  | startJob deletion => exact (startJob_keeps resources (fun _ _ _ => rfl) s deletion).trans hnone
  | pollJob id =>
    rw [after, deletion?]
    cases hjob : s.job? id with
    | none =>
      rw [pollJob_of_none hjob]
      exact hnone
    | some task =>
      rw [(pollJob_of_job? hjob).2, Option.bind_some, elim_apply_eq_without]
      cases task.nextDeletion <;> rfl
  | deleteServiceInstance id => exact congrArg resources (apply_eq_without s (.serviceInstance id))
  | deleteSpace id => exact congrArg resources (apply_eq_without s (.space id))
  | setJobScript | setJobFailure => exact hnone

/-- What remains of the collections after a history is what no deletion takes that is made in it. -/
theorem resources_afterAll (s : Store) (history : List Action) :
    (s.afterAll history).resources = (s.without ((s.deletions history).map Prod.snd)).resources := by
  induction history generalizing s with
  | nil => exact congrArg resources (without_nil s).symm
  | cons a rest ih =>
    rw [show s.afterAll (a :: rest) = (s.after a).afterAll rest from rfl, ih, resources_without (resources_after_eq s a),
      without_without, deletions, List.map_append]

/-- A deletion is made in a history where an action of it makes the deletion. -/
theorem mem_deletions {s : Store} {history : List Action} {a : Action} {d : Deletion} :
    (a, d) ∈ s.deletions history ↔
      ∃ before since, history = before ++ a :: since ∧ (s.afterAll before).deletion? a = some d := by
  induction history generalizing s with
  | nil => simp [deletions]
  | cons b rest ih =>
    rw [deletions, List.mem_append, ih]
    constructor
    · rintro (hfirst | ⟨before, since, rfl, hd⟩)
      · simp only [Option.mem_toList, Option.map_eq_some_iff, Prod.mk.injEq] at hfirst
        obtain ⟨_, hd, rfl, rfl⟩ := hfirst
        exact ⟨[], rest, rfl, hd⟩
      · exact ⟨b :: before, since, rfl, hd⟩
    · rintro ⟨before, since, hsplit, hd⟩
      cases before with
      | nil =>
        obtain ⟨rfl, rfl⟩ := List.cons.inj hsplit
        left
        simp only [Option.mem_toList, Option.map_eq_some_iff]
        exact ⟨d, hd, rfl⟩
      | cons b' before =>
        obtain ⟨rfl, rfl⟩ := List.cons.inj hsplit
        exact Or.inr ⟨before, since, rfl, hd⟩

/-- A job has the deletion that it had at first, or that it was started with. -/
theorem deletion_of_job {s : Store} {history : List Action} {id : String} {task : Task} {d : Deletion}
    (hjob : (s.afterAll history).job? id = some task) (hd : task.deletion = some d) :
    (∃ t, s.job? id = some t ∧ t.deletion = some d) ∨ .startJob (some d) ∈ history := by
  induction history using List.reverseRecOn generalizing task with
  | nil => exact Or.inl ⟨task, hjob, hd⟩
  | append_singleton history a ih =>
    have hbefore : ∀ earlier, (s.afterAll history).job? id = some earlier → earlier.deletion = some d →
        (∃ t, s.job? id = some t ∧ t.deletion = some d) ∨ .startJob (some d) ∈ history ++ [a] :=
      fun _ hearlier hsame => (ih hearlier hsame).imp_right (List.mem_append_left _)
    rw [afterAll_snoc, job?_after] at hjob
    cases a with
    | startJob deletion =>
      cases hearlier : (s.afterAll history).job? id with
      | some earlier =>
        simp only [hearlier, Option.some_or, Option.some.injEq] at hjob
        exact hbefore earlier hearlier (hjob ▸ hd)
      | none =>
        simp only [hearlier, Option.none_or, Option.ite_none_right_eq_some, Option.some.injEq] at hjob
        obtain ⟨-, rfl⟩ := hjob
        obtain rfl : deletion = some d := hd
        exact Or.inr (List.mem_append_right _ List.mem_cons_self)
    | pollJob polled =>
      by_cases hid : id = polled
      · simp only [hid, if_true, Option.map_eq_some_iff] at hjob
        obtain ⟨earlier, hearlier, rfl⟩ := hjob
        -- A poll leaves the deletion of a job as it is, or takes it away.
        rw [Task.polled] at hd
        split at hd
        · cases hd
        · exact hbefore earlier (hid ▸ hearlier) hd
      · simp only [hid, if_false] at hjob
        exact hbefore task hjob hd
    | deleteServiceInstance | deleteSpace | setJobScript | setJobFailure => exact hbefore task hjob hd

/-! ## What a history calls for -/

/-- The deletions that a history calls for: those that it asks for, and those of jobs that are told finished by a poll. -/
inductive CallsFor (s : Store) (history : List Action) : Deletion → Prop
  | serviceInstance {id : String} (hasked : .deleteServiceInstance id ∈ history) : CallsFor s history (.serviceInstance id)
  | space {id : String} (hasked : .deleteSpace id ∈ history) : CallsFor s history (.space id)
  | job {before since : List Action} {id : String} {task : Task} {d : Deletion} (hpolled : history = before ++ .pollJob id :: since)
      (hjob : (s.afterAll before).job? id = some task) (hd : task.deletion = some d)
      (htold : ((s.afterAll before).pollJob id).1 = some (.finished, none)) : CallsFor s history d

/-- The deletions that are made in a history are those that it calls for. -/
theorem callsFor_iff {s : Store} {history : List Action} {d : Deletion} :
    s.CallsFor history d ↔ ∃ a, (a, d) ∈ s.deletions history := by
  simp only [mem_deletions]
  constructor
  · rintro (@⟨id, hasked⟩ | @⟨id, hasked⟩ | @⟨before, since, id, task, d, hpolled, hjob, hd, htold⟩)
    · obtain ⟨before, since, hsplit⟩ := List.append_of_mem hasked
      exact ⟨_, before, since, hsplit, rfl⟩
    · obtain ⟨before, since, hsplit⟩ := List.append_of_mem hasked
      exact ⟨_, before, since, hsplit, rfl⟩
    · rw [(pollJob_of_job? hjob).1, Option.some.injEq, Prod.mk.injEq] at htold
      refine ⟨.pollJob id, before, since, hpolled, ?_⟩
      rw [deletion?, hjob, Option.bind_some, Task.nextDeletion, if_pos htold.1, hd]
  · rintro ⟨a, before, since, hsplit, hd⟩
    cases a with
    | startJob | setJobScript | setJobFailure => cases hd
    | pollJob id =>
      obtain ⟨task, hjob, hnext⟩ := Option.bind_eq_some_iff.mp hd
      rw [Task.nextDeletion, Option.ite_none_right_eq_some] at hnext
      refine .job hsplit hjob hnext.2 ?_
      rw [(pollJob_of_job? hjob).1, Task.nextFailure, hnext.1]
      rfl
    | deleteServiceInstance id =>
      cases hd
      exact .serviceInstance (hsplit ▸ List.mem_append_right _ List.mem_cons_self)
    | deleteSpace id =>
      cases hd
      exact .space (hsplit ▸ List.mem_append_right _ List.mem_cons_self)

theorem organizations_afterAll (s : Store) (history : List Action) : (s.afterAll history).organizations = s.organizations :=
  congrArg (·.1) (resources_afterAll s history)

theorem spaceQuotas_afterAll (s : Store) (history : List Action) : (s.afterAll history).spaceQuotas = s.spaceQuotas :=
  congrArg (·.2.2.1) (resources_afterAll s history)

theorem spaces_afterAll (s : Store) (history : List Action) :
    (s.afterAll history).spaces = s.spaces.filter fun x => !((s.deletions history).map Prod.snd).any (·.takesSpace x) :=
  congrArg (·.2.1) (resources_afterAll s history)

theorem serviceInstances_afterAll (s : Store) (history : List Action) :
    (s.afterAll history).serviceInstances =
      s.serviceInstances.filter fun i => !((s.deletions history).map Prod.snd).any (·.takesServiceInstance i) :=
  congrArg (·.2.2.2) (resources_afterAll s history)

/-- A space remains as long as the history does not call for its deletion. -/
theorem mem_spaces_afterAll {s : Store} {history : List Action} {x : Space} :
    x ∈ (s.afterAll history).spaces ↔ x ∈ s.spaces ∧ ¬s.CallsFor history (.space x.id) := by
  rw [spaces_afterAll, List.mem_filter, Bool.not_eq_true', Bool.eq_false_iff, ne_eq, List.any_eq_true]
  refine and_congr_right fun _ => not_congr ⟨?_, fun hcall => ?_⟩
  · rintro ⟨d, hd, htakes⟩
    obtain ⟨⟨a, d⟩, hmade, rfl⟩ := List.mem_map.mp hd
    cases d with
    | serviceInstance id => cases htakes
    | space id => exact callsFor_iff.mpr ⟨a, beq_iff_eq.mp htakes ▸ hmade⟩
  · obtain ⟨a, hmade⟩ := callsFor_iff.mp hcall
    exact ⟨.space x.id, List.mem_map.mpr ⟨_, hmade, rfl⟩, beq_self_eq_true x.id⟩

/-- A service instance remains as long as the history calls neither for its deletion nor for that of its space. -/
theorem mem_serviceInstances_afterAll {s : Store} {history : List Action} {i : ServiceInstance} :
    i ∈ (s.afterAll history).serviceInstances ↔ i ∈ s.serviceInstances ∧
      ¬(s.CallsFor history (.serviceInstance i.id) ∨ ∃ id, i.spaceId = some id ∧ s.CallsFor history (.space id)) := by
  rw [serviceInstances_afterAll, List.mem_filter, Bool.not_eq_true', Bool.eq_false_iff, ne_eq, List.any_eq_true]
  refine and_congr_right fun _ => not_congr ⟨?_, ?_⟩
  · rintro ⟨d, hd, htakes⟩
    obtain ⟨⟨a, d⟩, hmade, rfl⟩ := List.mem_map.mp hd
    cases d with
    | serviceInstance id => exact Or.inl (callsFor_iff.mpr ⟨a, beq_iff_eq.mp htakes ▸ hmade⟩)
    | space id => exact Or.inr ⟨id, beq_iff_eq.mp htakes, callsFor_iff.mpr ⟨a, hmade⟩⟩
  · rintro (hcall | ⟨id, hspace, hcall⟩)
    · obtain ⟨a, hmade⟩ := callsFor_iff.mp hcall
      exact ⟨.serviceInstance i.id, List.mem_map.mpr ⟨_, hmade, rfl⟩, beq_self_eq_true i.id⟩
    · obtain ⟨a, hmade⟩ := callsFor_iff.mp hcall
      exact ⟨.space id, List.mem_map.mpr ⟨_, hmade, rfl⟩, beq_iff_eq.mpr hspace⟩

/-! ## Coherent stores -/

/-- Whether the entities of a store have ids of their own, and every service instance that is in a space is in one of the store. -/
structure IsCoherent (s : Store) : Prop where
  organizations : (s.organizations.map (·.id)).Nodup
  spaces : (s.spaces.map (·.id)).Nodup
  spaceQuotas : (s.spaceQuotas.map (·.id)).Nodup
  serviceInstances : (s.serviceInstances.map (·.id)).Nodup
  housed : ∀ i ∈ s.serviceInstances, ∀ id ∈ i.spaceId, ∃ x ∈ s.spaces, x.id = id

/-- A coherent store remains coherent, whatever is done to it: a space goes together with the service instances in it. The
collections only lose what the history calls for, and keep the rest as it is and in its order; organizations and space quotas stay.
A deletion tells whether there was what it was to delete, and the deletion of a job is the one that it was started with. -/
theorem isCoherent_afterAll {s : Store} (hs : s.IsCoherent) (history : List Action) :
    let now := s.afterAll history
    now.IsCoherent ∧
      (now.organizations = s.organizations ∧ now.spaceQuotas = s.spaceQuotas ∧ now.spaces.Sublist s.spaces ∧
        now.serviceInstances.Sublist s.serviceInstances) ∧
      (∀ id, ((now.deleteSpace id).1 = true ↔ ∃ x ∈ now.spaces, x.id = id) ∧
        ((now.deleteServiceInstance id).1 = true ↔ ∃ i ∈ now.serviceInstances, i.id = id)) ∧
      (∀ x ∈ s.spaces, x ∉ now.spaces ↔ s.CallsFor history (.space x.id)) ∧
      (∀ i ∈ s.serviceInstances, i ∉ now.serviceInstances ↔
        s.CallsFor history (.serviceInstance i.id) ∨ ∃ id, i.spaceId = some id ∧ s.CallsFor history (.space id)) ∧
      ∀ id task d, now.job? id = some task → task.deletion = some d →
        (∃ t, s.job? id = some t ∧ t.deletion = some d) ∨ .startJob (some d) ∈ history := by
  intro now
  have hspaces : now.spaces.Sublist s.spaces := spaces_afterAll s history ▸ List.filter_sublist
  have hinstances : now.serviceInstances.Sublist s.serviceInstances := serviceInstances_afterAll s history ▸ List.filter_sublist
  have horganizations : now.organizations = s.organizations := organizations_afterAll s history
  have hquotas : now.spaceQuotas = s.spaceQuotas := spaceQuotas_afterAll s history
  have hcoherent : now.IsCoherent := by
    refine ⟨horganizations ▸ hs.organizations, hs.spaces.sublist (hspaces.map _), hquotas ▸ hs.spaceQuotas,
      hs.serviceInstances.sublist (hinstances.map _), fun i hi id hid => ?_⟩
    -- The space of a service instance that remains has not been called for, and so remains as well.
    obtain ⟨hi, hnot⟩ := mem_serviceInstances_afterAll.mp hi
    obtain ⟨x, hx, rfl⟩ := hs.housed i hi id hid
    exact ⟨x, mem_spaces_afterAll.mpr ⟨hx, fun hcall => hnot (Or.inr ⟨x.id, hid, hcall⟩)⟩, rfl⟩
  refine ⟨hcoherent, ⟨horganizations, hquotas, hspaces, hinstances⟩,
    fun id => ⟨deleteSpace_tells now id, deleteServiceInstance_tells now id⟩, fun x hx => ?_, fun i hi => ?_,
    fun _ _ _ => deletion_of_job⟩
  · rw [mem_spaces_afterAll, not_and_not_right]
    exact ⟨fun h => h hx, fun h _ => h⟩
  · rw [mem_serviceInstances_afterAll, not_and_not_right]
    exact ⟨fun h => h hi, fun h _ => h⟩

/-- Two jobs of a small platform, of which the first one deletes a space. The second one is told finished when its service instance has
gone with the space, and another deletion of the space comes too late. -/
theorem isCoherent_afterAll_standard :
    let s := Scenario.standard
    let history : List Action :=
      [.startJob (some (.space "space-2")), .startJob (some (.serviceInstance "si-3")), .pollJob "job-1", .pollJob "job-2",
        .pollJob "job-1", .deleteServiceInstance "si-1", .pollJob "job-1", .pollJob "job-2", .pollJob "job-2", .deleteSpace "space-2"]
    let now := s.afterAll history
    s.IsCoherent ∧ now.IsCoherent ∧ now.serviceInstances = [Scenario.userProvided "si-2" "my-creds" "space-1"] ∧
      (now.deleteSpace "space-2").1 = false ∧ s.CallsFor history (.space "space-2") := by
  intro s history now
  have hs : s.IsCoherent := ⟨by decide, by decide, by decide, by decide, by decide +kernel⟩
  obtain ⟨hnow, -, htells, htaken, -⟩ := isCoherent_afterAll hs history
  have hleft : now.serviceInstances = [Scenario.userProvided "si-2" "my-creds" "space-1"] := by decide +kernel
  have hspace : ¬∃ x ∈ now.spaces, x.id = "space-2" := by decide +kernel
  refine ⟨hs, hnow, hleft, Bool.eq_false_iff.mpr fun h => hspace ((htells "space-2").1.mp h), ?_⟩
  exact (htaken (Scenario.space "space-2" "prod" "org-1") (by decide +kernel)).mp fun h => hspace ⟨_, h, rfl⟩

end Store

end ControlPlane.Platform
