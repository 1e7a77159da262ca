import ControlPlane.Platform.Store
import Mathlib.Data.List.Basic

/-!
# What a deletion takes

The deletion of a service instance takes the one with its id, and that of a space takes the space with its id together with the service
instances in it; everything else stays as it is and in its order (`Store.apply_eq_without`). A deletion tells whether there was
something with its id.
-/

namespace ControlPlane.Platform

namespace Deletion

/-- Whether a deletion takes a space: the one with its id. -/
def takesSpace : Deletion → Space → Bool
  | .space id, x => x.id == id
  | .serviceInstance _, _ => false

/-- Whether a deletion takes a service instance: the one with its id, or one in the space with its id. -/
def takesServiceInstance : Deletion → ServiceInstance → Bool
  | .serviceInstance id, i => i.id == id
  | .space id, i => i.spaceId == some id

end Deletion

namespace Store

/-- The collections of a store. -/
def resources (s : Store) : List Organization × List Space × List SpaceQuota × List ServiceInstance :=
  (s.organizations, s.spaces, s.spaceQuotas, s.serviceInstances)

/-- The store without what deletions take. -/
def without (s : Store) (ds : List Deletion) : Store :=
  { s with
    spaces := s.spaces.filter fun x => !ds.any (·.takesSpace x)
    serviceInstances := s.serviceInstances.filter fun i => !ds.any (·.takesServiceInstance i) }

theorem without_nil (s : Store) : s.without [] = s := by
  simp only [without, List.any_nil, Bool.not_false, List.filter_true]

/-- A deletion leaves what it does not take. -/
theorem apply_eq_without (s : Store) (d : Deletion) : s.apply d = s.without [d] := by
  cases d with
  | serviceInstance id =>
    simp only [without, List.any_cons, List.any_nil, Bool.or_false, Deletion.takesSpace, Deletion.takesServiceInstance, Bool.not_false,
      List.filter_true]
    rfl
  | space id =>
    simp only [without, List.any_cons, List.any_nil, Bool.or_false, Deletion.takesSpace, Deletion.takesServiceInstance]
    rfl

/-- A deletion that may be due leaves what it does not take. -/
theorem elim_apply_eq_without (s : Store) (due : Option Deletion) : due.elim s s.apply = s.without due.toList := by
  cases due with
  | none => exact (without_nil s).symm
  | some d => exact apply_eq_without s d

/-- What is left by deletions, one after the other, is what none of them takes. -/
theorem without_without (s : Store) (ds es : List Deletion) : (s.without ds).without es = s.without (ds ++ es) := by
  simp only [without, List.filter_filter, List.any_append, Bool.not_or, Bool.and_comm]

/-- Deletions leave the same of collections that are the same. -/
theorem resources_without {s u : Store} (h : s.resources = u.resources) (ds : List Deletion) :
    (s.without ds).resources = (u.without ds).resources := by
  simp only [resources, Prod.mk.injEq] at h
  simp only [resources, without, h]

/-! ## What a deletion tells -/

/-- A list is as long as before where nothing was taken from it. -/
theorem length_left {α : Type} (p : α → Bool) (items : List α) :
    ((items.filter fun x => !p x).length != items.length) = items.any p := by
  rw [Bool.eq_iff_iff, bne_iff_ne, ne_eq, List.length_filter_eq_length_iff, List.any_eq_true]
  simp

theorem deleteServiceInstance_fst (s : Store) (id : String) :
    (s.deleteServiceInstance id).1 = s.serviceInstances.any (·.id == id) :=
  length_left (fun i : ServiceInstance => i.id == id) s.serviceInstances

theorem deleteSpace_fst (s : Store) (id : String) : (s.deleteSpace id).1 = s.spaces.any (·.id == id) :=
  length_left (fun x : Space => x.id == id) s.spaces

/-- A deletion tells whether there was what it was to delete. -/
theorem deleteSpace_tells (s : Store) (id : String) : (s.deleteSpace id).1 = true ↔ ∃ x ∈ s.spaces, x.id = id := by
  rw [deleteSpace_fst]
  simp only [List.any_eq_true, beq_iff_eq]

theorem deleteServiceInstance_tells (s : Store) (id : String) :
    (s.deleteServiceInstance id).1 = true ↔ ∃ i ∈ s.serviceInstances, i.id = id := by
  rw [deleteServiceInstance_fst]
  simp only [List.any_eq_true, beq_iff_eq]

end Store

end ControlPlane.Platform
