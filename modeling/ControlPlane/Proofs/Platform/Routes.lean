import ControlPlane.Proofs.Platform.Listing

/-!
# Paths of single things

A path that ends in an id leads along a route with that id, to a space, a service instance or a job, so that these can be asked for
or deleted at a platform.
-/

namespace ControlPlane.Platform

/-- A path that ends in an id leads along the route of the words before it. -/
theorem isAlong_last {id : String} (hid : IsScope id) (route : String → Route) (root parent : String)
    (hroot : Url.IsPlainSegment root) (hparent : parent ∈ Route.words)
    (halong : ∀ x : String, x.isEmpty = false → Route.along? [root, parent, x] = some (route x))
    (hplain : ∀ x, (route x).plain? = (Route.plainSegment? x).map route) :
    (route id).IsAlong (root ++ "/" ++ parent ++ "/" ++ Url.segmentText id) := by
  refine isAlong_id hid route hroot (fun w hw => List.mem_singleton.mp hw ▸ hparent) halong hplain ?_
  rw [Url.pathText_last]

/-- The routes along an id that is there, at the end. -/
theorem along?_last {x : String} (h : x.isEmpty = false) :
    Route.along? ["v2", "spaces", x] = some (.space x) ∧
      Route.along? ["v2", "service_instances", x] = some (.serviceInstance x) ∧
      Route.along? ["v2", "user_provided_service_instances", x] = some (.userProvidedServiceInstance x) ∧
      Route.along? ["v2", "jobs", x] = some (.job .v2 x) ∧
      Route.along? ["v3", "jobs", x] = some (.job .v3 x) := by
  simp only [Route.along?, h, Bool.false_eq_true, if_false, and_self]

variable {id : String}

theorem isAlong_space (hid : IsScope id) : (Route.space id).IsAlong ("v2/spaces/" ++ Url.segmentText id) :=
  isAlong_last hid .space "v2" "spaces" isPlainSegment_versions.1 (by decide) (fun _ hx => (along?_last hx).1) fun _ => rfl

theorem isAlong_serviceInstance (hid : IsScope id) :
    (Route.serviceInstance id).IsAlong ("v2/service_instances/" ++ Url.segmentText id) :=
  isAlong_last hid .serviceInstance "v2" "service_instances" isPlainSegment_versions.1 (by decide)
    (fun _ hx => (along?_last hx).2.1) fun _ => rfl

theorem isAlong_userProvidedServiceInstance (hid : IsScope id) :
    (Route.userProvidedServiceInstance id).IsAlong ("v2/user_provided_service_instances/" ++ Url.segmentText id) :=
  isAlong_last hid .userProvidedServiceInstance "v2" "user_provided_service_instances" isPlainSegment_versions.1 (by decide)
    (fun _ hx => (along?_last hx).2.2.1) fun _ => rfl

theorem isAt_job (hid : IsScope id) (version : Job.Version) : (Route.job version id).IsAt (Client.jobPath version id) := by
  refine ⟨?_, rfl⟩
  cases version with
  | v2 =>
    exact isAlong_last hid (.job .v2) "v2" "jobs" isPlainSegment_versions.1 (by decide) (fun _ hx => (along?_last hx).2.2.2.1)
      fun _ => rfl
  | v3 =>
    exact isAlong_last hid (.job .v3) "v3" "jobs" isPlainSegment_versions.2 (by decide) (fun _ hx => (along?_last hx).2.2.2.2)
      fun _ => rfl

end ControlPlane.Platform
