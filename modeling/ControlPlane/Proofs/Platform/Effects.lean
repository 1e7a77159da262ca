import ControlPlane.Proofs.Platform.Answers
import ControlPlane.Proofs.Platform.Histories

/-!
# What requests do to a store

A request is refused before the store is looked at, or it is answered along the route that it leads to. Only a request for a deletion is
accepted, and it starts a job for the deletion that it asks for (`respond_of_accepted`); any other request does at most one thing to the
store (`respond_acts`).
-/

namespace ControlPlane.Platform

variable {s : Store} {a : Arrival}

/-! ## Responses of success -/

theorem status_strip (method : Http.Method) (r : Http.Response) : (strip method r).status = r.status := by
  unfold strip
  split <;> rfl

/-- A response is one of success, whatever its method does not ask for. -/
theorem isSuccess_strip (method : Http.Method) (r : Http.Response) : (strip method r).isSuccess = r.isSuccess := by
  rw [Http.Response.isSuccess, status_strip, Http.Response.isSuccess]

/-- A request that leads nowhere is refused. -/
theorem isSuccess_of_routed {r : Http.Response} (h : routed a = .error r) : r.isSuccess = false := by
  unfold routed at h
  split at h
  · cases h
    rfl
  · split at h
    · split at h
      · cases h
        rfl
      · split at h <;> cases h
        rfl
    · cases h
      rfl

/-- A request that leads nowhere is not accepted. -/
theorem status_of_routed {r : Http.Response} (h : routed a = .error r) : r.status ≠ 202 := by
  intro haccepted
  have hrefused := isSuccess_of_routed h
  rw [Http.Response.isSuccess, haccepted] at hrefused
  cases hrefused

/-! ## Requests for a deletion -/

/-- The deletion that a job can make of what a route leads to. -/
def Route.deletion? : Route → Option Deletion
  | .space id => some (.space id)
  | .serviceInstance id => some (.serviceInstance id)
  | _ => none

/-- Whether a request asks for a deletion that a job can make. -/
def Arrival.AsksFor (a : Arrival) (d : Deletion) : Prop := ∃ route, routed a = .ok route ∧ route.deletion? = some d

/-- The response to a request for a deletion that the job of an id is to make. -/
def accepted (id : String) : Http.Response := jsonResponse 202 (jobJson .v2 id .queued none)

/-- A deletion that is to be made by a job starts the job. -/
theorem delete_asJob (s : Store) (d : Deletion) :
    delete s true d = (accepted (s.startJob (some d)).1.id, (s.startJob (some d)).2) := by
  rw [delete, if_pos rfl]
  rfl

/-- An answer accepts a deletion for a job, or does at most one thing to the store. -/
theorem answer_cases (s : Store) (pairs : List (String × String)) (route : Route) :
    (∃ d, route.deletion? = some d ∧ answer s pairs route = delete s true d) ∨
      ((answer s pairs route).1.status ≠ 202 ∧ ((answer s pairs route).2 = s ∨ ∃ action, (answer s pairs route).2 = s.after action)) := by
  have hok : (200 : UInt16) ≠ 202 := by decide
  have hdone : (204 : UInt16) ≠ 202 := by decide
  have hmissing : (404 : UInt16) ≠ 202 := by decide
  cases route with
  | health | organizations | spaces | spaceQuotas | serviceInstances => exact Or.inr ⟨hok, Or.inl rfl⟩
  | space id =>
    rw [answer]
    split
    · cases asksForJob pairs with
      | true => exact Or.inl ⟨_, rfl, rfl⟩
      | false => exact Or.inr ⟨hdone, Or.inr ⟨.deleteSpace id, rfl⟩⟩
    · exact Or.inr ⟨hmissing, Or.inl rfl⟩
  | serviceInstance id =>
    rw [answer]
    split
    · cases asksForJob pairs with
      | true => exact Or.inl ⟨_, rfl, rfl⟩
      | false => exact Or.inr ⟨hdone, Or.inr ⟨.deleteServiceInstance id, rfl⟩⟩
    · exact Or.inr ⟨hmissing, Or.inl rfl⟩
  | userProvidedServiceInstance id =>
    right
    rw [answer]
    split
    · exact ⟨hdone, Or.inr ⟨.deleteServiceInstance id, rfl⟩⟩
    · exact ⟨hmissing, Or.inl rfl⟩
  | job version id =>
    right
    have hafter : (s.pollJob id).2 = s.after (.pollJob id) := rfl
    rw [answer]
    split
    · next hpoll =>
      rw [hpoll] at hafter
      exact ⟨hok, Or.inr ⟨_, hafter⟩⟩
    · next hpoll =>
      rw [hpoll] at hafter
      exact ⟨hmissing, Or.inr ⟨_, hafter⟩⟩

/-- A request along a route to what a job can delete asks for more than the head of a response. -/
theorem method_of_deletion? {route : Route} {d : Deletion} (hrouted : routed a = .ok route)
    (hd : route.deletion? = some d) : a.method ≠ .head := by
  obtain ⟨raw, -, hallows, hplain, -⟩ := routed_eq_ok.mp hrouted
  have hdeletable : raw.isDeletable = true := by
    rw [Route.isDeletable_of_plain? hplain]
    cases route with
    | space | serviceInstance => rfl
    | _ => cases hd
  intro hhead
  rw [hhead, Route.allows, hdeletable] at hallows
  cases hallows

/-- A response to a request accepts a deletion that it asks for, or does at most one thing to the store. -/
theorem respond_cases (s : Store) (a : Arrival) :
    (∃ d, a.AsksFor d ∧ respond s a = delete s true d) ∨
      ((respond s a).1.status ≠ 202 ∧ ((respond s a).2 = s ∨ ∃ action, (respond s a).2 = s.after action)) := by
  rw [respond]
  cases hrouted : routed a with
  | error r =>
    right
    refine ⟨?_, Or.inl rfl⟩
    rw [status_strip]
    exact status_of_routed hrouted
  | ok route =>
    dsimp only
    split
    · rcases answer_cases s a.pairs route with ⟨d, hd, hanswer⟩ | ⟨hstatus, hstore⟩
      · left
        refine ⟨d, ⟨route, hrouted, hd⟩, ?_⟩
        rw [strip, if_neg (method_of_deletion? hrouted hd), hanswer]
      · right
        rw [status_strip]
        exact ⟨hstatus, hstore⟩
    · right
      refine ⟨?_, Or.inl rfl⟩
      rw [status_strip]
      decide

/-- A request is accepted only for a deletion that it asks for, by the job that is started. -/
theorem respond_of_accepted (h : (respond s a).1.status = 202) :
    ∃ d, a.AsksFor d ∧ respond s a = (accepted (s.startJob (some d)).1.id, (s.startJob (some d)).2) := by
  rcases respond_cases s a with ⟨d, hd, hrespond⟩ | ⟨hstatus, -⟩
  · exact ⟨d, hd, hrespond.trans (delete_asJob s d)⟩
  · exact absurd h hstatus

/-- A request does at most one thing to the store. -/
theorem respond_acts (s : Store) (a : Arrival) : (respond s a).2 = s ∨ ∃ action, (respond s a).2 = s.after action := by
  rcases respond_cases s a with ⟨d, -, hrespond⟩ | ⟨-, hstore⟩
  · rw [hrespond, delete_asJob]
    exact Or.inr ⟨.startJob (some d), rfl⟩
  · exact hstore

end ControlPlane.Platform
