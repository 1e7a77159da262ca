import ControlPlane.Platform.Scenario
import ControlPlane.Proofs.Exchange.Headers
import ControlPlane.Proofs.Platform.Effects

/-!
# Without the token nothing is shown and nothing is done

A platform that requires a token answers a request that does not show it by the request alone (`respond_eq_untokened`): the response
tells nothing of what the platform holds, and the platform stays as it is. Such a request also leaves no trace among others
(`serve_filter`). The main statement is `respond_without_token`.
-/

namespace ControlPlane

namespace Platform

/-! ## Requests that do not show the token -/

/-- The first credentials of a request that shows a token are those of the token, octet by octet. -/
theorem head?_of_shows {token : String} {authorization : List (List UInt8)} (h : shows token authorization = true) :
    authorization.head? = some (Text.octets ("Bearer " ++ token)) := by
  obtain ⟨v, hv, ht⟩ := Option.bind_eq_some_iff.mp (beq_iff_eq.mp h)
  rw [hv, (Http.plainText?_eq_some_iff.mp ht).1]

/-- The response to a request that does not show the token. -/
def Arrival.untokened (a : Arrival) : Http.Response :=
  strip a.method <|
    match routed a with
    | .error r => r
    | .ok .health => plainResponse 200 "ok"
    | .ok _ => unauthorized

variable {s : Store} {token : String} {a : Arrival}

/-- A request that does not show the token is answered by itself alone, and leaves the platform as it is. -/
theorem respond_eq_untokened (hs : s.requiredToken = some token) (ha : shows token a.authorization = false) :
    respond s a = (a.untokened, s) := by
  have hadmits : ∀ route, admits s.requiredToken a.authorization route = (route == .health) := fun route => by
    rw [admits, hs, Option.all_some, ha, Bool.or_false]
  rw [respond, Arrival.untokened]
  cases routed a with
  | error r => rfl
  | ok route =>
    -- Only the question for health goes on, and the answer to it is always the same.
    simp only [hadmits]
    cases route <;> rfl

/-! ## Responses of success -/

/-- Only one sequence of segments leads to the question for health. -/
theorem Route.eq_of_along {segments : List String} (h : Route.along? segments = some .health) : segments = ["health"] := by
  unfold Route.along? at h
  split at h
  case h_1 => rfl
  all_goals first | (split at h <;> cases h) | cases h

/-- The path of segments that stand in it. -/
theorem Route.eq_of_segments {path : String} {segments : List String} (h : Route.segments? path = some segments) :
    path.toList = segments.flatMap ('/' :: ·.toList) := by
  unfold Route.segments? at h
  split at h
  · next parts hparts =>
    obtain rfl := Option.some.inj h
    rw [Text.eq_of_split hparts, List.nil_append, List.flatMap_map]
    simp only [String.toList_ofList]
  · cases h

/-- Only one path leads to the question for health. -/
theorem path_of_routed (h : routed a = .ok .health) : a.path = "/health" := by
  obtain ⟨raw, hraw, -, hplain, -⟩ := routed_eq_ok.mp h
  -- No other route becomes this one when its id is read.
  have hhealth : raw = .health := by
    cases raw <;> simp [Route.plain?, Route.mapId] at hplain ⊢
  obtain ⟨segments, hsegments, halong⟩ := Option.bind_eq_some_iff.mp hraw
  obtain rfl := Route.eq_of_along (hhealth ▸ halong)
  exact String.toList_inj.mp (Route.eq_of_segments hsegments)

/-- A response to a request that does not show the token is one of success only to the question for health. -/
theorem Arrival.path_of_untokened (h : a.untokened.isSuccess = true) : a.path = "/health" := by
  rw [untokened, isSuccess_strip] at h
  cases hrouted : routed a with
  | error r =>
    rw [hrouted, isSuccess_of_routed hrouted] at h
    cases h
  | ok route =>
    rw [hrouted] at h
    cases route with
    | health => exact path_of_routed hrouted
    | organizations | spaces | spaceQuotas | serviceInstances | space | serviceInstance | userProvidedServiceInstance | job => cases h

/-! ## One request -/

/-- Platforms that require the same token give the same response to a request that does not show it, whatever they hold, and stay as
they are. It is a response of success only to the question for health. -/
theorem respond_without_token {s u : Store} {token : String} (hs : s.requiredToken = some token) (hu : u.requiredToken = some token)
    {a : Arrival} (ha : a.authorization.head? ≠ some (Text.octets ("Bearer " ++ token))) :
    (respond s a).1 = (respond u a).1 ∧ (respond s a).2 = s ∧ (respond u a).2 = u ∧
      ((respond s a).1.isSuccess = true → a.path = "/health") := by
  have hshows : shows token a.authorization = false := Bool.eq_false_iff.mpr fun h => ha (head?_of_shows h)
  rw [respond_eq_untokened hs hshows, respond_eq_untokened hu hshows]
  exact ⟨rfl, rfl, rfl, Arrival.path_of_untokened⟩

/-- Whoever shows another token cannot tell a platform with entities from an empty one, and does not have a space deleted. -/
theorem respond_without_token_standard :
    let s : Store := { Scenario.standard with requiredToken := some "token" }
    let u : Store := { requiredToken := some "token" }
    let a : Arrival :=
      { method := .delete, path := "/v2/spaces/space-1", query := some "async=true&recursive=true"
        authorization := [Text.octets "Bearer other", Text.octets "Bearer token"] }
    s.requiredToken = some "token" ∧ u.requiredToken = some "token" ∧
      a.authorization.head? ≠ some (Text.octets ("Bearer " ++ "token")) ∧ (respond s a).1 = (respond u a).1 ∧ (respond s a).2 = s ∧
      (respond s a).1.isSuccess = false := by
  intro s u a
  have ha : a.authorization.head? ≠ some (Text.octets ("Bearer " ++ "token")) := by decide +kernel
  obtain ⟨hsame, hs, -, hsuccess⟩ := respond_without_token (s := s) (u := u) rfl rfl ha
  exact ⟨rfl, rfl, ha, hsame, hs, Bool.eq_false_iff.mpr fun h => absurd (hsuccess h) (by decide)⟩

/-! ## Many requests -/

/-- The answers to requests, one after the other, and the store after them. -/
def serve (s : Store) : List Arrival → List (Arrival × Http.Response) × Store
  | [] => ([], s)
  | a :: rest =>
    let (r, s) := respond s a
    let (answers, s) := serve s rest
    ((a, r) :: answers, s)

theorem Store.requiredToken_apply (s : Store) (d : Deletion) : (s.apply d).requiredToken = s.requiredToken := by
  cases d <;> rfl

/-- Nothing that is done to a store changes the token that it requires. -/
theorem Store.requiredToken_after (s : Store) (a : Action) : (s.after a).requiredToken = s.requiredToken := by
  cases a with
  | startJob deletion => exact startJob_keeps requiredToken (fun _ _ _ => rfl) s deletion
  | pollJob id => exact pollJob_keeps requiredToken (fun _ _ => rfl) requiredToken_apply s id
  | deleteServiceInstance | deleteSpace | setJobScript | setJobFailure => rfl

/-- No request changes the token that is required. -/
theorem requiredToken_respond (s : Store) (a : Arrival) : (respond s a).2.requiredToken = s.requiredToken := by
  rcases respond_acts s a with hsame | ⟨action, hafter⟩
  · rw [hsame]
  · rw [hafter]
    exact s.requiredToken_after action

/-- Requests that do not show the token leave no trace among others: without them the others have the same answers, and the store
comes to be the same. -/
theorem serve_filter (hs : s.requiredToken = some token) (arrivals : List Arrival) :
    serve s (arrivals.filter fun a => shows token a.authorization) =
      ((serve s arrivals).1.filter fun entry => shows token entry.1.authorization, (serve s arrivals).2) := by
  induction arrivals generalizing s with
  | nil => rfl
  | cons a rest ih =>
    cases ha : shows token a.authorization with
    | false =>
      rw [serve, respond_eq_untokened hs ha]
      simp only [List.filter_cons, ha, Bool.false_eq_true, if_false]
      exact ih hs
    | true =>
      have hrest := ih ((requiredToken_respond s a).trans hs)
      simp only [List.filter_cons, ha, if_true, serve, hrest]

end Platform

end ControlPlane
