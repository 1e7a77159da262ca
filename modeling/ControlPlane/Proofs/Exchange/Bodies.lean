import ControlPlane.Platform.Responder

/-!
# How bodies are read

Which text the octets of a body are read as is up to the HTTP library (`Http.TextReader`). It goes by the character set that the header
for the content names, and takes UTF-8 where none is named (`Http.TextReader.ReadsUtf8`). What a platform responds is written so that
every such reader gets the text that was written: `Platform.readBy_respond`.
-/

namespace ControlPlane

/-! ## Readers -/

namespace Http

/-- How octets that come with headers are read as a text. -/
abbrev TextReader := List Header → List UInt8 → String

/-- The response with the body as a reader reads it. -/
def Response.readBy (reads : TextReader) (r : Response) : Response :=
  { r with body := r.body.map fun body => ⟨body.octets, reads r.headers body.octets⟩ }

/-- Whether the header for the content has no parameters that could name a character set, or names UTF-8. -/
def Response.IsUtf8 (r : Response) : Prop :=
  ∀ value, r.header? "content-type" = some value → (0x3b : UInt8) ∉ value ∨ value = Text.octets "text/plain; charset=utf-8"

/-- Whether a reader takes octets for UTF-8 where no other character set is named. A mark of the character set before the text would be
taken off. -/
def TextReader.ReadsUtf8 (reads : TextReader) : Prop :=
  ∀ (r : Response) (text : String), r.IsUtf8 → text.toList.head? ≠ some '\ufeff' → reads r.headers (Text.octets text) = text

/-- Whether the body of a response is a text in UTF-8, and its headers say nothing else. -/
def Response.IsWritten (r : Response) : Prop :=
  r.IsUtf8 ∧ ∃ text, r.body = some (.written text) ∧ text.toList.head? ≠ some '\ufeff'

/-- A response whose body is written in UTF-8 is read as it was written. -/
theorem Response.IsWritten.readBy {reads : TextReader} (hreads : reads.ReadsUtf8) {r : Response} (h : r.IsWritten) :
    r.readBy reads = r := by
  obtain ⟨hutf8, text, hbody, hmark⟩ := h
  have hread : (⟨(Body.written text).octets, reads r.headers (Body.written text).octets⟩ : Body) = .written text :=
    congrArg (Body.mk _) (hreads r text hutf8 hmark)
  rw [Response.readBy, hbody, Option.map_some, hread, ← hbody]

end Http

/-! ## What a platform writes -/

namespace Platform

theorem isWritten_emptyResponse (status : UInt16) : (emptyResponse status).IsWritten :=
  ⟨nofun, "", rfl, nofun⟩

theorem header?_jsonResponse (status : UInt16) (v : Json) :
    (jsonResponse status v).header? "content-type" = some (Text.octets "application/json") := by
  show Option.map _ (List.find? _ [(⟨"content-type", Text.octets "application/json"⟩ : Http.Header)]) = _
  decide +kernel

theorem header?_plainResponse (status : UInt16) (text : String) :
    (plainResponse status text).header? "content-type" = some (Text.octets "text/plain; charset=utf-8") := by
  show Option.map _ (List.find? _ [(⟨"content-type", Text.octets "text/plain; charset=utf-8"⟩ : Http.Header)]) = _
  decide +kernel

/-- A JSON object is written in UTF-8. -/
theorem isWritten_jsonResponse (status : UInt16) (members : List (String × Json)) :
    (jsonResponse status (.object members)).IsWritten := by
  refine ⟨fun value hvalue => ?_, (Json.object members).compact, rfl, ?_⟩
  · rw [header?_jsonResponse, Option.some.injEq] at hvalue
    subst hvalue
    exact Or.inl (by decide +kernel)
  · rw [Json.compact, String.toList_append, String.toList_append]
    exact (by decide : some '\x7b' ≠ some '\ufeff')

/-- A plain text without a mark before it is written in UTF-8. -/
theorem isWritten_plainResponse (status : UInt16) {text : String} (h : text.toList.head? ≠ some '\ufeff') :
    (plainResponse status text).IsWritten := by
  refine ⟨fun value hvalue => ?_, text, rfl, h⟩
  rw [header?_plainResponse, Option.some.injEq] at hvalue
  exact Or.inr hvalue.symm

theorem isWritten_refusal (status : UInt16) (code : Nat) (name description : String) :
    (refusal status code name description).IsWritten := isWritten_jsonResponse status _

theorem isWritten_unreadableOptions (fault : String) : (unreadableOptions fault).IsWritten := by
  refine isWritten_plainResponse 400 ?_
  rw [String.toList_append]
  exact (by decide : some 'F' ≠ some '\ufeff')

theorem isWritten_job (version : Job.Version) (id : String) (state : Job.State) (failure : Option Job.ErrorDetails) (status : UInt16) :
    (jsonResponse status (jobJson version id state failure)).IsWritten := by
  cases version with
  | v2 => exact isWritten_jsonResponse status _
  | v3 => exact isWritten_jsonResponse status _

theorem isWritten_delete (s : Store) (asJob : Bool) (deletion : Deletion) : (delete s asJob deletion).1.IsWritten := by
  cases asJob with
  | true => exact isWritten_job .v2 _ .queued none 202
  | false => exact isWritten_emptyResponse 204

/-- What is left of a response without its body is written in UTF-8. -/
theorem isWritten_strip (method : Http.Method) {r : Http.Response} (h : r.IsWritten) : (strip method r).IsWritten := by
  unfold strip
  split
  · exact ⟨h.1, "", rfl, nofun⟩
  · exact h

/-- A request that leads nowhere is refused in UTF-8. -/
theorem isWritten_of_routed {a : Arrival} {r : Http.Response} (h : routed a = .error r) : r.IsWritten := by
  unfold routed at h
  split at h
  · cases h
    exact isWritten_emptyResponse 404
  · split at h
    · split at h
      · cases h
        exact isWritten_plainResponse 400 (by decide +kernel)
      · split at h <;> cases h
        exact isWritten_unreadableOptions _
    · cases h
      exact isWritten_emptyResponse 405

/-- Every answer along a route is written in UTF-8. -/
theorem isWritten_answer (s : Store) (pairs : List (String × String)) (route : Route) : (answer s pairs route).1.IsWritten := by
  cases route with
  | health => exact isWritten_plainResponse 200 (by decide +kernel)
  | organizations | spaces | spaceQuotas | serviceInstances => exact isWritten_jsonResponse 200 _
  | space | serviceInstance | userProvidedServiceInstance =>
    rw [answer]
    split
    · exact isWritten_delete s _ _
    · exact isWritten_refusal 404 _ _ _
  | job version id =>
    rw [answer]
    split
    · exact isWritten_job version id _ _ 200
    · exact isWritten_refusal 404 _ _ _

/-- Every response of a platform is read as it was written. -/
theorem readBy_respond {reads : Http.TextReader} (hreads : reads.ReadsUtf8) (s : Store) (a : Arrival) :
    (respond s a).1.readBy reads = (respond s a).1 := by
  refine Http.Response.IsWritten.readBy hreads ?_
  unfold respond
  cases hrouted : routed a with
  | error r => exact isWritten_strip a.method (isWritten_of_routed hrouted)
  | ok route =>
    dsimp only
    split
    · exact isWritten_strip a.method (isWritten_answer s a.pairs route)
    · exact isWritten_strip a.method (isWritten_refusal 401 _ _ _)

end Platform

end ControlPlane
