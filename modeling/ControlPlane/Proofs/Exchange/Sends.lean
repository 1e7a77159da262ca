import ControlPlane.Client.Collections
import ControlPlane.Operation.Tracking

/-!
# What a course of exchanges sends

The activities of a session are all that a server sees of a client, so what a conversation does is told by the exchanges that
it adds to them. `Conversation.Sends` says so of a conversation: from any session on, it adds exchanges, and these and its
result are as told. A single request adds one exchange, or none where it cannot be sent: `Once`.
-/

namespace ControlPlane

variable {σ α β : Type}

/-- A request, and the reply that came back for it. -/
structure Exchange where
  request : Http.Request
  reply : Http.Reply

namespace Exchange

/-- An exchange as an activity. -/
def activity (x : Exchange) : Activity := .exchanged x.request x.reply

/-- The exchanges among activities. -/
def ofActivities (activities : List Activity) : List Exchange :=
  activities.filterMap fun
    | .exchanged request reply => some ⟨request, reply⟩
    | .entered _ => none

@[simp] theorem ofActivities_map (log : List Exchange) : ofActivities (log.map activity) = log := by
  induction log with
  | nil => rfl
  | cons x log ih => exact congrArg (x :: ·) ih

@[simp] theorem ofActivities_append (a b : List Activity) : ofActivities (a ++ b) = ofActivities a ++ ofActivities b :=
  List.filterMap_append

/-- What the response that came back says, where one of success came back and can be read. -/
def read (x : Exchange) (reader : Http.Response → Result α) : Option α :=
  match x.reply with
  | .dropped => none
  | .response r => (r.check.bind reader).toOption

/-- Where a response can be read, one of success came back. -/
theorem response_of_read {x : Exchange} {reader : Http.Response → Result α} {a : α} (h : x.read reader = some a) :
    ∃ r, x.reply = .response r ∧ r.isSuccess = true ∧ reader r = .ok a := by
  unfold read at h
  cases hx : x.reply with
  | dropped => rw [hx] at h; cases h
  | response r =>
    rw [hx] at h
    simp only [Http.Response.check] at h
    by_cases hs : r.isSuccess = true
    · rw [if_pos hs] at h
      refine ⟨r, rfl, hs, ?_⟩
      cases hr : reader r with
      | ok b => simpa [Except.bind, Except.toOption, hr] using h
      | error e => simp [Except.bind, Except.toOption, hr] at h
    · rw [if_neg hs] at h
      split at h <;> simp [Except.bind, Except.toOption] at h

end Exchange

/-! ## Sessions -/

namespace Session

/-- The exchanges of a session, in their order. -/
def exchanges (s : Session σ) : List Exchange := Exchange.ofActivities s.activities

/-- The session after more exchanges, with its server in another state. -/
def after (s : Session σ) (server : σ) (log : List Exchange) : Session σ :=
  { server, history := (log.map Exchange.activity).reverse ++ s.history }

@[simp] theorem after_nil (s : Session σ) : s.after s.server [] = s := rfl

@[simp] theorem after_after (s : Session σ) (t u : σ) (log more : List Exchange) :
    (s.after t log).after u more = s.after u (log ++ more) := by
  simp [after, List.map_append, List.reverse_append]

theorem activities_after (s : Session σ) (t : σ) (log : List Exchange) :
    (s.after t log).activities = s.activities ++ log.map Exchange.activity := by
  simp [activities, after]

/-- What is sent in exchanges is sent after what was sent before. -/
theorem requests_after (s : Session σ) (t : σ) (log : List Exchange) :
    (s.after t log).requests = s.requests ++ log.map (·.request) := by
  rw [requests, activities_after, List.filterMap_append, List.filterMap_map]
  exact congrArg (s.requests ++ ·) (congrFun List.filterMap_eq_map' log)

/-- Exchanges after exchanges are exchanges. -/
theorem after_trans {s t u : Session σ} {log more : List Exchange} (h : t = s.after t.server log)
    (h' : u = t.after u.server more) : u = s.after u.server (log ++ more) := by
  rw [← after_after s t.server, ← h, ← h']

/-- Exchanges do not change the phase of the operation under way. -/
@[simp] theorem phase_after (s : Session σ) (t : σ) (log : List Exchange) : (s.after t log).phase = s.phase := by
  simp only [phase, after, ← List.map_reverse]
  induction log.reverse with
  | nil => rfl
  | cons x log ih => exact ih

@[simp] theorem exchanges_after (s : Session σ) (t : σ) (log : List Exchange) :
    (s.after t log).exchanges = s.exchanges ++ log := by
  simp [exchanges, activities_after]

@[simp] theorem exchanges_entered (s : Session σ) (p : Phase) : (s.record (.entered p)).exchanges = s.exchanges := by
  simp [exchanges, activities, record, Exchange.ofActivities]

@[simp] theorem phase_entered (s : Session σ) (p : Phase) : (s.record (.entered p)).phase = p := rfl

@[simp] theorem exchanges_fail (s : Session σ) (e : Failure) : (s.fail e).exchanges = s.exchanges := by
  unfold fail
  split
  · rfl
  · exact exchanges_entered _ _

end Session

/-! ## Conversations and undertakings, step by step -/

namespace Conversation

@[simp] theorem runOn_of (f : Session σ → Result α × Session σ) (s : Session σ) : (of f).runOn s = f s := rfl

@[simp] theorem runOn_known (r : Result α) (s : Session σ) : (known (σ := σ) r).runOn s = (r, s) := rfl

@[simp] theorem runOn_pure (a : α) (s : Session σ) : (pure a : Conversation σ α).runOn s = (.ok a, s) := rfl

@[simp] theorem runOn_throw (e : Failure) (s : Session σ) : (throw e : Conversation σ α).runOn s = (.error e, s) := rfl

/-- A conversation goes on after a result, and ends with a failure. -/
theorem runOn_bind (c : Conversation σ α) (f : α → Conversation σ β) (s : Session σ) :
    (c >>= f).runOn s =
      match c.runOn s with
      | (.ok a, t) => (f a).runOn t
      | (.error e, t) => (.error e, t) := by
  simp only [runOn, bind, ExceptT.bind, ExceptT.run, ExceptT.mk, StateT.bind, StateT.run, ExceptT.bindCont]
  rcases c s with ⟨_ | _, _⟩ <;> rfl

/-- What a conversation comes to: from any session on it adds exchanges, and these and its result are as told. -/
def Sends (c : Conversation σ α) (told : List Exchange → Result α → Prop) : Prop :=
  ∀ s, ∃ log, (c.runOn s).2 = s.after (c.runOn s).2.server log ∧ told log (c.runOn s).1

/-- What is told of a conversation whose result is followed by another: of both, or of the first where it fails. -/
def Chained (told : List Exchange → Result α → Prop) (told' : α → List Exchange → Result β → Prop) (log : List Exchange)
    (r : Result β) : Prop :=
  (∃ e, told log (.error e) ∧ r = .error e) ∨ ∃ a first rest, log = first ++ rest ∧ told first (.ok a) ∧ told' a rest r

namespace Sends

theorem known (r : Result α) : Sends (Conversation.known (σ := σ) r) fun log r' => log = [] ∧ r' = r :=
  fun _ => ⟨[], rfl, rfl, rfl⟩

/-- What one conversation after another comes to. -/
theorem bind {c : Conversation σ α} {f : α → Conversation σ β} {told : List Exchange → Result α → Prop}
    {told' : α → List Exchange → Result β → Prop} (hc : Sends c told) (hf : ∀ a, Sends (f a) (told' a)) :
    Sends (c >>= f) (Chained told told') := by
  intro s
  obtain ⟨log, hs, ht⟩ := hc s
  rw [runOn_bind]
  rcases hr : c.runOn s with ⟨_ | a, t⟩
  · rw [hr] at hs ht
    exact ⟨log, hs, Or.inl ⟨_, ht, rfl⟩⟩
  · rw [hr] at hs ht
    obtain ⟨rest, hs', ht'⟩ := hf a t
    exact ⟨log ++ rest, Session.after_trans hs hs', Or.inr ⟨a, log, rest, rfl, ht, ht'⟩⟩

/-- What is told may be told with fewer words. -/
theorem weaken {c : Conversation σ α} {told told' : List Exchange → Result α → Prop} (hc : Sends c told)
    (h : ∀ log r, told log r → told' log r) : Sends c told' := by
  intro s
  obtain ⟨log, hs, ht⟩ := hc s
  exact ⟨log, hs, h _ _ ht⟩

end Sends

end Conversation

/-! ## A single request -/

/-- What a request comes to that is sent once: nothing is sent where it cannot be, and otherwise its result is read from the
reply. -/
def Once (request : Result Http.Request) (reader : Http.Response → Result α) (log : List Exchange) (r : Result α) : Prop :=
  match request with
  | .error e => log = [] ∧ r = .error e
  | .ok q => ∃ reply, log = [⟨q, reply⟩] ∧ Exchange.read ⟨q, reply⟩ reader = r.toOption

namespace Once

variable {request : Result Http.Request} {reader : Http.Response → Result α} {log : List Exchange}

/-- A result was read from the reply. -/
theorem of_ok {a : α} (h : Once request reader log (.ok a)) :
    ∃ x : Exchange, request = .ok x.request ∧ log = [x] ∧ x.read reader = some a := by
  cases request with
  | error e => cases h.2
  | ok q =>
    obtain ⟨reply, hl, hr⟩ := h
    exact ⟨⟨q, reply⟩, rfl, hl, hr⟩

/-- Where there is no result, nothing was sent, or none could be read from the reply. -/
theorem of_error {e : Failure} (h : Once request reader log (.error e)) :
    (request = .error e ∧ log = []) ∨ ∃ x : Exchange, request = .ok x.request ∧ log = [x] ∧ x.read reader = none := by
  cases request with
  | error e' =>
    obtain ⟨hl, he⟩ := h
    cases he
    exact Or.inl ⟨rfl, hl⟩
  | ok q =>
    obtain ⟨reply, hl, hr⟩ := h
    exact Or.inr ⟨⟨q, reply⟩, rfl, hl, hr⟩

end Once

namespace Client

/-- A request that can be sent is sent, and its reply is checked. -/
theorem runOn_send {c : Client} {method : Http.Method} {u : Url} {q : Http.Request} (hq : c.request method u = .ok q)
    (server : Http.Server σ) (s : Session σ) :
    (c.send server method u).runOn s =
      ((match (server q s.server).1 with
        | .dropped => .error (.transport (.connectionLost (publicAddress u).text))
        | .response r => r.check), s.after (server q s.server).2 [⟨q, (server q s.server).1⟩]) := by
  simp only [send, hq, Conversation.runOn_bind, Conversation.runOn_known, Conversation.exchange, Conversation.runOn_of]
  cases (server q s.server).1 <;> rfl

/-- A request to an address is sent once. -/
theorem send_sends (c : Client) (server : Http.Server σ) (method : Http.Method) (u : Url) :
    Conversation.Sends (c.send server method u) (Once (c.request method u) .ok) := by
  intro s
  cases hq : c.request method u with
  | error e => exact ⟨[], by simp [send, hq, Conversation.runOn_bind], rfl, by simp [send, hq, Conversation.runOn_bind]⟩
  | ok q =>
    rw [runOn_send hq]
    refine ⟨[⟨q, (server q s.server).1⟩], rfl, (server q s.server).1, rfl, ?_⟩
    simp only [Exchange.read]
    cases (server q s.server).1 with
    | dropped => rfl
    | response r =>
      show (r.check.bind .ok).toOption = r.check.toOption
      cases r.check <;> rfl

/-- The request to a path, with the address changed in some way. -/
@[irreducible]
def requestAt (c : Client) (method : Http.Method) (path : String) (change : Url → Url) : Result Http.Request :=
  (c.address path).bind fun u => c.request method (change u)

/-- A request to a path is sent once. -/
theorem sendAt_sends (c : Client) (server : Http.Server σ) (method : Http.Method) (path : String) (change : Url → Url) :
    Conversation.Sends (do c.send server method (change (← Conversation.known (c.address path))))
      (Once (c.requestAt method path change) .ok) := by
  unfold requestAt
  cases h : c.address path with
  | error e => exact fun s => ⟨[], rfl, rfl, rfl⟩
  | ok u => exact send_sends c server method (change u)

section

variable {c : Client} {method : Http.Method} {path : String} {change : Url → Url} {q : Http.Request} {server : Http.Server σ}
  {s : Session σ} {r : Http.Response} {t : σ}

/-- A request to a path that cannot be sent is not sent. -/
theorem runOn_sendAt_unsent {e : Failure} (hq : c.requestAt method path change = .error e) (server : Http.Server σ) (s : Session σ) :
    Conversation.runOn (do c.send server method (change (← Conversation.known (c.address path)))) s = (.error e, s) := by
  rw [requestAt] at hq
  cases ha : c.address path with
  | error e' =>
    rw [ha] at hq
    cases hq
    rfl
  | ok u =>
    rw [ha] at hq
    simp only [Conversation.runOn_bind, Conversation.runOn_known, send, show c.request method (change u) = .error e from hq]

/-- The response to a request to a path is checked, and the request is all that is sent. -/
theorem runOn_sendAt_checked (hq : c.requestAt method path change = .ok q) (hr : server q s.server = (.response r, t)) :
    Conversation.runOn (do c.send server method (change (← Conversation.known (c.address path)))) s =
      (r.check, s.after t [⟨q, .response r⟩]) := by
  rw [requestAt] at hq
  cases ha : c.address path with
  | error e =>
    rw [ha] at hq
    cases hq
  | ok u =>
    rw [ha] at hq
    have hsend := runOn_send (show c.request method (change u) = .ok q from hq) server s
    rw [hr] at hsend
    simp only [Conversation.runOn_bind, Conversation.runOn_known, hsend]

/-- A response of success to a request to a path passes, and the request is all that is sent. -/
theorem runOn_sendAt (hq : c.requestAt method path change = .ok q) (hr : server q s.server = (.response r, t))
    (hs : r.isSuccess = true) :
    Conversation.runOn (do c.send server method (change (← Conversation.known (c.address path)))) s =
      (.ok r, s.after t [⟨q, .response r⟩]) := by
  rw [runOn_sendAt_checked hq hr, show r.check = .ok r from if_pos hs]

end

end Client

/-- A response that is read after a request that is sent once. -/
theorem Once.read {c : Conversation σ Http.Response} {request : Result Http.Request}
    (hc : c.Sends (Once request .ok)) (reader : Http.Response → Result α) :
    Conversation.Sends (do Conversation.known (reader (← c))) (Once request reader) := by
  refine (hc.bind fun r => Conversation.Sends.known (reader r)).weaken fun log r h => ?_
  cases request with
  | error e =>
    rcases h with ⟨e', ⟨rfl, he⟩, rfl⟩ | ⟨a, first, rest, -, ⟨-, ha⟩, -⟩
    · cases he
      exact ⟨rfl, rfl⟩
    · cases ha
  | ok q =>
    rcases h with ⟨e, ⟨reply, rfl, hr⟩, rfl⟩ | ⟨a, first, rest, rfl, ⟨reply, rfl, hr⟩, rfl, rfl⟩
    · refine ⟨reply, rfl, ?_⟩
      cases reply with
      | dropped => rfl
      | response x => cases hx : x.check <;> simp_all [Exchange.read, Except.bind, Except.toOption]
    · refine ⟨reply, rfl, ?_⟩
      cases reply with
      | dropped => cases hr
      | response x => cases hx : x.check <;> simp_all [Exchange.read, Except.bind, Except.toOption]

namespace Client

/-! ## The requests of a client -/

/-- The request for a page of a collection. -/
def pageRequest (c : Client) (list : Collection α) (query : Query) (number : UInt32) : Result Http.Request :=
  c.requestAt .get list.path (·.withPairs (query.pairs number ++ list.pairs))

/-- The request to delete what is at a path. -/
def deletionRequest (c : Client) (path : String) (pairs : List (String × String)) : Result Http.Request :=
  c.requestAt .delete path (·.withPairs pairs)

/-- The request for the status of a job. -/
def statusRequest (c : Client) (version : Job.Version) (job : String) : Result Http.Request :=
  c.requestAt .get (jobPath version job) id

/-- The page of a collection that a response holds. -/
def pageOf (list : Collection α) (number : UInt32) (r : Http.Response) : Result (Page α) :=
  (r.decode list.envelope).map (·.toPage number)

theorem page_eq (c : Client) (server : Http.Server σ) (list : Collection α) (query : Query) (number : UInt32) :
    c.page server list query number =
      c.getWith server list.path (query.pairs number ++ list.pairs) >>= fun r =>
        Conversation.known (pageOf list number r) := by
  unfold page
  congr 1
  funext r
  unfold pageOf
  cases r.decode list.envelope <;> rfl

/-- A page is read from the response to the request for it, which is all that is sent. -/
theorem runOn_page {c : Client} {list : Collection α} {query : Query} {number : UInt32} {q : Http.Request}
    (hq : c.pageRequest list query number = .ok q) {server : Http.Server σ} {s : Session σ} {r : Http.Response} {t : σ}
    (hr : server q s.server = (.response r, t)) (hs : r.isSuccess = true) :
    (c.page server list query number).runOn s = (pageOf list number r, s.after t [⟨q, .response r⟩]) := by
  have hsent : (c.getWith server list.path (query.pairs number ++ list.pairs)).runOn s = _ := runOn_sendAt hq hr hs
  rw [page_eq, Conversation.runOn_bind, hsent]
  rfl

theorem page_sends (c : Client) (server : Http.Server σ) (list : Collection α) (query : Query) (number : UInt32) :
    Conversation.Sends (c.page server list query number) (Once (c.pageRequest list query number) (pageOf list number)) := by
  rw [page_eq]
  exact Once.read (sendAt_sends c server .get list.path _) (pageOf list number)

theorem delete_sends (c : Client) (server : Http.Server σ) (path : String) (pairs : List (String × String)) :
    Conversation.Sends (c.delete server path pairs) (Once (c.deletionRequest path pairs) deletionOf) :=
  Once.read (sendAt_sends c server .delete path _) deletionOf

theorem status_sends (c : Client) (server : Http.Server σ) (version : Job.Version) (job : String) :
    Conversation.Sends (c.status server version job) (Once (c.statusRequest version job) (statusOf version)) :=
  Once.read (sendAt_sends c server .get (jobPath version job) id) (statusOf version)

end Client

end ControlPlane
