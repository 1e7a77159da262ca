import ControlPlane.Http.Server
import ControlPlane.Job.Timeline
import ControlPlane.Operation.Phase

/-!
# Sessions

A session is the state of a server together with all that a client has done: the exchanges with the server, and the phases
that its operations entered, in one order. A conversation is a course of exchanges that comes to a result or a failure; an
undertaking may besides come to nothing at all, since it waits.
-/

namespace ControlPlane

/-- What a client does. -/
inductive Activity where
  /-- Sends a request, for which a reply comes back. -/
  | exchanged (request : Http.Request) (reply : Http.Reply)
  /-- Enters a phase of an operation. -/
  | entered (phase : Phase)
deriving DecidableEq, Repr

/-- The state of a server, and what a client has done, the latest first. -/
structure Session (σ : Type) where
  server : σ
  history : List Activity := []

namespace Session

variable {σ : Type}

/-- What a client has done, in its order. -/
def activities (s : Session σ) : List Activity := s.history.reverse

/-- The session after one more activity. -/
def record (a : Activity) (s : Session σ) : Session σ := { s with history := a :: s.history }

/-- The phase entered last. Before any, an operation has just started. -/
def phaseOf : List Activity → Phase
  | [] => .started
  | .entered p :: _ => p
  | .exchanged .. :: rest => phaseOf rest

/-- The phase of the operation under way. -/
def phase (s : Session σ) : Phase := phaseOf s.history

/-- The requests sent, in their order. -/
def requests (s : Session σ) : List Http.Request :=
  s.activities.filterMap fun
    | .exchanged request _ => some request
    | .entered _ => none

end Session

/-- A course of exchanges with a server. -/
abbrev Conversation (σ : Type) := ExceptT Failure (StateM (Session σ))

/-- A course of exchanges that may wait. -/
abbrev Undertaking (σ : Type) := ExceptT Job.Halt (StateM (Session σ))

namespace Conversation

variable {σ α : Type}

/-- The conversation from what it does to a session. -/
def of (f : Session σ → Result α × Session σ) : Conversation σ α := ExceptT.mk f

/-- The result of a conversation, and the session after it. -/
def runOn (c : Conversation σ α) (s : Session σ) : Result α × Session σ := (ExceptT.run c).run s

/-- A result that is known. -/
def known (r : Result α) : Conversation σ α := ExceptT.mk (pure r)

/-- Sends a request. -/
def exchange (server : Http.Server σ) (request : Http.Request) : Conversation σ Http.Reply :=
  of fun s =>
    let (reply, next) := server request s.server
    (.ok reply, { s with server := next }.record (.exchanged request reply))

end Conversation

namespace Undertaking

variable {σ α : Type}

/-- The undertaking from what it does to a session. -/
def of (f : Session σ → Except Job.Halt α × Session σ) : Undertaking σ α := ExceptT.mk f

/-- The result of an undertaking, and the session after it. -/
def runOn (u : Undertaking σ α) (s : Session σ) : Except Job.Halt α × Session σ := (ExceptT.run u).run s

/-- A conversation as an undertaking that does not wait. -/
def converse (c : Conversation σ α) : Undertaking σ α :=
  of fun s => ((c.runOn s).1.mapError .failure, (c.runOn s).2)

end Undertaking

end ControlPlane
