import ControlPlane.Session

/-!
# Keeping track of operations

An operation enters its phases one after another, so that the session tells how far it came. A step whose failure ends the
operation is watched: its failure is the last phase.
-/

namespace ControlPlane

variable {σ α : Type}

/-- The session in which an operation fails. An operation that has ended does not fail any more. -/
def Session.fail (e : Failure) (s : Session σ) : Session σ :=
  if s.phase.isTerminal then s else s.record (.entered (s.phase.fail e))

namespace Conversation

/-- Begins an operation. -/
def start : Conversation σ Unit := of fun s => (.ok (), s.record (.entered .started))

/-- Enters a phase, or refuses one that cannot follow. -/
def enter (phase : Phase) : Conversation σ Unit :=
  of fun s =>
    match s.phase.advance phase with
    | .ok p => (.ok (), s.record (.entered p))
    | .error e => (.error e, s)

/-- Records the failure of a step. -/
def watched (c : Conversation σ α) : Conversation σ α :=
  of fun s =>
    match c.runOn s with
    | (.ok a, t) => (.ok a, t)
    | (.error e, t) => (.error e, t.fail e)

end Conversation

namespace Undertaking

/-- Records the failure of a step. One that comes to nothing is no failure. -/
def watched (u : Undertaking σ α) : Undertaking σ α :=
  of fun s =>
    match u.runOn s with
    | (.error (.failure e), t) => (.error (.failure e), t.fail e)
    | other => other

end Undertaking

end ControlPlane
