import ControlPlane.Http.Message

/-!
# Servers

What lies between a request as it is handed over and the response that comes back for it is the server, and all that stands before
it: the network, and the HTTP library. The library follows redirects, so that what comes back may be the response to another request
than the one handed over; it sends nothing for an address that it finds too long; and it reads the octets of a body as text. A request
may also get no response.
-/

namespace ControlPlane.Http

/-- What comes back for a request. -/
inductive Reply where
  | dropped
  | response (r : Response)
deriving DecidableEq, Repr

/-- A server with states, together with the network before it and the HTTP library: it answers the requests that are handed over, one
after another, and goes to its next state with each. -/
abbrev Server (σ : Type) := Request → σ → Reply × σ

namespace Server

/-- The server that no request reaches. -/
def unreachable {σ : Type} : Server σ := fun _ s => (.dropped, s)

/-- The response of a server that has used up what it was to reply. -/
def exhausted : Response := { status := 500, body := some (.written "script exhausted") }

/-- The server that replies what is written down, whatever is asked. -/
def scripted : Server (List Reply)
  | _, [] => (.response exhausted, [])
  | _, reply :: rest => (reply, rest)

end Server

end ControlPlane.Http
