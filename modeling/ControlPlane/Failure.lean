import ControlPlane.Duration
import ControlPlane.Json.Fault
import ControlPlane.Url.Fault

/-!
# Why an operation fails

Every operation on the platform either answers or fails with one `Failure`. The constructors are the causes; the words shown
to a user are `Failure.message`, and `Failure.kind` sorts the causes into the few classes that a caller acts on.
-/

namespace ControlPlane

/-- What goes wrong between a request and its response. -/
inductive TransportFault where
  /-- The body of a response is not of the expected form. -/
  | undecodableBody
  /-- A header value cannot be sent. -/
  | badHeader
  /-- The address cannot be asked. -/
  | unusableUrl (url : String)
  /-- No response came back. -/
  | connectionLost (url : String)
deriving DecidableEq, Repr

/-- The words for a transport fault. -/
def TransportFault.text : TransportFault → String
  | undecodableBody => "error decoding response body"
  | badHeader => "builder error"
  | unusableUrl url => "builder error for url (" ++ url ++ ")"
  | connectionLost url => "error sending request for url (" ++ url ++ ")"

/-- The causes for which an operation fails. -/
inductive Failure where
  /-- A setting that the operation needs is missing. -/
  | configMissing (what : String)
  /-- No entity carries the name. -/
  | notFound (entity name : String)
  /-- Several entities carry the name. -/
  | ambiguous (entity name : String) (count : Nat)
  /-- The platform gave up a job. -/
  | jobFailed (job code description : String)
  /-- A job was not done in time. -/
  | timeout (job : String) (elapsed : Duration)
  /-- A page names a successor that is not after it. -/
  | invalidCursor (page next : UInt32)
  /-- A phase cannot follow another. -/
  | invalidTransition (current requested : String)
  /-- The platform refused a request. -/
  | api (message : String) (status : Option UInt16) (code : Option String)
  /-- A request did not get its response. -/
  | transport (fault : TransportFault)
  /-- A text is no JSON. -/
  | unreadable (fault : Json.Fault)
  /-- A text is no URL. -/
  | badUrl (fault : Url.Fault)
  /-- The platform asks to come back later. -/
  | rateLimited (retryAfter : Option UInt64)
deriving DecidableEq, Repr

/-- The classes of failures. -/
inductive Failure.Kind where
  | notFound | ambiguous | jobFailed | timeout | transport | config | internal
deriving DecidableEq, Repr

namespace Failure

/-- The class of a failure. -/
def kind : Failure → Kind
  | configMissing _ => .config
  | notFound .. => .notFound
  | ambiguous .. => .ambiguous
  | jobFailed .. => .jobFailed
  | timeout .. => .timeout
  | invalidCursor .. | invalidTransition .. => .internal
  | api .. | transport _ | unreadable _ | badUrl _ | rateLimited _ => .transport

/-- The seconds to wait before another try, as they are shown. -/
def retryText : Option UInt64 → String
  | none => "None"
  | some secs => "Some(" ++ toString secs.toNat ++ ")"

/-- The words shown for a failure. -/
def message : Failure → String
  | configMissing what => "Cloud Foundry configuration required: " ++ what
  | notFound entity name => entity ++ " " ++ name ++ " does not exist"
  | ambiguous entity name count => entity ++ " " ++ name ++ " is ambiguous: " ++ toString count ++ " matches"
  | jobFailed _ code description => code ++ ": " ++ description
  | timeout job elapsed => "Job " ++ job ++ " did not complete within " ++ elapsed.text
  | invalidCursor page next =>
    "Invalid pagination cursor: page " ++ toString page.toNat ++ " reported next page " ++ toString next.toNat
  | invalidTransition current requested => "Invalid operation transition from " ++ current ++ " to " ++ requested
  | api message _ _ => "Cloud Foundry API error: " ++ message
  | transport fault => "HTTP error: " ++ fault.text
  | unreadable fault => "Failed to parse response: " ++ fault.message
  | badUrl fault => "Invalid URL: " ++ fault.text
  | rateLimited retryAfter => "Rate limited, retry after " ++ retryText retryAfter ++ " seconds"

end Failure

/-- The result of an operation that may fail. -/
abbrev Result := Except Failure

end ControlPlane
