import ControlPlane.Decimal.Word
import ControlPlane.Failure
import ControlPlane.Http.Message
import ControlPlane.Json.Decoder

/-!
# What a response means

A response of success passes. One that asks to come back later says when, in seconds. Every other response is a refusal by
the platform, which tells its reason in one of two JSON forms; where it does not, the body itself is the reason, and where
there is none, the status.
-/

namespace ControlPlane

/-- The first item of an array. -/
def Json.first? : Json → Option Json
  | .array (item :: _) => some item
  | _ => none

/-- The text that a member holds. -/
def Json.memberText? (name : String) (v : Json) : Option String := (v.member? name).bind Json.text?

namespace Http.Response

/-- A reason, and the code that names it. -/
abbrev Reason := String × Option String

/-- The reason in the form of the second version: a description with its code. -/
def described? (v : Json) : Option Reason :=
  (v.memberText? "description").map fun description => (description, v.memberText? "error_code")

/-- The reason in the form of the third version: the detail of the first error with its title. -/
def detailed? (v : Json) : Option Reason := do
  let error ← (v.member? "errors").bind Json.first?
  (error.memberText? "detail").map fun detail => (detail, error.memberText? "title")

/-- The reason that a body tells in one of the forms. -/
def explained? (body : String) : Option Reason :=
  match Json.Decoder.run Json.Decoder.any (Text.octets body) with
  | .ok v => described? v <|> detailed? v
  | .error _ => none

/-- The reason where the body tells none. -/
def bareReason (r : Response) : Reason := ("HTTP " ++ statusText r.status, none)

/-- The reason that a refusal gives. -/
def reason (r : Response) : Reason :=
  match r.text? with
  | none => r.bareReason
  | some body => (explained? body).getD (if body.isEmpty then r.bareReason else (body, none))

/-- The status that asks to come back later. -/
def tooManyRequests : UInt16 := 429

/-- The seconds after which to come back, where the response says so. -/
def retryAfter? (r : Response) : Option UInt64 := (r.headerText? "retry-after").bind Decimal.word64?

/-- Passes a response of success. -/
def check (r : Response) : Result Response :=
  if r.isSuccess then .ok r
  else if r.status = tooManyRequests then .error (.rateLimited r.retryAfter?)
  else .error (.api r.reason.1 (some r.status) r.reason.2)

/-- The value that the body stands for. -/
def decode {α : Type} (d : Json.Decoder α) (r : Response) : Result α :=
  match r.body with
  | none => .error (.transport .undecodableBody)
  | some body => (d.run body.octets).mapError fun _ => .transport .undecodableBody

end Http.Response

end ControlPlane
