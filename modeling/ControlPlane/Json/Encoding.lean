import ControlPlane.Duration
import ControlPlane.Json.Decoder
import ControlPlane.Timestamp

/-!
# JSON forms of basic values

Points in time and lengths of time in a JSON text. A point in time is a text; a length of time is an object of whole
seconds and nanoseconds.
-/

namespace ControlPlane

namespace Json

/-- A truth value. -/
def ofBool (b : Bool) : Json := .bool b

/-- A word of 64 bits. -/
def ofWord64 (n : UInt64) : Json := .integer n.toNat

/-- A word of 32 bits. -/
def ofWord32 (n : UInt32) : Json := .integer n.toNat

/-- A signed number of 64 bits. -/
def ofInt64 (n : Int64) : Json := .integer n.toInt

/-- A list. -/
def ofList {α : Type} (f : α → Json) (as : List α) : Json := .array (as.map f)

end Json

namespace Timestamp

/-- The JSON form of a point in time. -/
def toJson (t : Timestamp) : Json := .text t.text

/-- Reads the JSON form of a point in time. -/
def decoder : Json.Decoder Timestamp
  | _, .quoted (.ok s) =>
    match Timestamp.ofString s with
    | .ok t => .ok t
    | .error fault => .error (.custom fault.text)
  | _, r => .error (Json.Decoder.mismatch "an RFC 3339 formatted date and time string" r)

end Timestamp

namespace Duration

/-- The JSON form of a length of time. -/
def toJson (d : Duration) : Json := .object [("secs", .integer d.secs), ("nanos", .integer d.subsecNanos)]

/-- Reads the JSON form of a length of time. Nanoseconds beyond a second carry over. -/
def decoder : Json.Decoder Duration := fun depth r => do
  let parts ← (Json.Record.of Prod.mk
    |>.required "secs" Json.Decoder.word64
    |>.required "nanos" Json.Decoder.word32).decoderNamed "struct Duration" "struct Duration" false depth r
  match ofParts? parts.1 parts.2 with
  | some d => .ok d
  | none => .error (.custom "overflow deserializing Duration")

end Duration

end ControlPlane
