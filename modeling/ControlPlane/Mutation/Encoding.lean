import ControlPlane.Job.Encoding
import ControlPlane.Mutation

/-!
# JSON forms of changes
-/

namespace ControlPlane.Mutation

variable {α : Type}

/-- The JSON form of the platform's answer to a change. -/
def Response.toJson (value : α → Json) : Response α → Json
  | .immediate a => .object [("Immediate", value a)]
  | .accepted h => .object [("Accepted", h.toJson)]

/-- Reads the platform's answer to a change. -/
def Response.decoder (value : Json.Decoder α) : Json.Decoder (Response α) :=
  .choice [("Immediate", .holding fun depth r => .immediate <$> value depth r),
    ("Accepted", .holding fun depth r => .accepted <$> Job.Handle.decoder depth r)]

/-- The JSON form of a change that has been made. -/
def Completed.toJson (value : α → Json) : Completed α → Json
  | .immediate a => .object [("Immediate", value a)]
  | .job h => .object [("Job", h.toJson)]

/-- Reads a change that has been made. -/
def Completed.decoder (value : Json.Decoder α) : Json.Decoder (Completed α) :=
  .choice [("Immediate", .holding fun depth r => .immediate <$> value depth r),
    ("Job", .holding fun depth r => .job <$> Job.Handle.decoder depth r)]

/-- The JSON form of nothing. -/
def nothing : Unit → Json := fun _ => .null

end ControlPlane.Mutation
