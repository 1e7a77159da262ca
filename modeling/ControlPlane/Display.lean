import ControlPlane.Mutation
import ControlPlane.Organization
import ControlPlane.Space
import ControlPlane.SpaceQuota

/-!
# Entities as they are shown

An entity is shown as a title, a rule below it, and a line for each thing known of it.
-/

namespace ControlPlane

namespace Display

/-- The least width of the rule below a title. -/
def leastRule : Nat := 30

/-- A title and the rule below it, which is as long as the title and no shorter than its least width. -/
def header (kind name : String) : List String :=
  let title := kind ++ ": " ++ name
  [title, String.ofList (List.replicate (max title.length leastRule) '─')]

/-- The line for a value that may be missing. -/
def line? (label : String) : Option String → List String
  | some value => [label ++ value]
  | none => []

/-- Lines under each other. -/
def lines (ls : List String) : String := "\n".intercalate ls

/-- A limit in some unit. A negative limit is none. -/
def limit (value : Int64) (unit : String) : String :=
  if value < 0 then "unlimited" else toString value.toInt ++ unit

end Display

open Display

/-- An organization as it is shown. -/
def Organization.shown (o : Organization) : String :=
  lines (header kindName o.name ++ ["GUID:           " ++ o.id]
    ++ line? "Status:         " o.status
    ++ line? "Quota:          " o.quotaDefinitionId
    ++ line? "Created:        " (o.createdAt.map Timestamp.shown))

/-- A space as it is shown. -/
def Space.shown (s : Space) : String :=
  lines (header kindName s.name ++ ["GUID:           " ++ s.id]
    ++ line? "Organization:   " s.organizationId
    ++ line? "Space Quota:    " s.spaceQuotaId
    ++ ["SSH:            " ++ if s.allowSsh then "enabled" else "disabled"])

/-- A space quota as it is shown. -/
def SpaceQuota.shown (q : SpaceQuota) : String :=
  lines (header kindName q.name
    ++ ["GUID:           " ++ q.id,
      "Total Memory:   " ++ limit q.totalMemoryLimit "M",
      "Instance Mem:   " ++ limit q.instanceMemoryLimit "M",
      "Routes:         " ++ limit q.totalRoutes "",
      "Services:       " ++ limit q.totalServices ""]
    ++ line? "App Instances:  " (q.appInstanceLimit.map (limit · ""))
    ++ ["Paid Plans:     " ++ if q.paidServicePlans then "allowed" else "disallowed"])

/-- A change that has been made, as it is shown. -/
def Mutation.Completed.shown {α : Type} : Completed α → String
  | .immediate _ => "OK"
  | .job handle => "OK (job " ++ handle.id ++ ")"

end ControlPlane
