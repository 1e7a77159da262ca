import ControlPlane.CommandLine.Reading
import ControlPlane.Display
import ControlPlane.Display.Table
import ControlPlane.Json.Printer
import ControlPlane.Mutation.Encoding
import ControlPlane.Operation.Target

/-!
# Running a command line

A command line is read, the platform is found from the settings, and the command is carried out. What was found is written as
JSON or for readers: lists as tables, single entities line by line. Failures are told apart from the output.
-/

namespace ControlPlane.CommandLine

variable {σ α : Type}

/-- What a run leaves behind. -/
structure Outcome where
  code : UInt8
  output : String := ""
  errors : String := ""
deriving DecidableEq, Repr

namespace Outcome

/-- The outcome of a run that did what it was asked for. -/
def done (output : String) : Outcome := { code := 0, output := output ++ "\n" }

/-- The line for a failure. -/
def failureLine (e : Failure) : String := "Error: " ++ e.message ++ "\n"

/-- The outcome of a run that failed. -/
def failed (e : Failure) : Outcome := { code := 1, errors := failureLine e }

/-- The outcome of a run that does not know the platform. -/
def unsettled (e : Failure) : Outcome :=
  { code := 1, errors := failureLine e ++ "Hint: Set CF_API_URL and CF_ACCESS_TOKEN environment variables\n" }

end Outcome

/-! ## Tables -/

/-- The head of a table, and the row for an item. -/
structure Columns (α : Type) where
  head : List String
  row : α → List String

/-- The columns for organizations. -/
def organizationColumns : Columns Organization where
  head := ["name", "status", "guid"]
  row o := [o.name, o.status.getD "", o.id]

/-- The columns for spaces. -/
def spaceColumns : Columns Space where
  head := ["name", "ssh", "guid"]
  row s := [s.name, if s.allowSsh then "enabled" else "disabled", s.id]

/-- The columns for space quotas. -/
def spaceQuotaColumns : Columns SpaceQuota where
  head := ["name", "total memory", "instance memory", "routes", "services", "paid plans"]
  row q :=
    [q.name, toString q.totalMemoryLimit.toInt ++ "M", Display.limit q.instanceMemoryLimit "M",
      toString q.totalRoutes.toInt, toString q.totalServices.toInt, if q.paidServicePlans then "true" else "false"]

/-! ## Output -/

/-- A single thing as it is written. -/
def single (json : Bool) (toJson : α → Json) (shown : α → String) (a : α) : String :=
  if json then (toJson a).pretty else shown a

/-- A list as it is written. -/
def listed (json : Bool) (toJson : α → Json) (columns : Columns α) (items : List α) : String :=
  if json then (Json.array (items.map toJson)).pretty
  else Display.Table.text columns.head (items.map columns.row) ++ "\n\n" ++ toString items.length ++ " total"

/-- Carries out a command, and writes what it comes to. -/
def carryOut (t : Target) (server : Http.Server σ) (allowed : Nat) (json : Bool) : Command → Undertaking σ String
  | .list .organization =>
    .converse (listed json Organization.toJson organizationColumns <$> (t.organizations server).whole)
  | .list .space => .converse (listed json Space.toJson spaceColumns <$> (t.spaces server).whole)
  | .list .spaceQuota => .converse (listed json SpaceQuota.toJson spaceQuotaColumns <$> (t.spaceQuotas server).whole)
  | .get .organization name =>
    .converse (single json Organization.toJson Organization.shown <$> t.getOrganization server name)
  | .get .space name => .converse (single json Space.toJson Space.shown <$> t.getSpace server name)
  | .get .spaceQuota name => .converse (single json SpaceQuota.toJson SpaceQuota.shown <$> t.getSpaceQuota server name)
  | .delete .serviceInstance name => completed json <$> t.deleteServiceInstance server allowed name
  | .delete .space name => completed json <$> t.deleteSpace server allowed name
where
  /-- A change that has been made as it is written. -/
  completed (json : Bool) : Mutation.Completed Unit → String :=
    single json (Mutation.Completed.toJson Mutation.nothing) Mutation.Completed.shown

/-! ## Help -/

/-- The name and the version of the program. -/
def versionText : String := "cfops 0.1.0\n"

/-- How the program is used. -/
def helpText : String :=
  String.join (List.map (· ++ "\n") [
    "Cloud Foundry operations CLI",
    "",
    "Usage: cfops [OPTIONS] <COMMAND>",
    "",
    "Commands:",
    "  list    List every entity of a type, across all pages",
    "  get     Get a single entity by name",
    "  delete  Delete an entity by name and wait for the platform to finish",
    "  help    Print this message or the help of the given subcommand(s)",
    "",
    "Options:",
    "      --json                                 Output results as JSON instead of a table",
    "      --org <ORG>                            Organization to target [env: CF_ORGANIZATION=]",
    "      --space <SPACE>                        Space to target, within the organization [env: CF_SPACE=]",
    "      --poll-interval-ms <POLL_INTERVAL_MS>  Milliseconds between job status checks",
    "      --timeout-secs <TIMEOUT_SECS>          Give up waiting for a job after this many seconds",
    "  -h, --help                                 Print help",
    "  -V, --version                              Print version"])

/-- What is wrong with a command line. -/
def Misuse.text : Misuse → String
  | invalidValue => "invalid value for an argument"
  | invalidNumber => "invalid number for an argument"
  | unknownArgument => "unexpected argument found"
  | unknownCommand => "unrecognized subcommand"
  | unneededValue => "unexpected value for a flag"
  | repeated => "an argument cannot be used multiple times"
  | missingArgument => "the required arguments were not provided"
  | missingCommand => "a subcommand is required but one was not provided"
  | nothingGiven => ""

/-- The outcome of a command line that asks for nothing to be done. -/
def Stop.outcome : Stop → Outcome
  | help => { code := 0, output := helpText }
  | version => { code := 0, output := versionText }
  | misuse .nothingGiven => { code := 2, errors := helpText }
  | misuse m => { code := 2, errors := "error: " ++ m.text ++ "\n\nFor more information, try --help.\n" }

/-! ## Runs -/

/-- The target that arguments name. -/
def Arguments.target (a : Arguments) (client : Client) : Target where
  client := client
  organization := a.organization
  space := a.space
  settings := a.pollSettings

/-- Runs a command line with settings against a server. A wait for a job is allowed a number of requests. -/
def run (setting? : String → Option String) (words : List String) (server : Http.Server σ) (allowed : Nat) :
    Undertaking σ Outcome :=
  .of fun s =>
    match read setting? words with
    | .error stop => (.ok stop.outcome, s)
    | .ok a =>
      match Client.ofSettings setting? with
      | .error e => (.ok (.unsettled e), s)
      | .ok client =>
        match (carryOut (a.target client) server allowed a.json a.command).runOn s with
        | (.ok output, s) => (.ok (.done output), s)
        | (.error (.failure e), s) => (.ok (.failed e), s)
        | (.error halt, s) => (.error halt, s)

end ControlPlane.CommandLine
