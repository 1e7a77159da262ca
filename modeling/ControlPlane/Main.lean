import ControlPlane.CommandLine.Run

/-!
# The program

Reads the settings from the environment and runs the command line. Requests go nowhere, since the program speaks to no network.
-/

namespace ControlPlane.CommandLine

/-- The names of the settings. -/
def settingNames : List String := [Client.addressSetting, Client.tokenSetting, organizationSetting, spaceSetting]

/-- How many times the status of a job is asked for. -/
def allowedRequests : Nat := 1000000

/-- Runs a command line against a server that no request reaches. -/
def runUnreachable (setting? : String → Option String) (words : List String) : Except Job.Halt Outcome :=
  ((run setting? words (Http.Server.unreachable (σ := Unit)) allowedRequests).runOn { server := () }).1

end ControlPlane.CommandLine

open ControlPlane in
/-- Runs the words given to the program. A wait that comes to nothing has a code of its own. -/
def main (words : List String) : IO UInt32 := do
  let settings ← CommandLine.settingNames.mapM fun name => return (name, ← IO.getEnv name)
  match CommandLine.runUnreachable (fun name => (settings.lookup name).join) words with
  | .ok outcome =>
    (← IO.getStdout).putStr outcome.output
    (← IO.getStderr).putStr outcome.errors
    return outcome.code.toUInt32
  | .error _ =>
    (← IO.getStderr).putStr "The wait for the job came to nothing.\n"
    return 101
