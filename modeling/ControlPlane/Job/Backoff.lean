import ControlPlane.Job.Status

/-!
# How long to wait between two requests
-/

namespace ControlPlane.Job

/-- How the delay between two requests develops. -/
inductive Backoff where
  /-- The delay stays. -/
  | fixed
  /-- The delay doubles, up to a limit. -/
  | exponential (max : Duration)
deriving DecidableEq, Repr

/-- The delay after another. -/
def Backoff.next : Backoff → Duration → Duration
  | fixed, current => current
  | exponential max, current => current.double.shorter max

/-- The settings of a wait. -/
structure PollSettings where
  interval : Option Duration := none
  timeout : Option Duration := none
  backoff : Backoff := .fixed
deriving DecidableEq, Repr

namespace PollSettings

/-- The delay where neither the settings nor the job say: one second. -/
def defaultInterval : Duration := .ofSecs 1

/-- The first delay of a wait: the settings go before the hint of the job. -/
def firstDelay (settings : PollSettings) (handle : Handle) : Duration :=
  (settings.interval <|> handle.intervalHint).getD defaultInterval

end PollSettings

end ControlPlane.Job
