import ControlPlane.Decimal.Word
import ControlPlane.Job.Backoff

/-!
# What a command line asks for

A command lists entities, gets one by its name, or deletes one by its name. Options say how the answer is written, which
organization and space are targeted, and how jobs are waited for.
-/

namespace ControlPlane.CommandLine

/-- The kinds of entities that can be listed and got. -/
inductive Kind where
  | organization | space | spaceQuota
deriving DecidableEq, Repr

/-- The words for a kind. -/
def Kind.words : Kind → List String
  | organization => ["organization", "organizations", "org", "orgs"]
  | space => ["space", "spaces"]
  | spaceQuota => ["space-quota", "space-quotas"]

/-- The kind that a word stands for. -/
def Kind.ofWord? (word : String) : Option Kind := [organization, space, spaceQuota].find? (·.words.contains word)

/-- The kinds of entities that can be deleted. -/
inductive DeletableKind where
  | serviceInstance | space
deriving DecidableEq, Repr

/-- The word for a kind. -/
def DeletableKind.word : DeletableKind → String
  | serviceInstance => "service-instance"
  | space => "space"

/-- The kind that a word stands for. -/
def DeletableKind.ofWord? (word : String) : Option DeletableKind := [serviceInstance, space].find? (·.word == word)

/-- What is to be done. -/
inductive Command where
  | list (kind : Kind)
  | get (kind : Kind) (name : String)
  | delete (kind : DeletableKind) (name : String)
deriving DecidableEq, Repr

/-- What a command line asks for. -/
structure Arguments where
  json : Bool
  organization : Option String
  space : Option String
  pollMillis : Option UInt64
  timeoutSecs : Option UInt64
  command : Command
deriving DecidableEq, Repr

/-- The setting that holds the organization where none is given. -/
def organizationSetting : String := "CF_ORGANIZATION"

/-- The setting that holds the space where none is given. -/
def spaceSetting : String := "CF_SPACE"

/-- How jobs are waited for. -/
def Arguments.pollSettings (a : Arguments) : Job.PollSettings where
  interval := a.pollMillis.map fun n => .ofMillis n
  timeout := a.timeoutSecs.map fun n => .ofSecs n

/-- Why a command line asks for nothing. -/
inductive Misuse where
  /-- A value is missing, or is none of those that can be given. -/
  | invalidValue
  /-- A number cannot be read. -/
  | invalidNumber
  | unknownArgument
  | unknownCommand
  /-- A flag is given a value. -/
  | unneededValue
  /-- Something is given twice. -/
  | repeated
  | missingArgument
  | missingCommand
  /-- Nothing at all is given. -/
  | nothingGiven
deriving DecidableEq, Repr

/-- What a command line comes to when it does not ask for anything to be done. -/
inductive Stop where
  | help
  | version
  | misuse (m : Misuse)
deriving DecidableEq, Repr

end ControlPlane.CommandLine
