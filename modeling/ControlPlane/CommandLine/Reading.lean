import ControlPlane.CommandLine.Arguments

/-!
# Reading a command line

A command line is read word by word on two levels. On the first level stand options and then the command; on the level of the
command stand its own words, and options again. Options may be given once on each level, and those of the command count first.
Behind two dashes every word is taken as it is.

A value is looked at when the next word is read, not when it is given; so a fault that is met on the way comes before the fault
of the value behind which it stands, and on the first level a value before the command is looked at only after the command.
-/

namespace ControlPlane.CommandLine

/-- The commands. -/
inductive Verb where
  | list | get | delete
deriving DecidableEq, Repr

/-- What a value is given for. -/
inductive Slot where
  | organization | space | pollMillis | timeoutSecs
  | kind | deletableKind | name
deriving DecidableEq, Repr

/-- The commands with their words. -/
def Verb.words : List (String × Verb) := [("list", .list), ("get", .get), ("delete", .delete)]

/-- The word that asks for help instead of a command. -/
def helpWord : String := "help"

/-- What the words of a command are given for, in their order. -/
def Verb.slots : Verb → List Slot
  | list => [.kind]
  | get => [.kind, .name]
  | delete => [.deletableKind, .name]

/-- The options that take a value. -/
def options : List (String × Slot) :=
  [("org", .organization), ("space", .space), ("poll-interval-ms", .pollMillis), ("timeout-secs", .timeoutSecs)]

/-- What is given on a level. -/
structure Given where
  json : Bool := false
  organization : Option String := none
  space : Option String := none
  pollMillis : Option UInt64 := none
  timeoutSecs : Option UInt64 := none
  kind : Option Kind := none
  deletableKind : Option DeletableKind := none
  name : Option String := none
deriving DecidableEq, Repr

/-- The result of reading a part of a command line. -/
abbrev Read := Except Stop

namespace Given

/-- Puts a value where none is yet. -/
def fill {α : Type} (old : Option α) (value : Option α) (fault : Misuse) : Read (Option α) :=
  if old.isSome then .error (.misuse .repeated)
  else if value.isSome then .ok value
  else .error (.misuse fault)

/-- Takes a value. -/
def put (g : Given) (value : String) : Slot → Read Given
  | .organization => (fill g.organization (some value) .invalidValue).map ({ g with organization := · })
  | .space => (fill g.space (some value) .invalidValue).map ({ g with space := · })
  | .pollMillis => (fill g.pollMillis (Decimal.word64? value) .invalidNumber).map ({ g with pollMillis := · })
  | .timeoutSecs => (fill g.timeoutSecs (Decimal.word64? value) .invalidNumber).map ({ g with timeoutSecs := · })
  | .kind => (fill g.kind (Kind.ofWord? value) .invalidValue).map ({ g with kind := · })
  | .deletableKind =>
    (fill g.deletableKind (DeletableKind.ofWord? value) .invalidValue).map ({ g with deletableKind := · })
  | .name => (fill g.name (some value) .invalidValue).map ({ g with name := · })

/-- Takes the flag for JSON. -/
def putJson (g : Given) : Read Given :=
  if g.json then .error (.misuse .repeated) else .ok { g with json := true }

end Given

/-- A slot whose value is not looked at yet, or not even given. -/
structure Pending where
  slot : Slot
  value : Option String
deriving DecidableEq, Repr

/-- How far the reading of a level has come. -/
structure Progress where
  given : Given := {}
  pending : Option Pending := none
  /-- What the words to come are given for. -/
  slots : List Slot
  /-- Whether two dashes have been read. -/
  trailing : Bool := false
deriving DecidableEq, Repr

namespace Progress

/-- Looks at the value that is pending. -/
def settle (p : Progress) : Read Progress :=
  match p.pending with
  | none => .ok p
  | some ⟨_, none⟩ => .error (.misuse .invalidValue)
  | some ⟨slot, some value⟩ => (p.given.put value slot).map fun given => { p with given, pending := none }

/-- Whether the next word is the value of an option. -/
def awaitsValue (p : Progress) : Bool := p.pending.any (·.value.isNone)

end Progress

/-! ## Words -/

/-- The forms of words. -/
inductive Word where
  /-- Two dashes. -/
  | dashes
  /-- Two dashes and a name, perhaps with a value behind an equals sign. -/
  | long (name : String) (value : Option String)
  /-- A dash and letters. -/
  | short (first : Char)
  | plain
deriving DecidableEq, Repr

/-- The form of a word. -/
def Word.ofString (s : String) : Word :=
  match s.toList with
  | ['-', '-'] => dashes
  | '-' :: '-' :: rest =>
    let value := if rest.contains '=' then some (String.ofList ((rest.dropWhile (· ≠ '=')).drop 1)) else none
    long (String.ofList (rest.takeWhile (· ≠ '='))) value
  | '-' :: c :: _ => short c
  | _ => plain

/-- Whether a word is a command, or asks for help instead of one. -/
def isCommandWord (s : String) : Bool := (Verb.words.lookup s).isSome || s == helpWord

/-- The misuse of a word that nothing is left for. -/
def surplus (level : Option Verb) (trailing : Bool) (s : String) : Misuse :=
  match level with
  | some _ => .unknownArgument
  | none => if trailing && isCommandWord s then .unknownArgument else .unknownCommand

/-- Reads a word that is no option. -/
def readPlain (level : Option Verb) (p : Progress) (s : String) : Read Progress :=
  match p.slots with
  | [] => .error (.misuse (surplus level p.trailing s))
  | slot :: slots => p.settle.map fun p => { p with pending := some ⟨slot, some s⟩, slots }

/-- Reads a flag that asks for something else than a command. -/
def readStop (p : Progress) (value : Option String) (stop : Stop) : Read Progress :=
  if value.isSome then .error (.misuse .unneededValue)
  else do
    discard p.settle
    .error stop

/-- Reads an option with a name. Only the first level knows a version. -/
def readLong (level : Option Verb) (p : Progress) (name : String) (value : Option String) : Read Progress := do
  match options.lookup name with
  | some slot =>
    let p ← p.settle
    match value with
    | some v => return { p with given := ← p.given.put v slot }
    | none => return { p with pending := some ⟨slot, none⟩ }
  | none =>
    if name = "json" then
      if value.isSome then .error (.misuse .unneededValue)
      else
        let p ← p.settle
        return { p with given := ← p.given.putJson }
    else if name = "help" then readStop p value .help
    else if name = "version" ∧ level = none then readStop p value .version
    else .error (.misuse .unknownArgument)

/-- Reads an option of one letter. -/
def readShort (level : Option Verb) (p : Progress) (letter : Char) : Read Progress :=
  if letter = 'h' then readStop p none .help
  else if letter = 'V' ∧ level = none then readStop p none .version
  else .error (.misuse .unknownArgument)

/-- Reads one word that is no command. -/
def readWord (level : Option Verb) (p : Progress) (s : String) : Read Progress :=
  if p.trailing then readPlain level p s
  else
    match Word.ofString s with
    | .dashes => .ok { p with trailing := true }
    | .long name value => readLong level p name value
    | .short letter => readShort level p letter
    | .plain =>
      if p.awaitsValue then .ok { p with pending := p.pending.map fun q => { q with value := some s } }
      else readPlain level p s

/-! ## Levels -/

/-- The words that may stand behind the word for help: at most one, which names a command or help itself. -/
def helpFor : List String → Stop
  | [] => .help
  | [word] => if isCommandWord word then .help else .misuse .unknownCommand
  | _ => .misuse .unknownCommand

/-- Reads the level of a command. -/
def readCommand (verb : Verb) (p : Progress) (words : List String) : Read Given := do
  let p ← words.foldlM (readWord (some verb)) p
  return (← p.settle).given

/-- The command for what is given. -/
def Verb.command? (verb : Verb) (g : Given) : Option Command :=
  match verb with
  | list => return .list (← g.kind)
  | get => return .get (← g.kind) (← g.name)
  | delete => return .delete (← g.deletableKind) (← g.name)

/-- What the first level and the command together ask for. Settings stand in for a target that is not given. -/
def combine (setting? : String → Option String) (outer inner : Given) (command : Command) : Arguments where
  json := outer.json || inner.json
  organization := inner.organization <|> outer.organization <|> setting? organizationSetting
  space := inner.space <|> outer.space <|> setting? spaceSetting
  pollMillis := inner.pollMillis <|> outer.pollMillis
  timeoutSecs := inner.timeoutSecs <|> outer.timeoutSecs
  command := command

/-- Reads a command and the words behind it, before the value that is pending on the first level is looked at. -/
def readFrom (setting? : String → Option String) (outer : Progress) (verb : Verb) (words : List String) :
    Read Arguments := do
  let inner ← readCommand verb { slots := verb.slots } words
  match verb.command? inner with
  | none => .error (.misuse .missingArgument)
  | some command => return combine setting? (← outer.settle).given inner command

/-- The end of a command line without command. -/
def readEnd (setting? : String → Option String) (outer : Progress) : Read Arguments := do
  let g := (← outer.settle).given
  let settings := [setting? organizationSetting, setting? spaceSetting]
  if g = {} ∧ settings.all Option.isNone then .error (.misuse .nothingGiven)
  else .error (.misuse .missingCommand)

/-- Reads words on the first level. -/
def readOuter (setting? : String → Option String) (p : Progress) : List String → Read Arguments
  | [] => readEnd setting? p
  | s :: rest =>
    if p.trailing || p.awaitsValue then do readOuter setting? (← readWord none p s) rest
    else if s = helpWord then .error (helpFor rest)
    else
      match Verb.words.lookup s with
      | some verb => readFrom setting? p verb rest
      | none => do readOuter setting? (← readWord none p s) rest

/-- Reads a command line, with the settings that stand in for what is not given. -/
def read (setting? : String → Option String) (words : List String) : Read Arguments :=
  readOuter setting? { slots := [] } words

end ControlPlane.CommandLine
