import FlowPilot.Settings
import FlowPilot.Text.Search

/-!
# The command line

A command line holds options, a command and more options. Options that take a value may stand on
both sides of the command; the later one counts, but on one side an option must not be repeated.

## Main definitions

* `Cli.Command`, `Cli.ValueOption`, `Cli.Switch`: what a command line can hold.
* `Cli.UsageFault`: what is wrong with a command line, or a wish for help.
* `Cli.Invocation.ofArguments`: what a command line asks for.
* `Cli.Invocation.override`: the settings that it changes.
-/

namespace FlowPilot.Cli

inductive Command
  | checkToken
  | plan
  | validate
  | assist
  deriving DecidableEq, Repr

namespace Command

def name : Command → String
  | checkToken => "check-token"
  | plan => "plan"
  | validate => "validate"
  | assist => "assist"

def all : List Command := [checkToken, plan, validate, assist]

def ofName? (s : String) : Option Command := all.find? (·.name == s)

end Command

def helpWord : String := "help"

/-- The options that take a value. -/
inductive ValueOption
  | baseUrl
  | token
  | importId
  | flowPath
  deriving DecidableEq, Repr

namespace ValueOption

def name : ValueOption → String
  | baseUrl => "base-url"
  | token => "token"
  | importId => "importacion"
  | flowPath => "flow-config"

def all : List ValueOption := [baseUrl, token, importId, flowPath]

def ofName? (s : String) : Option ValueOption := all.find? (·.name == s)

end ValueOption

/-- The options that take no value. -/
inductive Switch
  | verbose
  | headless
  | help
  deriving DecidableEq, Repr

namespace Switch

def name : Switch → String
  | verbose => "verbose"
  | headless => "headless"
  | help => "help"

def letter? : Switch → Option Char
  | verbose => some 'v'
  | headless => none
  | help => some 'h'

end Switch

/-- What help is about: the program, a command, or help itself. -/
inductive Topic
  | program
  | command (c : Command)
  | help
  deriving DecidableEq, Repr

/-- What is wrong with a command line, or a wish for help. -/
inductive UsageFault
  | help (topic : Topic)
  | nothingGiven
  | unknownArgument
  | unknownCommand
  | missingCommand
  | missingValue
  | unwantedValue
  | repeated
  deriving DecidableEq, Repr

/-- The part of a command line before or behind the command. -/
structure Level where
  /-- the command, behind it -/
  command : Option Command
  values : List (ValueOption × String) := []
  switches : List Switch := []
  /-- the option read last, with its value once that was read -/
  pending : Option (ValueOption × Option String) := none
  deriving DecidableEq, Repr

namespace Level

/-- The switches that are known: help and verbosity everywhere, the window only for the session. -/
def offers (l : Level) : List Switch :=
  [.verbose, .help] ++ (if l.command = some .assist then [.headless] else [])

def topic (l : Level) : Topic :=
  match l.command with
  | none => .program
  | some c => .command c

/-- Gives an option a value. A path must not be empty. -/
def store (l : Level) (option : ValueOption) (value : String) : Except UsageFault Level :=
  if (l.values.lookup option).isSome then .error .repeated
  else if option = .flowPath ∧ value = "" then .error .missingValue
  else .ok { l with values := l.values ++ [(option, value)] }

/-- Gives the option read last its value. -/
def settle (l : Level) : Except UsageFault Level :=
  match l.pending with
  | none => .ok l
  | some (_, none) => .error .missingValue
  | some (option, some value) => { l with pending := none }.store option value

def turnOn (l : Level) (switch : Switch) : Except UsageFault Level := do
  -- An option that still awaits its value is a fault even before a wish for help.
  let l ← l.settle
  if switch = .help then .error (.help l.topic)
  else if l.switches.contains switch then .error .repeated
  else .ok { l with switches := l.switches ++ [switch] }

/-- Reads an option with two hyphens, with its value if one is attached. -/
def readLong (l : Level) (name : String) (attached : Option String) : Except UsageFault Level :=
  match ValueOption.ofName? name, l.offers.find? (·.name == name), attached with
  | some option, _, some value => do (← l.settle).store option value
  | some option, _, none => do return { ← l.settle with pending := some (option, none) }
  | none, some _, some _ => .error .unwantedValue
  | none, some switch, none => l.turnOn switch
  | none, none, _ => .error .unknownArgument

def readLetters (l : Level) : List Char → Except UsageFault Level
  | [] => .ok l
  | c :: rest => do
    match l.offers.find? (·.letter? == some c) with
    | some switch => readLetters (← l.turnOn switch) rest
    | none => .error .unknownArgument

/-- The fault of an argument that is neither an option nor a command. Behind two hyphens a command
is not one. -/
def stray (l : Level) (arg : String) (behindHyphens : Bool) : UsageFault :=
  let isCommand := (Command.ofName? arg).isSome || arg == helpWord
  if l.command.isSome || (behindHyphens && isCommand) then .unknownArgument else .unknownCommand

/-- What ends a part of a command line. -/
inductive Ending
  | done
  | command (c : Command) (rest : List String)
  | help (rest : List String)
  deriving DecidableEq, Repr

/-- The command that an argument is, before any command and where no value is awaited. -/
def ending? (l : Level) (arg : String) (rest : List String) : Option Ending :=
  -- A word where a value is awaited is that value, even if it is the name of a command.
  if l.command.isSome || l.pending.any (·.2.isNone) then none
  else if arg = helpWord then some (.help rest)
  else (Command.ofName? arg).map (.command · rest)

def readArgument (l : Level) (arg : String) : Except UsageFault Level :=
  match arg.toList with
  | '-' :: '-' :: long =>
    match Text.cutAt (· == '=') long with
    | some (name, value) => l.readLong (String.ofList name) (some (String.ofList value))
    | none => l.readLong (String.ofList long) none
  | '-' :: c :: letters => l.readLetters (c :: letters)
  | _ =>
    match l.pending with
    -- Stored later, so a fault in the form of the next option is found first.
    | some (option, none) => .ok { l with pending := some (option, some arg) }
    | _ => .error (l.stray arg false)

def read (l : Level) : List String → Except UsageFault (Level × Ending)
  | [] => .ok (l, .done)
  | arg :: rest =>
    match l.ending? arg rest with
    | some ending => .ok (l, ending)
    | none =>
      if arg = "--" then
        match rest with
        | [] => .ok (l, .done)
        | next :: _ => .error (l.stray next true)
      else do read (← l.readArgument arg) rest

end Level

structure Invocation where
  command : Command
  values : List (ValueOption × String)
  verbose : Bool
  headless : Bool
  deriving DecidableEq, Repr

namespace Invocation

/-- The help that the words behind `help` ask for. -/
def helpOn : List String → UsageFault
  | [] => .help .program
  | word :: rest =>
    let topic := if word = helpWord then some Topic.help else (Command.ofName? word).map .command
    match topic, rest with
    | some topic, [] => .help topic
    | _, _ => .unknownCommand

/-- The values on both sides of the command; those behind it go first. -/
def merge (before behind : Level) (c : Command) : Invocation where
  command := c
  values := behind.values ++ before.values
  verbose := (before.switches ++ behind.switches).contains .verbose
  headless := behind.switches.contains .headless

/-- What a command line asks for. Faults behind the command are found before those of the last
option in front of it. -/
def ofArguments (args : List String) : Except UsageFault Invocation := do
  let (before, ending) ← ({ command := none } : Level).read args
  match ending with
  | .done =>
    let before ← before.settle
    if before.values.isEmpty && before.switches.isEmpty then .error .nothingGiven
    else .error .missingCommand
  | .help rest => .error (helpOn rest)
  | .command c rest =>
    let (behind, _) ← ({ command := some c } : Level).read rest
    let behind ← behind.settle
    let before ← before.settle
    return merge before behind c

def override (i : Invocation) (s : Settings) : Settings :=
  let value (option : ValueOption) : Option String := i.values.lookup option
  { s with
    baseUrl := (value .baseUrl).getD s.baseUrl
    token := value .token <|> s.token
    importId := value .importId <|> s.importId
    flowPath := (value .flowPath).getD s.flowPath
    headless := s.headless || i.headless }

end Invocation

end FlowPilot.Cli
