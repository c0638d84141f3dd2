import FlowPilot.Cli.Help
import FlowPilot.Coordinator.Client
import FlowPilot.Flow.Validation
import FlowPilot.Telemetry

/-!
# The program

## Main definitions

* `Cli.World`: the environment, the files, the network and the words of libraries.
* `Cli.Result`: what is printed, and the exit code.
* `Cli.run`: the program on a command line.
-/

namespace FlowPilot.Cli

/-- The environment, the files, the network and the words of libraries. -/
structure World where
  env : String → Option String
  contentAt : String → Except FlowFileFault ByteArray
  transport : Transport
  wording : Wording

/-- What is printed, and the exit code. -/
structure Result where
  exit : Nat
  stdout : String
  stderr : String
  deriving DecidableEq, Repr

/-- What a command prints, and its failure in words. -/
structure Outcome where
  stdout : String
  failure : Option String
  deriving DecidableEq, Repr

def Outcome.ofExcept : Except Fault String → Outcome
  | .ok text => ⟨text, none⟩
  | .error f => ⟨"", some f.userMessage⟩

def client (s : Settings) : Except Fault Client := do Client.of s.baseUrl (← s.demandToken)

def checkToken (world : World) (s : Settings) : Except Fault String := do
  let me ← (← client s).checkToken world.transport
  return "✅ Token válido em " ++ s.baseUrl ++ "\n" ++ me.pretty ++ "\n"

def printPlan (world : World) (s : Settings) : Except Fault String := do
  let id ← s.demandImportId
  let plan ← (← client s).fetchRawPlan world.transport id
  return plan.pretty ++ "\n"

/-- Checks the flow file; its issues are printed and are a failure too. -/
def validate (world : World) (s : Settings) : Outcome :=
  match FlowFile.read world.wording s.flowPath (world.contentAt s.flowPath) with
  | .error f => ⟨"", some f.userMessage⟩
  | .ok file =>
    match file.issues s.limits with
    | [] => ⟨"✅ " ++ s.flowPath ++ " OK\n", none⟩
    | issues =>
      ⟨"".intercalate (issues.map fun i => "   - " ++ i.message ++ "\n"),
        some (Fault.configInvalid issues).userMessage⟩

def noBrowser : String :=
  "binário compilado sem a feature `chrome`; recompile com --features chrome"

/-- Begins an assisted session, for which there is no browser here. -/
def assist (s : Settings) : Outcome :=
  let ready : Except Fault Client := do
    let _ ← s.demandImportId
    client s
  match ready with
  | .error f => ⟨"", some f.userMessage⟩
  | .ok _ => ⟨"", some noBrowser⟩

def perform (world : World) (s : Settings) : Command → Outcome
  | .checkToken => .ofExcept (checkToken world s)
  | .plan => .ofExcept (printPlan world s)
  | .validate => validate world s
  | .assist => assist s

def telemetryWarning (w : Wording) (t : Telemetry) : String :=
  if t.isUsable then ""
  else "⚠️  Telemetria indisponível: " ++ w.endpoint (t.endpoint.getD "") ++ "\n"

/-- The end of the program on a wrong command line or a wish for help. -/
def usageResult (w : Wording) (args : List String) : UsageFault → Result
  | .help topic => ⟨0, topic.text, ""⟩
  | .nothingGiven => ⟨2, "", Topic.program.text⟩
  | _ => ⟨2, "", w.usage args⟩

def run (world : World) (args : List String) : Result :=
  match Invocation.ofArguments args with
  | .error fault => usageResult world.wording args fault
  | .ok invocation =>
    let warning := telemetryWarning world.wording (.ofEnvironment world.env invocation.verbose)
    let settings := invocation.override (.ofEnvironment world.env)
    let outcome := perform world settings invocation.command
    match outcome.failure with
    | none => ⟨0, outcome.stdout, warning⟩
    | some text => ⟨1, outcome.stdout, warning ++ "❌ " ++ text ++ "\n"⟩

end FlowPilot.Cli
