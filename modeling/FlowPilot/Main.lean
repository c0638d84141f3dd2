import FlowPilot.Cli.Program

/-! The program: it reads the environment and the flow file, and prints what the command says. -/

namespace FlowPilot

/-- The variables of the environment that the program looks at. -/
def watchedVariables : List String :=
  ["ANEXO_BASE_URL", "AGENT_TOKEN", "IMPORTACION_ID", "AGENT_FLOW_CONFIG", "AGENT_EVIDENCE_DIR",
   "AGENT_HEADLESS", "AGENT_CHROME_PATH", "AGENT_STEP_TIMEOUT_MS", "AGENT_POLL_INTERVAL_MS",
   "AGENT_MAX_NESTING", "AGENT_MAX_STEPS", "OTEL_SERVICE_NAME", "OTEL_EXPORTER_OTLP_ENDPOINT",
   "OTEL_TRACES_SAMPLER_ARG"]

def environment : IO (List (String × String)) := do
  let found ← watchedVariables.mapM fun key => do return (key, ← IO.getEnv key)
  return found.filterMap fun (key, value) => value.map (key, ·)

/-- The content of a file, or why it cannot be read. -/
def fileContent (path : String) : IO (Except FlowFileFault ByteArray) := do
  try return .ok (← IO.FS.readBinFile path)
  catch
    | .noFileOrDirectory .. => return .error .absent
    | e => return .error (.other (toString e))

/-- The path of the flow file that a command line asks for. -/
def flowPathOf (env : String → Option String) (args : List String) : String :=
  match Cli.Invocation.ofArguments args with
  | .ok invocation => (invocation.override (.ofEnvironment env)).flowPath
  | .error _ => (Settings.ofEnvironment env).flowPath

end FlowPilot

open FlowPilot in
/-- Runs the program without a network. -/
def main (args : List String) : IO UInt32 := do
  let found ← environment
  let env (key : String) : Option String := found.lookup key
  let content ← fileContent (flowPathOf env args)
  let result := Cli.run ⟨env, fun _ => content, fun _ => .error "no connection", .brief⟩ args
  (← IO.getStdout).putStr result.stdout
  (← IO.getStderr).putStr result.stderr
  return UInt32.ofNat result.exit
