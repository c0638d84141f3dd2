import FlowPilot.Fault
import FlowPilot.Text.Case

/-!
# Settings

Settings come from the environment; a blank variable counts as unset.

## Main definitions

* `Settings`: what the agent is set up with.
* `Settings.ofEnvironment`: the settings of an environment.
* `Settings.demandToken`, `Settings.demandImportId`: settings that some commands need.
-/

namespace FlowPilot

/-- What the agent is set up with. -/
structure Settings where
  baseUrl : String
  token : Option String
  importId : Option String
  flowPath : String
  evidenceDir : String
  /-- whether the browser shows no window -/
  headless : Bool
  browserPath : Option String
  limits : Limits
  deriving DecidableEq, Repr

namespace Settings

/-- The texts that mean yes. -/
def affirmations : List String := ["1", "true", "yes", "on"]

def ofEnvironment (get : String → Option String) : Settings :=
  let text (key : String) : Option String := (get key).bind Text.trimmed?
  { baseUrl := (text "ANEXO_BASE_URL").getD "http://localhost:8000"
    token := text "AGENT_TOKEN"
    importId := text "IMPORTACION_ID"
    flowPath := (text "AGENT_FLOW_CONFIG").getD "sri_flow_config.json"
    evidenceDir := (text "AGENT_EVIDENCE_DIR").getD "tmp/agent_desktop_screenshots"
    headless := (text "AGENT_HEADLESS").any fun s => affirmations.contains (Text.asciiLower s)
    browserPath := text "AGENT_CHROME_PATH"
    limits := .ofEnvironment get }

def demandToken (s : Settings) : Except Fault String :=
  match s.token with
  | some token => .ok token
  | none => .error (.missingField "token")

def demandImportId (s : Settings) : Except Fault String :=
  match s.importId with
  | some id => .ok id
  | none => .error (.missingField "importacion_id")

end Settings

end FlowPilot
