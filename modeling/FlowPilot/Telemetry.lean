import FlowPilot.Number.Reading
import FlowPilot.Text.Blank
import FlowPilot.Text.Uri

/-!
# Telemetry settings

## Main definitions

* `Telemetry`: where traces go and how many are kept.
* `Telemetry.ofEnvironment`: the settings of an environment.
* `Telemetry.sampler`: which traces are kept.
* `Telemetry.isUsable`: whether traces can be sent at all.
-/

namespace FlowPilot

inductive Telemetry.Level
  | info
  | debug
  deriving DecidableEq, Repr

def Telemetry.Level.name : Telemetry.Level → String
  | info => "INFO"
  | debug => "DEBUG"

inductive Telemetry.Sampler
  | all
  | none
  | ratio (r : Binary64)
  deriving DecidableEq, Repr

/-- Where traces go and how many are kept. -/
structure Telemetry where
  /-- the name under which the agent appears -/
  service : String
  endpoint : Option String
  /-- the part of the traces that is kept -/
  samplingRatio : Binary64
  console : Bool
  level : Telemetry.Level
  deriving DecidableEq, Repr

namespace Telemetry

def one : Binary64 := .ofNat 1

/-- A ratio cut to the range from zero to one. -/
def clamp (r : Binary64) : Binary64 :=
  -- A negative zero stays as it is, and so does the undefined value.
  if r.le (.zero false) && !r.isZero then .zero false
  else if one.le r then one
  else r

/-- The settings of an environment. A ratio that is no number is ignored. -/
def ofEnvironment (get : String → Option String) (verbose : Bool) : Telemetry :=
  let given (key : String) : Option String := (get key).filter fun s => !Text.isBlankText s
  { service := (given "OTEL_SERVICE_NAME").getD "sri-agent"
    endpoint := given "OTEL_EXPORTER_OTLP_ENDPOINT"
    samplingRatio :=
      (((get "OTEL_TRACES_SAMPLER_ARG").bind fun s => binary64? (Text.trim s)).map clamp).getD one
    console := true
    level := if verbose then .debug else .info }

def sampler (t : Telemetry) : Sampler :=
  if one.le t.samplingRatio then .all
  else if t.samplingRatio.le (.zero false) then .none
  else .ratio t.samplingRatio

/-- How many outputs there are besides traces. -/
def outputs (t : Telemetry) : Nat := if t.console then 1 else 0

/-- Whether traces can be sent, if they are to be sent. -/
def isUsable (t : Telemetry) : Bool := t.endpoint.all Uri.isWellFormed

end Telemetry

end FlowPilot
