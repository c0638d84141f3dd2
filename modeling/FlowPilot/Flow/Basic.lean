import FlowPilot.Limits
import FlowPilot.Template.Bindings

/-!
# Sequences of steps

## Main definitions

* `Sequence`: step templates with the variables that they see.
* `LogEntry`: a line of the log of a sequence.
-/

namespace FlowPilot

/-- Step templates that run one after the other. -/
structure Sequence where
  name : String
  steps : List Json
  bindings : Bindings
  /-- the time of a step that declares none -/
  timeout : Nat
  deriving Repr

/-- How far a step has come. -/
inductive LogEntry.Progress
  | started
  | done
  deriving DecidableEq, Repr

def LogEntry.Progress.name : LogEntry.Progress → String
  | started => "start"
  | done => "ok"

/-- A line of the log of a sequence. -/
structure LogEntry where
  index : Nat
  /-- the kind that its template names -/
  kind : String
  time : Nat
  progress : LogEntry.Progress
  deriving DecidableEq, Repr

end FlowPilot
