import FlowPilot.Number.Reading
import FlowPilot.Text.Blank

/-!
# Limits of a run

Limits protect the runner against flow files that are far too long, nest without end or wait for
hours. Times are whole milliseconds.

## Main definitions

* `Limits`: the limits, with `Limits.usual`, `Limits.strict` and `Limits.ofEnvironment`.
* `Limits.timeoutFor`: the time that a step gets.
* `Limits.violations`: which limits a sequence breaks.
-/

namespace FlowPilot

/-- The limits of a run. -/
structure Limits where
  /-- the time of a step that declares none -/
  stepTimeout : Nat
  /-- the time between two looks at a condition -/
  pollInterval : Nat
  /-- the greatest time that a step may declare -/
  maxStepTimeout : Nat
  maxNesting : Nat
  maxSteps : Nat
  deriving DecidableEq, Repr

namespace Limits

/-- The limits that hold when nothing else is said. -/
def usual : Limits := ⟨15000, 250, 120000, 5, 100⟩

def strict : Limits := ⟨300, 10, 2000, 2, 20⟩

/-- The limits of an environment. A variable that is no whole number is ignored. -/
def ofEnvironment (get : String → Option String) : Limits :=
  let number (key : String) := (get key).bind fun v => natural? (Text.trim v)
  -- The greatest time of a step cannot be set.
  { usual with
    stepTimeout := (number "AGENT_STEP_TIMEOUT_MS").getD usual.stepTimeout
    pollInterval := (number "AGENT_POLL_INTERVAL_MS").getD usual.pollInterval
    maxNesting := (number "AGENT_MAX_NESTING").getD usual.maxNesting
    maxSteps := (number "AGENT_MAX_STEPS").getD usual.maxSteps }

/-- A declared positive time, cut to the greatest one; `default` when none is declared. -/
def timeoutOr (l : Limits) (default : Nat) : Option Nat → Nat
  | some ms => if 0 < ms then min ms l.maxStepTimeout else default
  | none => default

/-- The time of a step on its own. -/
def timeoutFor (l : Limits) (declared : Option Nat) : Nat := l.timeoutOr l.stepTimeout declared

inductive Subject
  | length
  | nesting
  deriving DecidableEq, Repr

def Subject.name : Subject → String
  | length => "max_steps"
  | nesting => "max_nesting"

/-- A limit that a sequence breaks. -/
structure Violation where
  subject : Subject
  flow : String
  limit : Nat
  actual : Nat
  deriving DecidableEq, Repr

def Violation.message (v : Violation) : String :=
  match v.subject with
  | .length =>
    v.flow ++ " tem " ++ toString v.actual ++ " steps, máximo permitido é " ++ toString v.limit
  | .nesting =>
    v.flow ++ " aninha " ++ toString v.actual
      ++ " níveis de trySteps/runAction, máximo permitido é " ++ toString v.limit

/-- The limits that a sequence of so many steps breaks at some depth. -/
def violations (l : Limits) (flow : String) (length depth : Nat) : List Violation :=
  (if l.maxSteps < length then [⟨.length, flow, l.maxSteps, length⟩] else [])
    ++ (if l.maxNesting < depth then [⟨.nesting, flow, l.maxNesting, depth⟩] else [])

end Limits

end FlowPilot
