import FlowPilot.Act
import FlowPilot.Clock
import FlowPilot.Flow.Basic
import FlowPilot.Step.Decode
import FlowPilot.Template.Render

/-!
# Running sequences

The steps of a sequence run in order and the first failure ends it. Every template is filled in
just before its step runs. A step that tries one sequence and falls back to another, and a step
that runs another flow, run their sequences one level deeper; sequences that are too long or too
deep are refused before their first step.

The runner does not know what its steps act on: that is a parameter.

## Main definitions

* `Runner`: limits, wording, flows and a way to perform a single step.
* `Runner.permit`: whether a sequence may run at a depth.
* `Runner.run`: runs a sequence and returns its log.
-/

namespace FlowPilot

/-- A step as it is handed over to be performed. -/
structure Runner.Task where
  step : Step.Leaf
  timeout : Nat
  /-- how deep its sequence is nested -/
  depth : Nat
  deriving DecidableEq, Repr

/-- What it takes to run sequences. -/
structure Runner (σ : Type) where
  limits : Limits
  wording : Wording
  mode : RenderMode
  /-- the steps of another flow -/
  stepsOf : String → Option (List Json)
  /-- performs a step that runs no other steps -/
  perform : Runner.Task → Act σ Unit

namespace Runner

variable {σ : Type}

/-- Refuses an empty sequence and one that breaks a limit. -/
def permit (r : Runner σ) (s : Sequence) (depth : Nat) : Except Fault Unit :=
  if s.steps.isEmpty then .error (.config .emptySequence)
  else
    match r.limits.violations s.name s.steps.length depth with
    | [] => .ok ()
    | violations => .error (.configInvalid (violations.map .limit))

/-- Runs the first sequence of a step and, if that fails, the second. Both see the variables of the
sequence that the step belongs to. -/
def performTry (nested : Sequence → Act σ Unit) (s : Sequence) (step : Step.TrySteps)
    (timeout : Nat) : Act σ Unit := do
  let branch (suffix : String) (steps : List Json) : Sequence :=
    { s with name := s.name ++ suffix, steps := steps, timeout := timeout }
  try nested (branch ".trySteps" step.steps)
  catch primary =>
    -- The second failure takes the first one along; what either did to the page stays done.
    ExceptT.adapt (.fallbackExhausted primary)
      (nested (branch ".fallbackSteps" step.fallbackSteps))

/-- Runs the steps of another flow, with further variables. -/
def performAction (r : Runner σ) (nested : Sequence → Act σ Unit) (s : Sequence)
    (step : Step.RunAction) (timeout : Nat) : Act σ Unit := do
  match step.target with
  | none => throw (.missingField "step.action")
  | some name =>
    match r.stepsOf name with
    | none => throw (.config (.noSteps name))
    -- A flow may run itself; only the limit on nesting ends that.
    | some steps => nested ⟨name, steps, s.bindings.overlay step.vars, timeout⟩

/-- Performs a step. `nested` runs a sequence one level deeper. -/
def performStep (r : Runner σ) (nested : Sequence → Act σ Unit) (s : Sequence) (depth : Nat)
    (step : Step) : Act σ Unit :=
  -- What a step with nested steps declares is passed on to those that declare nothing.
  let timeout := r.limits.timeoutOr s.timeout step.timeout
  match step with
  | .leaf leaf => r.perform ⟨leaf, timeout, depth⟩
  | .trySteps step => performTry nested s step timeout
  | .runAction step => r.performAction nested s step timeout

variable [Clock σ]

/-- A line of the log, written now. -/
def logLine (index : Nat) (kind : String) (progress : LogEntry.Progress) : Act σ LogEntry := do
  return ⟨index, kind, Clock.now (← get), progress⟩

/-- Fills in the template of a step and performs it. -/
def runStep (r : Runner σ) (nested : Sequence → Act σ Unit) (s : Sequence) (depth index : Nat)
    (template : Json) : Act σ (List LogEntry) := do
  let filled ← Act.ofExcept (s.bindings.render r.mode template)
  let kind := ((filled.get? "type").bind Json.text?).getD ""
  -- Written before it is known whether there is such a kind of step.
  let started ← logLine index kind .started
  let step ← Act.ofExcept (Step.ofJson r.wording filled)
  r.performStep nested s depth step
  return [started, ← logLine index kind .done]

/-- Runs templates in order, counting from an index. -/
def runSteps (r : Runner σ) (nested : Sequence → Act σ Unit) (s : Sequence) (depth : Nat) :
    (index : Nat) → List Json → Act σ (List LogEntry)
  | _, [] => return []
  | index, template :: rest => do
    let lines ← r.runStep nested s depth index template
    return lines ++ (← runSteps r nested s depth (index + 1) rest)

/-- Runs a sequence at a depth. With no level left the depth is beyond the limit, so that the
sequence is refused. -/
def runAt (r : Runner σ) : (levels depth : Nat) → Sequence → Act σ (List LogEntry)
  -- Here `depth` is `maxNesting + 1`, which `permit` refuses.
  | 0, depth, s => do
    Act.ofExcept (r.permit s depth)
    return []
  | levels + 1, depth, s => do
    Act.ofExcept (r.permit s depth)
    r.runSteps (fun inner => discard (runAt r levels (depth + 1) inner)) s depth 0 s.steps

/-- Runs a sequence. The log names the steps of the sequence itself, not those of nested ones. -/
def run (r : Runner σ) (s : Sequence) : Act σ (List LogEntry) :=
  r.runAt (r.limits.maxNesting + 1) 0 s

end Runner

end FlowPilot
