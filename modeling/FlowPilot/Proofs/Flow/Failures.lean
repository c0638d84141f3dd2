import FlowPilot.Flow.Runner
import FlowPilot.Proofs.Act

/-!
# Failures of runs

A run fails as one of its steps does, as a template that cannot be filled in or read, or as a
sequence that is refused. So what is known of these failures is known of all failures of a run.

## Main statements

* `Runner.performTry_failsOnly`: the failures of a step that tries two sequences.
* `Runner.runStep_failsOnly`, `Runner.runSteps_failsOnly`: the failures of steps with their
  templates.
-/

namespace FlowPilot.Runner

open Act

variable {σ : Type} {P : Fault → Prop} {r : Runner σ} {nested : Sequence → Act σ Unit}
  {s : Sequence} {depth : Nat}

/-- A step that tries two sequences fails with the failures of both. -/
theorem performTry_failsOnly {step : Step.TrySteps} {timeout : Nat}
    (hfirst : ∀ name, FailsOnly P (nested ⟨name, step.steps, s.bindings, timeout⟩))
    (hsecond : ∀ name, FailsOnly P (nested ⟨name, step.fallbackSteps, s.bindings, timeout⟩))
    (hboth : ∀ primary fallback, P primary → P fallback →
      P (.fallbackExhausted primary fallback)) :
    FailsOnly P (performTry nested s step timeout) := by
  refine (hfirst _).tryCatch fun primary hprimary => ?_
  exact (hsecond _).adapt fun fallback hfallback => hboth primary fallback hprimary hfallback

variable [Clock σ]

/-- Writing a line of the log changes nothing. -/
theorem after_logLine (index : Nat) (kind : String) (progress : LogEntry.Progress) (st : σ) :
    (logLine index kind progress : Act σ LogEntry).after st = st := rfl

theorem logLine_failsOnly (index : Nat) (kind : String) (progress : LogEntry.Progress) :
    FailsOnly P (logLine index kind progress : Act σ LogEntry) :=
  FailsOnly.get.bind fun _ => .pure _

/-- A template that can be filled in and read fails as its step does. -/
theorem runStep_failsOnly {template filled : Json} {step : Step} {index : Nat}
    (hfilled : s.bindings.render r.mode template = .ok filled)
    (hread : Step.ofJson r.wording filled = .ok step)
    (hstep : FailsOnly P (r.performStep nested s depth step)) :
    FailsOnly P (r.runStep nested s depth index template) := by
  unfold runStep
  rw [hfilled, ofExcept_ok_bind, hread]
  refine (logLine_failsOnly _ _ _).bind fun started => ?_
  rw [ofExcept_ok_bind]
  exact hstep.bind fun _ => (logLine_failsOnly _ _ _).bind fun _ => .pure _

/-- A template that can be filled in but not read fails with the reason. -/
theorem runStep_failsOnly_of_unread {template filled : Json} {e : Fault} {index : Nat}
    (hfilled : s.bindings.render r.mode template = .ok filled)
    (hread : Step.ofJson r.wording filled = .error e) (he : P e) :
    FailsOnly P (r.runStep nested s depth index template) := by
  unfold runStep
  rw [hfilled, ofExcept_ok_bind, hread]
  refine (logLine_failsOnly _ _ _).bind fun started => ?_
  rw [ofExcept_error_bind]
  exact .throw he

/-- Templates one after the other fail as one of them does. -/
theorem runSteps_failsOnly {templates : List Json} (h : ∀ template ∈ templates, ∀ index,
      FailsOnly P (r.runStep nested s depth index template)) :
    ∀ index, FailsOnly P (r.runSteps nested s depth index templates) := by
  induction templates with
  | nil => exact fun _ => .pure []
  | cons template rest ih =>
    intro index
    have hrest := ih (fun t ht => h t (List.mem_cons_of_mem _ ht)) (index + 1)
    exact (h template List.mem_cons_self index).bind fun _ => hrest.bind fun _ => .pure _

end FlowPilot.Runner
