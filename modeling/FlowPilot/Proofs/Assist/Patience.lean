import FlowPilot.Assist.Loop

/-!
# Patience

Only a wait without time between its looks needs patience. Where time passes, the patience of the
host makes no difference: not to a step, nor to a command or to a whole session.

## Main definitions

* `Desk.Setup.withPatience`: a setup on a host with other patience.

## Main statements

* `Step.Leaf.perform_of_interval`: patience makes no difference to a step.
* `Desk.perform_withPatience`, `Assist.run_withPatience`: nor to a command or a session.
-/

namespace FlowPilot

/-! ### Steps -/

section Interval

variable {interval : Nat} (hinterval : 0 < interval) (w : Wording) (n m : Nat)

include hinterval

theorem Poll.upTo_of_interval {σ ε α : Type} [Clock σ] (timeout : Nat)
    (check : StateM σ (Except ε (Option α))) :
    upTo n timeout interval check = upTo m timeout interval check := by
  unfold upTo
  rw [if_neg (Nat.pos_iff_ne_zero.mp hinterval), if_neg (Nat.pos_iff_ne_zero.mp hinterval)]

theorem Step.Leaf.perform_of_interval (s : Leaf) (timeout : Nat) :
    s.perform ⟨w, n⟩ interval timeout = s.perform ⟨w, m⟩ interval timeout := by
  cases s with
  | waitForUrl s =>
    simp only [perform, WaitForUrl.perform, Poll.upTo_of_interval hinterval n m]
  | assertOnPage s =>
    simp only [perform, AssertOnPage.perform, Poll.upTo_of_interval hinterval n m]
  | ensureSidebarOpen s =>
    simp only [perform, EnsureSidebarOpen.perform, Poll.upTo_of_interval hinterval n m]
  | _ => rfl

end Interval

/-! ### Commands and sessions -/

/-- The same setup on a host with other patience. -/
def Desk.Setup.withPatience (setup : Setup) (m : Nat) : Setup :=
  { setup with host := { setup.host with patience := m } }

namespace Desk

@[simp]
theorem wording_withPatience (setup : Setup) (m : Nat) :
    (setup.withPatience m).host.wording = setup.host.wording := rfl

@[simp]
theorem stamp_withPatience (setup : Setup) (m : Nat) :
    (setup.withPatience m).stamp = setup.stamp := rfl

@[simp]
theorem demandFlow_withPatience (setup : Setup) (m : Nat) (d : Desk) (flow : String) :
    d.demandFlow (setup.withPatience m) flow = d.demandFlow setup flow := rfl

@[simp]
theorem report_withPatience {α : Type} (setup : Setup) (m : Nat) (a : Announcement)
    (action : Act Desk α) : report (setup.withPatience m) a action = report setup a action := rfl

variable {setup : Setup} (hinterval : 0 < setup.limits.pollInterval) (m : Nat)

include hinterval

theorem runSteps_withPatience : runSteps (setup.withPatience m) = runSteps setup := by
  funext file name steps bindings
  have hrunner : Runner.onPage (setup.withPatience m).host setup.limits .lenient file.steps? =
      Runner.onPage setup.host setup.limits .lenient file.steps? := by
    unfold Runner.onPage
    congr 1
    funext task
    exact task.step.perform_of_interval hinterval _ _ _ _
  exact congrArg (fun r => onPage (Runner.run r _)) hrunner

theorem perform_withPatience (c : Command) :
    perform (setup.withPatience m) c = perform setup c := by
  have hsteps := runSteps_withPatience hinterval m
  have hflow : runFlow (setup.withPatience m) = runFlow setup := by
    funext flow
    simp only [runFlow, hsteps, demandFlow_withPatience]
  have hchoose : chooseCategory (setup.withPatience m) = chooseCategory setup := by
    simp only [chooseCategory, hsteps, demandFlow_withPatience, wording_withPatience]
  have hbody : body (setup.withPatience m) c = body setup c := by
    cases c with
    | prepare => simp only [body, hchoose]
    | run | openProvider | openInvoice => simp only [body, hflow]
    | _ => rfl
  unfold perform
  simp only [hbody, report_withPatience]

end Desk

/-- Where time passes between looks, patience makes no difference to a session. -/
theorem Assist.run_withPatience {setup : Desk.Setup} (hinterval : 0 < setup.limits.pollInterval)
    (m : Nat) : run (setup.withPatience m) = run setup := by
  have hanswer : answer (setup.withPatience m) = answer setup := by
    funext line
    simp only [answer, Desk.perform_withPatience hinterval m, Desk.stamp_withPatience]
  have hconverse (lines : List (Option String)) :
      converse (setup.withPatience m) lines = converse setup lines := by
    induction lines with
    | nil => rfl
    | cons line rest ih => simp only [converse, hanswer, ih]
  have hclose := Desk.perform_withPatience hinterval m .teardown
  unfold run
  rw [hclose]
  simp only [hconverse]

end FlowPilot
