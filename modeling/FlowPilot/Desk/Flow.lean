import FlowPilot.Desk.Report
import FlowPilot.Flow.OnPage
import FlowPilot.Flow.Validation
import FlowPilot.Plan.Bindings

/-!
# Running flows at the desk

A flow runs for the current item of the plan. Page, login, plan, item and flow file are checked
first, in this order, and nothing on the page is touched before.

## Main definitions

* `Desk.demandItem`: the current item, if the operator may work on it.
* `Desk.demandFlow`: the flow file, if a flow in it is complete.
* `Desk.runFlow`: runs a flow for the current item.
-/

namespace FlowPilot

structure FlowRun where
  snapshot : Session.Snapshot
  log : List LogEntry
  deriving Repr

namespace Desk

/-- The current item, if there is a page, a login and a plan with items. -/
def demandItem (d : Desk) : Except Fault PlanItem := do
  d.session.demandLogin
  match d.plan with
  | none => .error (.precondition .noPlan)
  | some plan =>
    match plan.itemAt? d.cursor with
    | none => .error (.precondition .planEmpty)
    | some item => .ok item

def readFlowFile (setup : Setup) (d : Desk) : Except Fault FlowFile :=
  FlowFile.read setup.host.wording setup.flowPath d.flowContent

/-- The flow file, if a flow in it is complete. -/
def demandFlow (setup : Setup) (d : Desk) (flow : String) : Except Fault FlowFile := do
  let file ← d.readFlowFile setup
  file.demandFlow setup.limits flow
  return file

/-- The variables that steps see while an item is worked on. -/
def bindingsFor (item : PlanItem) (file : FlowFile) : Bindings :=
  item.bindings [("target_url_login", .text file.loginUrl)]

def runSteps (setup : Setup) (file : FlowFile) (name : String) (steps : List Json)
    (bindings : Bindings) : Act Desk (List LogEntry) :=
  -- At the desk a variable without a text is filled in as the empty text.
  onPage ((Runner.onPage setup.host setup.limits .lenient file.steps?).run
    ⟨name, steps, bindings, setup.limits.stepTimeout⟩)

/-- Runs a flow for the current item. -/
def runFlow (setup : Setup) (flow : String) : Act Desk FlowRun := do
  let item ← Act.ofExcept (← get).demandItem
  let file ← Act.ofExcept ((← get).demandFlow setup flow)
  let log ← runSteps setup file flow ((file.steps? flow).getD []) (bindingsFor item file)
  return ⟨← snapshot, log⟩

end Desk

end FlowPilot
