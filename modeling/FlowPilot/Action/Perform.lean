import FlowPilot.Action.Expectation
import FlowPilot.Action.Navigation
import FlowPilot.Action.Sidebar
import FlowPilot.Action.TableClick

/-!
# Performing a step on the page

## Main definitions

* `Step.Leaf.perform`: any step that acts on the page.
-/

namespace FlowPilot.Step

/-- Performs a step on the page. `interval` is the time between two looks at a condition. -/
def Leaf.perform (host : Host) (interval : Nat) (s : Leaf) (timeout : Nat) : Act Page Unit :=
  match s with
  | .goto s => s.perform
  | .click s => s.perform
  | .clickAny s => discard s.perform
  | .fill s => s.perform
  | .select s => s.perform
  | .waitForSelector s => s.perform timeout
  | .waitForUrl s => s.perform host timeout interval
  | .expectText s => s.perform
  | .press s => s.perform
  | .assertOnPage s => s.perform host timeout interval
  | .clickRowAction s => discard (s.perform timeout)
  | .clickTableCellLink s => discard (s.perform timeout)
  | .ensureSidebarOpen s => s.perform host timeout interval

end FlowPilot.Step
