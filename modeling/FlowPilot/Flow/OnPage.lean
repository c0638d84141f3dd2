import FlowPilot.Action.Perform
import FlowPilot.Flow.Runner

/-!
# Running sequences on a page

## Main definitions

* `Runner.onPage`: the runner whose steps act on a page.
-/

namespace FlowPilot.Runner

/-- The runner whose steps act on a page. -/
def onPage (host : Host) (limits : Limits) (mode : RenderMode)
    (stepsOf : String → Option (List Json)) : Runner Page where
  limits := limits
  wording := host.wording
  mode := mode
  stepsOf := stepsOf
  perform task := task.step.perform host limits.pollInterval task.timeout

end FlowPilot.Runner
