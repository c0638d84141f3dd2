import FlowPilot.Coordinator.Event
import FlowPilot.Fault
import FlowPilot.Plan.Basic

/-!
# The coordinator

The coordinator hands out plans and is told what happens. Its answers are arbitrary functions of
what it was asked before.

## Main definitions

* `Coordinator`: how plans are handed out and events are answered.
* `Coordinator.steady`: one plan, and the same answer to every event.
-/

namespace FlowPilot

/-- How plans are handed out and events are answered. -/
structure Coordinator where
  /-- the answer to a request for the plan of an import, after so many earlier requests -/
  plan : (requests : Nat) → (importId : String) → Except Fault Plan
  /-- the answer to an event, after earlier ones -/
  reply : (earlier : List ProgressEvent) → ProgressEvent → Except Fault Json

namespace Coordinator

def planAbsent : Fault := .http 404 "plan not found"

def unavailable : Fault := .http 503 "unavailable"

/-- A coordinator that always hands out one plan and takes either all events or none. -/
def steady (plan : Option Plan) (takesEvents : Bool) : Coordinator where
  plan _ _ :=
    match plan with
    | some plan => .ok plan
    | none => .error planAbsent
  reply _ _ := if takesEvents then .ok (.object [("ok", .bool true)]) else .error unavailable

end Coordinator

end FlowPilot
