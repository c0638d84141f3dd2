import FlowPilot.Json.Basic

/-!
# Progress events

## Main definitions

* `ProgressEvent`: what the coordinator is told about an action.
* `ProgressEvent.toJson`: the event as it is sent.
-/

namespace FlowPilot

inductive ProgressEvent.Status
  | ok
  | error
  | pending
  deriving DecidableEq, Repr

def ProgressEvent.Status.name : ProgressEvent.Status → String
  | ok => "ok"
  | error => "error"
  | pending => "pending"

/-- What the coordinator is told about an action. -/
structure ProgressEvent where
  importId : String
  step : String
  status : ProgressEvent.Status
  message : String
  time : Nat
  /-- further members -/
  extra : Json.Members
  deriving Repr

/-- The event as it is sent. Further members go before the fixed ones. `stamp` writes a time. -/
def ProgressEvent.toJson (stamp : Nat → String) (e : ProgressEvent) : Json :=
  .ofMembers
    ([("importacion_id", .text e.importId), ("step", .text e.step),
      ("status", .text e.status.name), ("message", .text e.message),
      ("ts", .text (stamp e.time))] ++ e.extra)

end FlowPilot
