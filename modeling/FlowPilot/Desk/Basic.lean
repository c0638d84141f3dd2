import FlowPilot.Coordinator.Basic
import FlowPilot.Flow.File
import FlowPilot.Host
import FlowPilot.Limits
import FlowPilot.Session.Basic

/-!
# The operator's desk

At the desk the operator's session, the plan and the coordinator come together.

## Main definitions

* `Desk.Setup`: what a desk is set up for.
* `Desk`: the session, the plan and how far it is worked off.
* `Desk.currentItem?`: the item that is worked on.
-/

namespace FlowPilot

/-- What a desk is set up for. -/
structure Desk.Setup where
  importId : String
  flowPath : String
  evidenceDir : String
  limits : Limits
  host : Host
  coordinator : Coordinator
  /-- writes a time in reports -/
  stamp : Nat → String
  /-- writes the moment of a picture, to the millisecond -/
  fileStamp : Nat → String

def Desk.Setup.checked (setup : Desk.Setup) : Except Fault Desk.Setup :=
  if Text.isBlankText setup.importId then .error (.missingField "importacion_id") else .ok setup

/-- The session, the plan and how far it is worked off. -/
structure Desk where
  session : Session
  /-- the content of the flow file, if it can be read -/
  flowContent : Except FlowFileFault ByteArray
  /-- whether pictures cannot be stored -/
  storeBlocked : Bool := false
  plan : Option Plan := none
  /-- the index of the item that is worked on -/
  cursor : Nat := 0
  /-- how often the plan was asked for -/
  requests : Nat := 0
  /-- the events that were posted, oldest first -/
  posted : List ProgressEvent := []

namespace Desk

def onSession {α : Type} : Act Session α → Act Desk α :=
  Act.onPart Desk.session fun d session => { d with session := session }

def onPage {α : Type} (act : Act Page α) : Act Desk α := onSession (Session.onPage act)

def snapshot : StateM Desk Session.Snapshot := do
  let d ← get
  let (shot, session) := Session.snapshot.run d.session
  set { d with session := session }
  return shot

def now (d : Desk) : Nat := d.session.launcher.page.clock

def currentItem? (d : Desk) : Option PlanItem := d.plan.bind (·.itemAt? d.cursor)

def itemCount (d : Desk) : Nat := (d.plan.map (·.items.length)).getD 0

/-- A text of the current item: the first of some members that is not empty, or a text that stands
for it. -/
def itemText (d : Desk) (keys : List String) (otherwise : String) : String :=
  match (d.currentItem?.map (·.firstText keys)).getD "" with
  | "" => otherwise
  | s => s

end Desk

end FlowPilot
