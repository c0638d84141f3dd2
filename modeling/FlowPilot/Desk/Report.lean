import FlowPilot.Desk.Basic
import FlowPilot.Evidence

/-!
# Reporting actions

An action that succeeds posts one event, and fails if that cannot be posted. An action that fails
takes a picture and posts an error event if it can; neither changes how it failed.

## Main definitions

* `Desk.capture`: stores a picture of the page.
* `Announcement`: what an action says about itself.
* `Desk.report`: an action with its events.
-/

namespace FlowPilot

/-- What an action says about itself. -/
structure Announcement where
  step : String
  /-- what its success means -/
  message : String
  /-- further members of its events -/
  extra : Json.Members := []
  /-- whether success goes without an event -/
  silent : Bool := false
  deriving Repr

namespace Desk

def isAbsolute (path : String) : Bool := path.toList.head? == some '/'

/-- A file in a directory. A path that begins at the root stays what it is. -/
def pathIn (dir file : String) : String :=
  if isAbsolute file then file
  else if dir = "" then file
  else if dir.toList.getLast? = some '/' then dir ++ file
  else dir ++ "/" ++ file

def capture (setup : Setup) (label : String) : Act Desk Evidence := do
  -- Before the page is asked, so that no picture is taken in vain.
  if (← get).storeBlocked then throw (.file .alreadyExists)
  let picture ← onPage Page.screenshot
  let file := Evidence.fileName (setup.fileStamp (← get).now) label
  return Evidence.describe (pathIn setup.evidenceDir file) picture

def post (setup : Setup) (a : Announcement) (status : ProgressEvent.Status) (message : String) :
    Act Desk Unit := do
  let d ← get
  let event : ProgressEvent := ⟨setup.importId, a.step, status, message, d.now, a.extra⟩
  -- Posted whatever the coordinator answers, who knows the events before this one.
  set { d with posted := d.posted ++ [event] }
  discard (Act.ofExcept (setup.coordinator.reply d.posted event))

/-- The failure of an action, with a picture if one can be taken, after an error event if it can be
posted. -/
def failure (setup : Setup) (a : Announcement) (cause : Fault) : StateM Desk Fault := do
  let evidence ←
    if (← get).session.page.isSome then
      (some <$> capture setup ("error_" ++ a.step)).orUse none
    else pure none
  -- The message shows the evidence, so the picture comes before the event.
  let fault : Fault := .stepFailed a.step cause evidence
  (post setup a .error fault.message).orUse ()
  return fault

/-- An action with its events. -/
def report {α : Type} (setup : Setup) (a : Announcement) (action : Act Desk α) : Act Desk α := do
  try
    let result ← action
    unless a.silent do post setup a .ok a.message
    return result
  catch cause => throw (← failure setup a cause)

/-- The identifier of the current invoice as a member of events, if it says anything. -/
def invoiceMember (d : Desk) : Json.Members :=
  match d.currentItem?.bind fun item => item.members.lookup "factura_id" with
  | none | some .null | some (.bool false) | some (.text "") => []
  | some id => [("factura_id", id)]

end Desk

end FlowPilot
