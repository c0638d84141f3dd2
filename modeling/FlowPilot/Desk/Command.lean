import FlowPilot.Desk.Category

/-!
# What the operator can ask for

## Main definitions

* `Desk.Command`: the commands.
* `Desk.Reply`: what they answer.
* `Desk.perform`: what a command does.
-/

namespace FlowPilot

/-- What loading the plan answers. -/
structure PlanReport where
  count : Nat
  position : PlanPosition
  /-- what is wrong with the flow file -/
  issues : List String
  /-- why the flow file cannot be used -/
  fault : Option Fault
  deriving Repr

namespace Desk

/-- What the operator can ask for. -/
inductive Command
  | openBrowser
  | goto (url : String)
  | markLogin
  | status
  | loadPlan
  | openProvider
  | openInvoice
  | run (flow : String)
  | prepare
  | confirm
  | capture (label : Option String)
  | teardown
  deriving DecidableEq, Repr

inductive Reply
  | snapshot (shot : Session.Snapshot)
  | flow (run : FlowRun)
  | plan (report : PlanReport)
  | prepared (selected : String)
  | position (p : PlanPosition)
  | evidence (e : Evidence)
  | nothing
  deriving Repr

def navigate (url : String) : Act Desk Session.Snapshot := do
  let address ← Act.ofExcept (if Text.isBlankText url then .error (.missingField "target URL")
    else .ok (Text.trim url))
  Act.ofExcept (← get).session.demandPage
  onPage (Page.goto address)
  snapshot

/-- Loads the plan and begins with its first item. The flow file is looked at too, but may be
incomplete. -/
def loadPlan (setup : Setup) : Act Desk PlanReport := do
  let d ← get
  -- Before the answer: a refused request counts too.
  set { d with requests := d.requests + 1 }
  let plan ← Act.ofExcept (setup.coordinator.plan d.requests setup.importId)
  -- The plan is kept even if the coordinator refuses the event about it.
  modify fun d => { d with plan := some plan, cursor := 0 }
  let (issues, fault) : List String × Option Fault :=
    match d.readFlowFile setup with
    | .ok file => ((file.issues setup.limits).map ConfigIssue.message, none)
    | .error fault => ([ConfigIssue.notAnObject.message], some fault)
  let count := plan.items.length
  post setup { step := "plan_loaded", message := "" } .ok
    ("Plan con " ++ toString count ++ " acciones.")
  return ⟨count, (← get).position, issues, fault⟩

/-- The label of a picture; a blank one means that the operator asked for it. -/
def pictureLabel (label : Option String) : String := (label.bind Text.trimmed?).getD "manual"

def takePicture (setup : Setup) (label : String) : Act Desk Evidence := do
  if (← get).session.page.isSome then capture setup label
  else throw (.precondition .nothingToCapture)

/-- What a command says about itself, at the desk as it is before the command. -/
def announcement (d : Desk) : Command → Announcement
  | .openBrowser => { step := "browser_open", message := "Browser opened" }
  | .goto url => { step := "goto", message := "Navigated to " ++ url }
  | .markLogin => { step := "login_marked", message := "Login marked as complete" }
  | .status => { step := "status_check", message := "Status checked" }
  | .openProvider =>
    { step := FlowFile.providerFlow,
      message :=
        "Proveedor abierto (" ++ d.itemText ["proveedor_ruc", "proveedor_id"] "N/A" ++ ")." }
  | .openInvoice =>
    { step := FlowFile.invoiceFlow,
      message := "Factura abierta (" ++ d.itemText ["clave_acceso", "factura_id"] "N/A" ++ ").",
      extra := d.invoiceMember }
  | .run flow =>
    { step := flow, message := "Flujo " ++ flow ++ " ejecutado.", extra := d.invoiceMember }
  | .prepare =>
    { step := FlowFile.applySection, message := "Categoria preparada", extra := d.invoiceMember,
      silent := true }
  | .confirm =>
    { step := FlowFile.applySection,
      message := "Categoria " ++ d.itemText ["categoria_nombre", "categoria_id"] "categoria"
        ++ " aplicada a " ++ d.itemText ["clave_acceso", "factura_id"] "factura" ++ ".",
      extra := d.invoiceMember }
  | .capture label =>
    { step := "screenshot", message := "Screenshot captured: " ++ pictureLabel label }
  | .loadPlan => { step := "plan_loaded", message := "" }
  | .teardown => { step := "", message := "" }

/-- What a command does, reports apart. -/
def body (setup : Setup) : Command → Act Desk Reply
  | .openBrowser => do
    onSession Session.ensure
    return .snapshot (← snapshot)
  | .goto url => return .snapshot (← navigate url)
  | .markLogin => do
    modify fun d => { d with session := d.session.markLoggedIn }
    return .snapshot (← snapshot)
  | .status => return .snapshot (← snapshot)
  | .loadPlan => return .plan (← loadPlan setup)
  | .openProvider => return .flow (← runFlow setup FlowFile.providerFlow)
  | .openInvoice => return .flow (← runFlow setup FlowFile.invoiceFlow)
  | .run flow => return .flow (← runFlow setup flow)
  | .prepare => return .prepared (← chooseCategory setup)
  | .confirm => return .position (← confirmCategory setup)
  | .capture label => return .evidence (← takePicture setup (pictureLabel label))
  | .teardown => do
    onSession Session.teardown
    return .nothing

/-- Performs a command. Loading the plan posts an event of its own, and the end of the session is
not reported. -/
def perform (setup : Setup) (c : Command) : Act Desk Reply := do
  match c with
  | .loadPlan | .teardown => body setup c
  | _ => report setup ((← get).announcement c) (body setup c)

def logLine (stamp : Nat → String) (e : LogEntry) : Json :=
  .object
    [("index", .nat e.index), ("type", .text e.kind), ("ts", .text (stamp e.time)),
     ("status", .text e.progress.name)]

def positionMembers (p : PlanPosition) : Json.Members :=
  [("current_index", .nat p.index), ("current_item", Json.orNull PlanItem.toJson p.item)]

/-- A reply in reports, with its members in the order in which the operator reads them. -/
def Reply.toJson (stamp : Nat → String) : Reply → Json
  | .snapshot shot => shot.toJson
  | .flow run =>
    .object [("snapshot", run.snapshot.toJson), ("logs", .array (run.log.map (logLine stamp)))]
  | .plan r =>
    .object ([("actions_count", .nat r.count)] ++ positionMembers r.position
      ++ [("config_issues", Json.texts r.issues),
          ("config_error", Json.orNull (fun f => .text f.message) r.fault)])
  | .prepared selected => .object [("selected", .text selected)]
  | .position p => .object (positionMembers p)
  | .evidence e =>
    .object [("file_path", .text e.filePath), ("sha256", .text e.sha256), ("size", .nat e.size)]
  | .nothing => .null

end Desk

end FlowPilot
