import FlowPilot.Json.Basic
import FlowPilot.Session.Launcher

/-!
# The session with the portal

A session holds at most one browser, one context in it and one page in that. Each is opened only
when it is missing, in this order. A new context knows nothing of an earlier login.

## Main definitions

* `Session`: what is open, and whether the operator has logged in.
* `Session.ensure`: opens what is missing.
* `Session.markLoggedIn`, `Session.teardown`.
* `Session.demandPage`, `Session.demandLogin`: what an action needs.
* `Session.snapshot`: the session as the operator sees it.
-/

namespace FlowPilot

/-- What is open, and whether the operator has logged in. -/
structure Session where
  /-- the launcher -/
  launcher : Launcher
  /-- the number of the open browser -/
  browser : Option Nat := none
  /-- the number of the open context -/
  context : Option Nat := none
  /-- the number of the open page -/
  page : Option Nat := none
  loggedIn : Bool := false

/-- A session as the operator sees it. -/
structure Session.Snapshot where
  browserOpen : Bool
  contextReady : Bool
  pageReady : Bool
  loggedIn : Bool
  /-- the address of the page, if it can be read -/
  currentUrl : Option String
  deriving DecidableEq, Repr

namespace Session

def onLauncher {α : Type} : Act Launcher α → Act Session α :=
  Act.onPart Session.launcher fun s launcher => { s with launcher := launcher }

def onPage {α : Type} (act : Act Page α) : Act Session α := onLauncher (Launcher.onPage act)

/-- Opens a browser unless there is one. -/
def ensureBrowser : Act Session Unit := do
  if (← get).browser.isNone then
    let browser ← onLauncher Launcher.launch
    modify fun s => { s with browser := some browser }

/-- Opens a context unless there is one, and tells whether it did. -/
def ensureContext : Act Session Bool := do
  if (← get).context.isNone then
    let context ← onLauncher Launcher.newContext
    modify fun s => { s with context := some context }
    return true
  return false

/-- Opens a page unless there is one. -/
def ensurePage : Act Session Unit := do
  if (← get).page.isNone then
    let page ← onLauncher Launcher.newPage
    modify fun s => { s with page := some page }

/-- Opens what is missing. A login does not outlive its context. -/
def ensure : Act Session Unit := do
  ensureBrowser
  let fresh ← ensureContext
  ensurePage
  -- Not before the page is there: if that fails, an old mark stays beside the new context.
  if fresh then modify fun s => { s with loggedIn := false }

def demandPage (s : Session) : Except Fault Unit :=
  if s.page.isSome then .ok () else .error (.precondition .noPage)

/-- Refuses a session without a page or without a login. -/
def demandLogin (s : Session) : Except Fault Unit := do
  s.demandPage
  if s.loggedIn then .ok () else .error (.precondition .loginPending)

/-- Notes that the operator has logged in. -/
def markLoggedIn (s : Session) : Session := { s with loggedIn := true }

/-- Closes the browser and forgets all that was open, even if closing fails. -/
def teardown : Act Session Unit := do
  let browser := (← get).browser
  -- Forgotten first: a browser that does not close is not told to close again.
  modify fun s => { s with browser := none, context := none, page := none, loggedIn := false }
  match browser with
  | some browser => onLauncher (Launcher.close browser)
  | none => return

/-- The address of the page, if there is a page and its address can be read. -/
def currentUrl : StateM Session (Option String) := do
  if (← get).page.isSome then (some <$> onPage Page.currentUrl).orUse none else return none

/-- The session as the operator sees it. -/
def snapshot : StateM Session Snapshot := do
  let url ← currentUrl
  let s ← get
  return ⟨s.browser.isSome, s.context.isSome, s.page.isSome, s.loggedIn, url⟩

def Snapshot.toJson (s : Snapshot) : Json :=
  .object
    [("browser_open", .bool s.browserOpen), ("context_ready", .bool s.contextReady),
     ("page_ready", .bool s.pageReady), ("logged_in", .bool s.loggedIn),
     ("current_url", Json.orNull .text s.currentUrl)]

end Session

end FlowPilot
