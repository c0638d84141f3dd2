import FlowPilot.Json.Basic
import FlowPilot.Page.Vocabulary
import FlowPilot.Step.Kind
import FlowPilot.Text.Blank

/-!
# Steps

A step is one instruction of a flow, after its template was filled in. Thirteen kinds act on the
page; `trySteps` and `runAction` run further sequences, which stay templates until they run.

## Main definitions

* `Step.Leaf`: the steps that act on the page.
* `Step`: all steps.
* `Step.timeout`: the time that a step declares.
* `Step.RunAction.target`: the flow that a step runs.
-/

namespace FlowPilot

namespace Step

structure Goto where
  url : Option String
  waitUntil : Option LoadState
  timeout : Option Nat
  deriving DecidableEq, Repr

structure Click where
  selector : Option String
  timeout : Option Nat
  deriving DecidableEq, Repr

/-- Clicks the first of several elements that accepts a click. -/
structure ClickAny where
  selectors : List String
  logUrl : Bool
  timeout : Option Nat
  deriving DecidableEq, Repr

structure Fill where
  selector : Option String
  text : Option String
  timeout : Option Nat
  deriving DecidableEq, Repr

structure Select where
  selector : Option String
  value : Option String
  label : Option String
  text : Option String
  timeout : Option Nat
  deriving DecidableEq, Repr

/-- Waits for the state of an element. -/
structure WaitForSelector where
  selector : Option String
  state : Option ElementState
  timeout : Option Nat
  deriving DecidableEq, Repr

structure WaitForUrl where
  url : Option String
  pattern : Option String
  timeout : Option Nat
  deriving DecidableEq, Repr

structure ExpectText where
  selector : Option String
  text : Option String
  timeout : Option Nat
  deriving DecidableEq, Repr

structure Press where
  selector : Option String
  key : Option String
  timeout : Option Nat
  deriving DecidableEq, Repr

structure AssertOnPage where
  urlPattern : Option String
  selector : Option String
  anyText : List String
  timeout : Option Nat
  deriving DecidableEq, Repr

/-- Clicks inside a row of a table. -/
structure ClickRowAction where
  table : Option String
  rowText : Option String
  actionSelectors : List String
  /-- whether the row itself is clicked when nothing inside it accepts a click -/
  fallbackClick : Bool
  logUrl : Bool
  timeout : Option Nat
  deriving DecidableEq, Repr

/-- Clicks a link inside a row or a cell of a table. -/
structure ClickTableCellLink where
  table : Option String
  rowText : Option String
  cellText : Option String
  cellIndex : Option String
  matchMode : Option String
  targetSelectors : List String
  linkSelectors : List String
  /-- whether the row itself is clicked when nothing inside it accepts a click -/
  fallbackClick : Bool
  logUrl : Bool
  timeout : Option Nat
  deriving DecidableEq, Repr

/-- Opens the side bar of the portal if it is closed. -/
structure EnsureSidebarOpen where
  selector : Option String
  toggleSelector : Option String
  toggleSelectors : List String
  /-- the width from which on the bar counts as open -/
  minWidth : Option Binary64
  timeout : Option Nat
  deriving DecidableEq, Repr

/-- Runs a sequence and, if it fails, another one. -/
structure TrySteps where
  steps : List Json
  fallbackSteps : List Json
  timeout : Option Nat
  deriving Repr

structure RunAction where
  action : Option String
  actionName : Option String
  name : Option String
  /-- variables that the flow sees in addition -/
  vars : Json.Members
  deriving Repr

/-- The flow that a step runs: the first of its three names that is not blank. -/
def RunAction.target (s : RunAction) : Option String :=
  ([s.actionName, s.action, s.name].filterMap id).find? fun name => !Text.isBlankText name

/-- The steps that act on the page. -/
inductive Leaf
  | goto (s : Goto)
  | click (s : Click)
  | clickAny (s : ClickAny)
  | fill (s : Fill)
  | select (s : Select)
  | waitForSelector (s : WaitForSelector)
  | waitForUrl (s : WaitForUrl)
  | expectText (s : ExpectText)
  | press (s : Press)
  | assertOnPage (s : AssertOnPage)
  | clickRowAction (s : ClickRowAction)
  | clickTableCellLink (s : ClickTableCellLink)
  | ensureSidebarOpen (s : EnsureSidebarOpen)
  deriving DecidableEq, Repr

/-- The time that a step declares, in milliseconds. -/
def Leaf.timeout : Leaf → Option Nat
  | goto s => s.timeout
  | click s => s.timeout
  | clickAny s => s.timeout
  | fill s => s.timeout
  | select s => s.timeout
  | waitForSelector s => s.timeout
  | waitForUrl s => s.timeout
  | expectText s => s.timeout
  | press s => s.timeout
  | assertOnPage s => s.timeout
  | clickRowAction s => s.timeout
  | clickTableCellLink s => s.timeout
  | ensureSidebarOpen s => s.timeout

/-- The kind of a step that acts on the page. -/
def Leaf.kind : Leaf → Kind
  | goto _ => .goto
  | click _ => .click
  | clickAny _ => .clickAny
  | fill _ => .fill
  | select _ => .select
  | waitForSelector _ => .waitForSelector
  | waitForUrl _ => .waitForUrl
  | expectText _ => .expectText
  | press _ => .press
  | assertOnPage _ => .assertOnPage
  | clickRowAction _ => .clickRowAction
  | clickTableCellLink _ => .clickTableCellLink
  | ensureSidebarOpen _ => .ensureSidebarOpen

end Step

/-- A step of a flow. -/
inductive Step
  | leaf (s : Step.Leaf)
  | trySteps (s : Step.TrySteps)
  | runAction (s : Step.RunAction)
  deriving Repr

namespace Step

/-- The time that a step declares, in milliseconds. -/
def timeout : Step → Option Nat
  | leaf s => s.timeout
  | trySteps s => s.timeout
  | runAction _ => none

def kind : Step → Kind
  | leaf s => s.kind
  | trySteps _ => .trySteps
  | runAction _ => .runAction

end Step

end FlowPilot
