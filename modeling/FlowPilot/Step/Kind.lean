/-!
# Kinds of steps

## Main definitions

* `Step.Kind`: the fifteen kinds, with their names in flow files.
-/

namespace FlowPilot

namespace Step

inductive Kind
  | goto
  | click
  | clickAny
  | fill
  | select
  | waitForSelector
  | waitForUrl
  | expectText
  | press
  | assertOnPage
  | clickRowAction
  | clickTableCellLink
  | trySteps
  | ensureSidebarOpen
  | runAction
  deriving DecidableEq, Repr

namespace Kind

def name : Kind → String
  | goto => "goto"
  | click => "click"
  | clickAny => "clickAny"
  | fill => "fill"
  | select => "select"
  | waitForSelector => "waitForSelector"
  | waitForUrl => "waitForURL"
  | expectText => "expectText"
  | press => "press"
  | assertOnPage => "assertOnPage"
  | clickRowAction => "clickRowAction"
  | clickTableCellLink => "clickTableCellLink"
  | trySteps => "trySteps"
  | ensureSidebarOpen => "ensureSidebarOpen"
  | runAction => "runAction"

def all : List Kind :=
  [goto, click, clickAny, fill, select, waitForSelector, waitForUrl, expectText, press,
   assertOnPage, clickRowAction, clickTableCellLink, trySteps, ensureSidebarOpen, runAction]

/-- A kind from its name in flow files. -/
def ofName? (s : String) : Option Kind := all.find? (·.name == s)

end Kind

end Step

end FlowPilot
