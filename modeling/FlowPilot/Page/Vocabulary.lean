/-!
# Words for what is asked of a page

## Main definitions

* `ElementState`: what a wait waits for.
* `LoadState`: when a navigation counts as done.
* `SelectOption`: how an option of a list is chosen.
* `ClickKind`: the three ways to click, the gentlest first.
* `Operation`: the operations that a page and a browser offer.
-/

namespace FlowPilot

/-- The state of an element that a wait waits for. -/
inductive ElementState
  | attached
  | visible
  | hidden
  | detached
  deriving DecidableEq, Repr

namespace ElementState

/-- The state in messages. -/
def title : ElementState → String
  | attached => "Attached"
  | visible => "Visible"
  | hidden => "Hidden"
  | detached => "Detached"

/-- The state in flow files. -/
def name : ElementState → String
  | attached => "attached"
  | visible => "visible"
  | hidden => "hidden"
  | detached => "detached"

def all : List ElementState := [attached, visible, hidden, detached]

/-- A state from its name in flow files. -/
def ofName? (s : String) : Option ElementState := all.find? (·.name == s)

end ElementState

/-- When a navigation counts as done. -/
inductive LoadState
  | load
  | domContentLoaded
  | networkIdle
  | commit
  deriving DecidableEq, Repr

namespace LoadState

def name : LoadState → String
  | load => "load"
  | domContentLoaded => "domcontentloaded"
  | networkIdle => "networkidle"
  | commit => "commit"

def all : List LoadState := [load, domContentLoaded, networkIdle, commit]

/-- A state from its name in flow files. -/
def ofName? (s : String) : Option LoadState := all.find? (·.name == s)

/-- The state that is waited for when none is given. -/
def usual : LoadState := domContentLoaded

/-- Whether a document in the given ready state has reached the state. A committed navigation
needs no document; an idle network needs a complete document first. -/
def reachedBy (readyState : String) : LoadState → Bool
  | commit => true
  | domContentLoaded => readyState == "interactive" || readyState == "complete"
  | load | networkIdle => readyState == "complete"

end LoadState

/-- How an option of a list is chosen. -/
inductive SelectOption
  | value (value : String)
  | label (label : String)
  deriving DecidableEq, Repr

namespace SelectOption

def toText : SelectOption → String
  | value v => "value=" ++ v
  | label l => "label=" ++ l

def key : SelectOption → String
  | value v => v
  | label l => l

end SelectOption

/-- The ways to click an element, the gentlest first. -/
inductive ClickKind
  | direct
  | programmatic
  | dispatched
  deriving DecidableEq, Repr

namespace ClickKind

def name : ClickKind → String
  | direct => "direct"
  | programmatic => "programmatic"
  | dispatched => "dispatch"

/-- The way in the record of a page. -/
def verb : ClickKind → String
  | direct => "click"
  | programmatic => "js_click"
  | dispatched => "dispatch_click"

end ClickKind

/-- The operations that a page and a browser offer. -/
inductive Operation
  | goto | url | count | innerText | textContent | isVisible | isEnabled | scroll
  | click | jsClick | dispatchClick | fill | selectOption | press | metrics | bodyText | screenshot
  | launch | newContext | newPage | close
  deriving DecidableEq, Repr

namespace Operation

def name : Operation → String
  | goto => "goto"
  | url => "url"
  | count => "count"
  | innerText => "innerText"
  | textContent => "textContent"
  | isVisible => "isVisible"
  | isEnabled => "isEnabled"
  | scroll => "scroll"
  | click => "click"
  | jsClick => "jsClick"
  | dispatchClick => "dispatchClick"
  | fill => "fill"
  | selectOption => "selectOption"
  | press => "press"
  | metrics => "metrics"
  | bodyText => "bodyText"
  | screenshot => "screenshot"
  | launch => "launch"
  | newContext => "newContext"
  | newPage => "newPage"
  | close => "close"

def all : List Operation :=
  [goto, url, count, innerText, textContent, isVisible, isEnabled, scroll, click, jsClick,
   dispatchClick, fill, selectOption, press, metrics, bodyText, screenshot, launch, newContext,
   newPage, close]

def ofName? (s : String) : Option Operation := all.find? (·.name == s)

end Operation

end FlowPilot
