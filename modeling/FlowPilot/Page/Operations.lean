import FlowPilot.Act
import FlowPilot.Page.State

/-!
# Operations on a page

What can be read from a page and done to it. Operations on an element act on the first node that a
locator names.

## Main definitions

* `Page.operation`: an operation that interference may strike.
* `Page.endless`: what stands in for the result of a wait that never ends.
* `Page.currentUrl`, `Page.count`, … : the operations.
-/

namespace FlowPilot.Page

/-- Fails for a reason that the page finds itself. -/
def refuse {α : Type} (operation : String) (fault : PageFault) : Act Page α :=
  throw (.page operation fault)

/-- What stands in for the result of a wait that never ends. There is no such result, and the
program goes no further. The mark on the page stays whatever becomes of the failure. -/
def endless {α : Type} (operation : String) : Act Page α := do
  modify fun p => { p with stuck := true }
  refuse operation .endless

/-- An operation that fails when interference strikes, and touches nothing then. -/
def operation {α : Type} (op : Operation) (body : Act Page α) : Act Page α := do
  let before := (← get).interference
  -- A struck call counts as well, so interference can spare the next one.
  modify fun p => { p with interference := p.interference.counted op }
  if before.strikesNext op then refuse op.name (.outside (before.wordsNext op)) else body

/-- The first node that a locator names. -/
def demandNode (operation : String) (target : Locator) : Act Page Nat := do
  match (← get).dom.first? target with
  | some node => return node
  | none => refuse operation (.noElement target)

/-- The first node that a locator names, with its element. -/
def demandElement (operation : String) (target : Locator) : Act Page (Nat × Element) := do
  let node ← demandNode operation target
  return (node, ((← get).dom.element? node).getD { tag := "" })

def record (e : Event) : Act Page Unit := modify (·.log e)

def goto (url : String) : Act Page Unit := operation .goto do
  modify fun p => { p.log (.goto url) with url := url }

def currentUrl : Act Page String := operation .url do return (← get).url

def count (target : Locator) : Act Page Nat := operation .count do
  return ((← get).dom.resolve target).length

/-- The visible text of an element. -/
def innerText (target : Locator) : Act Page String := operation .innerText do
  let (node, e) ← demandElement "innerText" target
  if e.unreadable then refuse "innerText" .elementGone
  else return (← get).dom.visibleTextOf node

/-- The whole text of an element. -/
def textContent (target : Locator) : Act Page String := operation .textContent do
  let node ← demandNode "textContent" target
  return (← get).dom.textOf node

/-- Whether an element is there and visible. -/
def isVisible (target : Locator) : Act Page Bool := operation .isVisible do
  let dom := (← get).dom
  -- An element that is missing is invisible; for every other reading it is an error.
  return (dom.first? target).any dom.isVisible

def isEnabled (target : Locator) : Act Page Bool := operation .isEnabled do
  let (_, e) ← demandElement "isEnabled" target
  return !e.disabled

def scrollTo (target : Locator) : Act Page Unit := operation .scroll do
  let (_, e) ← demandElement "scrollIntoView" target
  if e.offLayout then refuse "scrollIntoView" .offLayout
  else record (.scroll target)

/-- A click of a kind on the first node that a locator names. -/
def clickNode (kind : ClickKind) (operation : String) (fault : PageFault) (target : Locator)
    (node : Nat) : Act Page Unit := do
  let (accepted, after) := (← get).clicked kind target node
  -- The attempt stays in the record even if it is refused.
  set after
  unless accepted do refuse operation fault

/-- A click with the mouse. Unless it is forced, the element must be visible. -/
def click (target : Locator) (force : Bool) : Act Page Unit := operation .click do
  let node ← demandNode "click" target
  if force || (← get).dom.isVisible node then
    clickNode .direct "click" .intercepted target node
  else
    record (.refused .direct target)
    refuse "click" .intercepted

/-- A click through the element itself. -/
def jsClick (target : Locator) : Act Page Unit := operation .jsClick do
  let node ← demandNode "jsClick" target
  clickNode .programmatic "jsClick" .noClickMethod target node

/-- A click through an artificial event. -/
def dispatchClick (target : Locator) : Act Page Unit := operation .dispatchClick do
  let node ← demandNode "dispatchClick" target
  clickNode .dispatched "dispatchClick" .eventCancelled target node

/-- Sets what was typed or chosen in an element. -/
def setValue (node : Nat) (value : String) : Act Page Unit :=
  modify fun p => { p with dom := p.dom.modify node fun e => { e with value := value } }

def fill (target : Locator) (text : String) : Act Page Unit := operation .fill do
  let node ← demandNode "fill" target
  setValue node text
  record (.filled target text)

def selectOption (target : Locator) (option : SelectOption) : Act Page Unit :=
  operation .selectOption do
    let (node, e) ← demandElement "selectOption" target
    match e.optionValue? option with
    | some value =>
      setValue node value
      record (.selected target option)
    | none => refuse "selectOption" (.noOption option)

def press (target : Locator) (key : String) : Act Page Unit := operation .press do
  let _ ← demandNode "press" target
  record (.pressed target key)

/-- The width of an element and how it is displayed. -/
structure Metrics where
  width : Binary64
  display : String
  deriving DecidableEq, Repr

/-- The metrics of an element; a hidden one has no width. -/
def Metrics.ofElement (e : Element) : Metrics :=
  ⟨if e.hidden then .zero false else e.width, e.display⟩

/-- The metrics of an element, if there is one. -/
def metrics (target : Locator) : Act Page (Option Metrics) := operation .metrics do
  let dom := (← get).dom
  return ((dom.first? target).bind dom.element?).map Metrics.ofElement

/-- The visible text of the page. -/
def bodyText : Act Page String := operation .bodyText do
  return (← get).dom.visibleTextOf Dom.root

def screenshot : Act Page (List UInt8) := operation .screenshot do
  let p ← get
  if p.blind then refuse "screenshot" .pageClosed
  else
    record .screenshot
    return p.picture

end FlowPilot.Page
