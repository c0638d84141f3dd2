import FlowPilot.Page.Operations
import FlowPilot.Text.Quoted

/-!
# Clicking whatever accepts a click

Some links of the portal do not react to the mouse. Each visible and enabled element is therefore
clicked in three ways, the gentlest first, and the first click that is accepted ends the search.

## Main definitions

* `Clicking.escalate`: the three ways on one element.
* `Clicking.tryCandidates`: the first element of several locators that accepts a click.
* `Clicking.clickWithFallback`: the same, and then elements that are clicked even if hidden.
-/

namespace FlowPilot.Clicking

/-- What was clicked. -/
structure Outcome where
  /-- the locator or the label of what was clicked -/
  target : String
  /-- the index of the element among those of its locator -/
  index : Nat
  kind : ClickKind
  deriving DecidableEq, Repr

def succeeds (act : Act Page Unit) : StateM Page Bool := do
  match ← act.attempt with
  | .ok _ => return true
  | .error _ => return false

/-- A click of a kind. A click with the mouse is forced. -/
def clickOfKind (kind : ClickKind) (target : Locator) : Act Page Unit :=
  match kind with
  | .direct => Page.click target true
  | .programmatic => Page.jsClick target
  | .dispatched => Page.dispatchClick target

/-- The first of some kinds of clicks that an element accepts. -/
def firstAccepted (target : Locator) : List ClickKind → StateM Page (Option ClickKind)
  | [] => return none
  | kind :: kinds => do
    if ← succeeds (clickOfKind kind target) then return some kind
    firstAccepted target kinds

/-- The kinds of clicks, the gentlest first. -/
def kinds : List ClickKind := [.direct, .programmatic, .dispatched]

/-- Clicks an element in one way after the other. `step` is named in the failure. -/
def escalate (step : String) (target : Locator) : Act Page ClickKind := do
  match ← firstAccepted target kinds with
  | some kind => return kind
  | none => throw (.noTargetClickable (step ++ " " ++ target.toText))

def scrollAndClick (target : Locator) : StateM Page (Option ClickKind) := do
  -- An element that cannot be scrolled to may still accept a click.
  let _ ← (Page.scrollTo target).attempt
  firstAccepted target kinds

/-- Whether an element is visible and enabled. An element of which it is not known whether it is
enabled counts as enabled. -/
def isReady (target : Locator) : StateM Page Bool := do
  -- Both are read even if the first settles it, since interference counts the calls.
  let visible ← (Page.isVisible target).orUse false
  let enabled ← (Page.isEnabled target).orUse true
  return visible && enabled

def tryElements (candidate : Locator) : List Nat → StateM Page (Option Outcome)
  | [] => return none
  | i :: rest => do
    let element := candidate.nth i
    if ← isReady element then
      match ← scrollAndClick element with
      | some kind => return some ⟨candidate.toText, i, kind⟩
      | none => tryElements candidate rest
    else tryElements candidate rest

def tryCandidates : List Locator → StateM Page (Option Outcome)
  | [] => return none
  | candidate :: rest => do
    let n ← (Page.count candidate).orUse 0
    match ← tryElements candidate (List.range n) with
    | some outcome => return some outcome
    | none => tryCandidates rest

/-- A labelled element that is clicked when nothing else can be. -/
structure Fallback where
  label : String
  target : Locator
  deriving DecidableEq, Repr

/-- The first fallback that accepts a click, visible or not. -/
def tryFallbacks : List Fallback → StateM Page (Option Outcome)
  | [] => return none
  | fallback :: rest => do
    -- Whatever the answer is: a hidden fallback is clicked too.
    let _ ← (Page.isVisible fallback.target).attempt
    match ← scrollAndClick fallback.target with
    | some kind => return some ⟨fallback.label, 0, kind⟩
    | none => tryFallbacks rest

def nothingClicked (step : String) (candidates : List Locator) : Fault :=
  .noTargetClickable
    (step ++ " selectors=" ++ Text.quotedList (candidates.map Locator.toText))

/-- Clicks the first element of the candidates that accepts a click, or else the first fallback
that does. `step` is named in the failure. -/
def clickWithFallback (step : String) (candidates : List Locator) (fallbacks : List Fallback) :
    Act Page Outcome := do
  match ← tryCandidates candidates with
  | some outcome => return outcome
  | none =>
    match ← tryFallbacks fallbacks with
    | some outcome => return outcome
    | none => throw (nothingClicked step candidates)

def clickAny (step : String) (candidates : List Locator) : Act Page Outcome :=
  clickWithFallback step candidates []

end FlowPilot.Clicking
