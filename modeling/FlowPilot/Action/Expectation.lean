import FlowPilot.Action.Interaction
import FlowPilot.Pattern.Url
import FlowPilot.Poll
import FlowPilot.Text.Normal

/-!
# What is expected of a page

A step may demand that the address matches a pattern, that an element is visible and that one of
some texts is on the page. All that it demands must hold at one time.

## Main definitions

* `Expectation.ofStep`: the conditions of a step.
* `Expectation.unmet`: those that do not hold.
* `Step.AssertOnPage.perform`.
-/

namespace FlowPilot

/-- Conditions on a page. -/
structure Expectation where
  /-- the pattern of the address and its text -/
  url : Option (Pattern × String)
  /-- an element that must be visible -/
  element : Option Locator
  /-- texts in normal form, of which one must be there -/
  anyText : List String

namespace Expectation

/-- The conditions of a step, of which there must be one. -/
def ofStep (w : Wording) (s : Step.AssertOnPage) : Except Fault Expectation := do
  let url ← match s.urlPattern.bind Text.trimmed? with
    | some text => do
      let p ← UrlCriterion.patternOf w "assertOnPage urlPattern" text
      pure (some (p, text))
    | none => pure none
  let element := (s.selector.bind Text.trimmed?).map Step.targetOf
  let anyText := (s.anyText.map Text.normal).filter (· ≠ "")
  if url.isNone && element.isNone && anyText.isEmpty then throw (.config .noExpectation)
  return ⟨url, element, anyText⟩

def unmetUrl (e : Expectation) : StateM Page (List Unmet) := do
  match e.url with
  | none => return []
  | some (p, text) =>
    let url ← Page.currentUrl.orUse ""
    return if p.occursIn url then [] else [.url url text]

def unmetElement (e : Expectation) : StateM Page (List Unmet) := do
  match e.element with
  | none => return []
  | some target => return if ← (Page.isVisible target).orUse false then [] else [.selector target]

def unmetText (e : Expectation) : StateM Page (List Unmet) := do
  if e.anyText.isEmpty then return []
  let body := Text.normal (← Page.bodyText.orUse "")
  return if e.anyText.any (Text.contains body ·) then [] else [.anyText e.anyText]

/-- The conditions that do not hold. -/
def unmet (e : Expectation) : StateM Page (List Unmet) := do
  return (← e.unmetUrl) ++ (← e.unmetElement) ++ (← e.unmetText)

/-- One look at the page. -/
def check (e : Expectation) : StateM Page (Except (List Unmet) (Option Unit)) := do
  match ← e.unmet with
  | [] => return .ok (some ())
  | missing => return .error missing

end Expectation

/-- Waits until the page meets the conditions of the step. -/
def Step.AssertOnPage.perform (s : AssertOnPage) (host : Host) (timeout interval : Nat) :
    Act Page Unit := do
  let e ← Act.ofExcept (Expectation.ofStep host.wording s)
  match ← Poll.upTo host.patience timeout interval e.check with
  | .found _ => return
  -- A check that does not succeed fails, so the last failure is that of the last check.
  | .timedOut _ last => throw (.assertionFailed (last.getD []))
  | .unfinished => Page.endless Kind.assertOnPage.name

end FlowPilot
