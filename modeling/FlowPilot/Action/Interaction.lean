import FlowPilot.Action.Fields
import FlowPilot.Clicking

/-!
# Steps on a single element

## Main definitions

* `Step.Click.perform`, `Step.Fill.perform`, `Step.Select.perform`, `Step.Press.perform`,
  `Step.ExpectText.perform`, `Step.ClickAny.perform`.
-/

namespace FlowPilot

/-- Reads the address before or after a click when a step asks for that. -/
def Action.noteUrl (asked : Bool) : StateM Page Unit := do
  if asked then
    let _ ← Page.currentUrl.attempt

namespace Step

open FlowPilot.Action (required requiredText)

/-- The first element that a selector matches. -/
def targetOf (selector : String) : Locator := (Locator.ofSelector selector).first

def Click.perform (s : Click) : Act Page Unit := do
  let selector ← Act.ofExcept (required "step.selector" s.selector)
  Page.click (targetOf selector) false

def Fill.perform (s : Fill) : Act Page Unit := do
  let selector ← Act.ofExcept (required "step.selector" s.selector)
  let text ← Act.ofExcept (requiredText "step.text" s.text)
  Page.fill (targetOf selector) text

def Select.perform (s : Select) : Act Page Unit := do
  let selector ← Act.ofExcept (required "step.selector" s.selector)
  let option ← Act.ofExcept s.option
  Page.selectOption (targetOf selector) option

def Press.perform (s : Press) : Act Page Unit := do
  let selector ← Act.ofExcept (required "step.selector" s.selector)
  let key ← Act.ofExcept (requiredText "step.key" s.key)
  Page.press (targetOf selector) key

/-- Demands a text inside an element; case and blanks count. -/
def ExpectText.perform (s : ExpectText) : Act Page Unit := do
  let selector ← Act.ofExcept (required "step.selector" s.selector)
  let expected ← Act.ofExcept (requiredText "step.text" s.text)
  let content ← Page.textContent (targetOf selector)
  unless Text.contains content expected do
    throw (.notFound (.expectedText expected))

/-- Clicks the first element that accepts a click. -/
def ClickAny.perform (s : ClickAny) : Act Page Clicking.Outcome := do
  let candidates := (Action.cleaned s.selectors).map Locator.ofSelector
  if candidates.isEmpty then throw (.missingField "step.selectors")
  Action.noteUrl s.logUrl
  let outcome ← Clicking.clickAny "clickAny" candidates
  Action.noteUrl s.logUrl
  return outcome

end Step

end FlowPilot
