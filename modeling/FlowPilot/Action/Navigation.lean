import FlowPilot.Action.Fields
import FlowPilot.Page.Wait
import FlowPilot.Pattern.Url
import FlowPilot.Poll

/-!
# Steps that open and await addresses and elements

## Main definitions

* `Step.Goto.perform`, `Step.WaitForUrl.perform`, `Step.WaitForSelector.perform`.
-/

namespace FlowPilot.Step

open FlowPilot.Action (required)

def Goto.perform (s : Goto) : Act Page Unit := do
  let url ← Act.ofExcept (required "step.url" s.url)
  Page.goto url

def WaitForUrl.check (criterion : UrlCriterion) : StateM Page (Except Fault (Option String)) := do
  match ← Page.currentUrl.attempt with
  | .ok url => return .ok (if criterion.accepts url then some url else none)
  | .error fault => return .error fault

def WaitForUrl.perform (s : WaitForUrl) (host : Host) (timeout interval : Nat) :
    Act Page Unit := do
  let criterion ← Act.ofExcept (UrlCriterion.ofStep host.wording s)
  match ← Poll.upTo host.patience timeout interval (check criterion) with
  | .found _ => return
  | .timedOut _ last => do
    -- Read once more: this is where the page ended, not where the last check saw it.
    let url ← Page.currentUrl.orUse ""
    Page.refuse "waitForURL" (.urlTimeout timeout url (last.map Fault.message))
  | .unfinished => Page.endless "waitForURL"

def WaitForSelector.perform (s : WaitForSelector) (timeout : Nat) : Act Page Unit := do
  let selector ← Act.ofExcept (required "step.selector" s.selector)
  Page.waitFor (Locator.ofSelector selector).first (s.state.getD .visible) timeout

end FlowPilot.Step
