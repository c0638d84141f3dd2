import FlowPilot.Action.Interaction
import FlowPilot.Host
import FlowPilot.Poll

/-!
# The side bar

The side bar is open when its element is there, displayed and wide enough. An open side bar is left
alone.

## Main definitions

* `Step.EnsureSidebarOpen.perform`.
-/

namespace FlowPilot.Step.EnsureSidebarOpen

open FlowPilot.Action (required cleaned)

/-- The width from which on the side bar counts as open when a step does not say. -/
def usualWidth : Binary64 := .ofNat 100

/-- Whether the metrics are those of an open side bar. -/
def isOpenAt (minWidth : Binary64) (m : Page.Metrics) : Bool :=
  m.display != "none" && minWidth.le m.width

def isOpen (sidebar : Locator) (minWidth : Binary64) : Act Page Bool := do
  return (← Page.metrics sidebar).any (isOpenAt minWidth)

def check (sidebar : Locator) (minWidth : Binary64) :
    StateM Page (Except Fault (Option Unit)) := do
  match ← (isOpen sidebar minWidth).attempt with
  | .ok isOpen => return .ok (if isOpen then some () else none)
  | .error fault => return .error fault

/-- Opens the side bar if it is closed, and waits until it is open. -/
def perform (s : EnsureSidebarOpen) (host : Host) (timeout interval : Nat) : Act Page Unit := do
  let selector ← Act.ofExcept (required "step.selector" s.selector)
  let toggles := (cleaned (s.toggleSelector.toList ++ s.toggleSelectors)).map Locator.ofSelector
  if toggles.isEmpty then throw (.missingField "step.toggleSelector")
  let name := Kind.ensureSidebarOpen.name
  let sidebar := targetOf selector
  let minWidth := s.minWidth.getD usualWidth
  -- Metrics that cannot be read count as closed, so the toggle is tried.
  if ← (isOpen sidebar minWidth).orUse false then return
  let _ ← Clicking.clickAny name toggles
  match ← Poll.upTo host.patience timeout interval (check sidebar minWidth) with
  | .found _ => return
  | .timedOut _ _ => Page.refuse name (.stillClosed selector timeout)
  | .unfinished => Page.endless name

end FlowPilot.Step.EnsureSidebarOpen
