import FlowPilot.Page.Operations

/-!
# Waiting for an element

## Main definitions

* `Page.waitFor`: looks every hundred milliseconds until an element has a state.
-/

namespace FlowPilot.Page

/-- The time between two looks at an element. -/
def lookInterval : Nat := 100

/-- Whether an element is seen to have a state. A reading that fails sees nothing. -/
def hasState (target : Locator) : ElementState → StateM Page Bool
  | .attached => do return decide (0 < (← (count target).orUse 0))
  | .detached => do return (← (count target).orUse 0) == 0
  | .visible => (isVisible target).orUse false
  -- A reading that fails sees nothing, and nothing seen is all that is asked for.
  | .hidden => do return !(← (isVisible target).orUse false)

/-- Looks at an element, and again after each of so many sleeps. -/
def lookUntil (target : Locator) (state : ElementState) : (sleeps : Nat) → StateM Page Bool
  | 0 => hasState target state
  | n + 1 => do
    if ← hasState target state then return true
    modify (pass lookInterval)
    lookUntil target state n

/-- Looks every hundred milliseconds until an element has a state. The last look is the first one
that is not before the end of the time. -/
def waitFor (target : Locator) (state : ElementState) (timeout : Nat) : Act Page Unit := do
  -- Rounded up: the last sleep is not cut short at the end of the time.
  let sleeps := (timeout + lookInterval - 1) / lookInterval
  unless ← lookUntil target state sleeps do
    refuse "waitFor" (.stateTimeout timeout target state)

end FlowPilot.Page
