import FlowPilot.Clock

/-!
# Polling

A condition is checked again and again until it holds or the time is over. The last check is made
at the end of the time, never later. Without any time between the checks the end may never come. So
a poll has a budget of checks, and one that uses it up is told apart from one that ends.

## Main definitions

* `Poll.Outcome`: how a poll ends.
* `Poll.within`: a poll with a budget of checks.
* `Poll.upTo`: a poll with a budget that suffices when time passes between the checks.
-/

namespace FlowPilot.Poll

inductive Outcome (ε α : Type)
  /-- a check found what it looked for -/
  | found (value : α)
  /-- the time was over after some checks; the last failure of a check is kept -/
  | timedOut (attempts : Nat) (last : Option ε)
  /-- the budget was used up before the time was over -/
  | unfinished
  deriving Repr

variable {σ ε α : Type} [Clock σ]

/-- The last failure of a check, after one more check. -/
def lastFailure (earlier : Option ε) : Except ε (Option α) → Option ε
  | .ok _ => earlier
  | .error e => some e

/-- Checks until the deadline, at most `budget` times. -/
def checkUntil (deadline interval : Nat) (check : StateM σ (Except ε (Option α))) :
    (budget attempts : Nat) → (last : Option ε) → StateM σ (Outcome ε α)
  | 0, _, _ => return .unfinished
  | budget + 1, attempts, last => do
    let seen ← check
    if let .ok (some value) := seen then return .found value
    -- A check that merely finds nothing does not erase the failure of an earlier one.
    let last := lastFailure last seen
    let now := Clock.now (← get)
    if deadline ≤ now then return .timedOut (attempts + 1) last
    -- Cut short, so that the last check falls on the deadline itself.
    modify (Clock.sleep (min interval (deadline - now)))
    checkUntil deadline interval check budget (attempts + 1) last

/-- Polls for some time with a budget of checks. -/
def within (budget timeout interval : Nat) (check : StateM σ (Except ε (Option α))) :
    StateM σ (Outcome ε α) := do
  let deadline := Clock.now (← get) + timeout
  checkUntil deadline interval check budget 0 none

/-- Polls for some time. Only a poll without time between its checks needs patience. -/
def upTo (patience timeout interval : Nat) (check : StateM σ (Except ε (Option α))) :
    StateM σ (Outcome ε α) :=
  -- Every sleep passes a millisecond at least, so `timeout + 1` checks reach the deadline.
  within (if interval = 0 then patience else timeout + 1) timeout interval check

end FlowPilot.Poll
