/-!
# Time

Time passes only while somebody sleeps.

## Main definitions

* `Clock`: states that have a time and can sleep.
-/

namespace FlowPilot

/-- States with a time in milliseconds that passes while they sleep. -/
class Clock (σ : Type) where
  now : σ → Nat
  /-- the state after some milliseconds -/
  sleep : (ms : Nat) → σ → σ

end FlowPilot
