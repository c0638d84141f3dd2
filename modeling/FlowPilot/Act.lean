import FlowPilot.Fault

/-!
# Acts

An act works on a state and may fail. What it did before it failed stays done: a click that was
accepted is not taken back.

## Main definitions

* `Act`: work on a state that may fail.
* `Act.orUse`: a value that takes the place of a failure.
* `Act.attempt`: an act whose failure is its result.
* `Act.onPart`: an act on a part of a state.
-/

namespace FlowPilot

/-- Work on a state that may fail, and keeps the state that it reached either way. -/
abbrev Act (σ : Type) : Type → Type := ExceptT Fault (StateM σ)

namespace Act

variable {σ α : Type}

/-- An act that cannot fail, because its failure is its result. -/
def attempt (act : Act σ α) : StateM σ (Except Fault α) := act.run

/-- An act with a value that takes the place of a failure. -/
def orUse (act : Act σ α) (fallback : α) : StateM σ α := do
  match ← act.attempt with
  | .ok a => return a
  | .error _ => return fallback

/-- A result that is known already. -/
def ofExcept (result : Except Fault α) : Act σ α := fun s => (result, s)

/-- An act on a part of a state. -/
def onPart {τ : Type} (part : σ → τ) (withPart : σ → τ → σ) (act : Act τ α) : Act σ α := fun s =>
  -- The part is put back in its new state even if the act failed.
  let (result, t) := act (part s)
  (result, withPart s t)

end Act

end FlowPilot
