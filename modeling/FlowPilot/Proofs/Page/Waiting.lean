import FlowPilot.Proofs.Page.Idle

/-!
# What a wait may be trusted with

A wait ends with one last look, and nothing happens between that look and the end of the wait. A
reading that fails counts as if nothing had been found. So an element that is awaited is there
when the wait succeeds. An element whose absence is awaited is gone as well, unless the reading of
the last look failed: then the wait succeeds no matter what the page holds.

## Main definitions

* `Page.Has`: a state of an element, as the elements tell.
* `Page.reading`: the operation that tells a state.
* `Page.lastLook`: the page at the look that ends a wait.

## Main statements

* `Page.waitFor_ok_iff`: when a wait succeeds.
-/

namespace FlowPilot.Page

open Act

variable {p q : Page} {dom : Dom} {target : Locator} {state : ElementState}

/-! ### States -/

/-- The first element of a locator has a state. -/
def Has (dom : Dom) (target : Locator) : ElementState → Prop
  | .attached => dom.resolve target ≠ []
  | .detached => dom.resolve target = []
  | .visible => ∃ node, dom.first? target = some node ∧ dom.isVisible node = true
  | .hidden => ¬∃ node, dom.first? target = some node ∧ dom.isVisible node = true

/-- The states in which nothing is found. -/
def IsAbsence : ElementState → Prop
  | .attached | .visible => False
  | .detached | .hidden => True

/-- The operation that tells a state. -/
def reading : ElementState → Operation
  | .attached | .detached => .count
  | .visible | .hidden => .isVisible

theorem any_isVisible_iff :
    (dom.first? target).any dom.isVisible = true ↔ Has dom target .visible :=
  Option.any_eq_true _ _

/-! ### Looks -/

/-- The page at the look that ends a wait: the first one that sees the state, or else the last
one. -/
def lastLook (target : Locator) (state : ElementState) : (sleeps : Nat) → Page → Page
  | 0, p => p
  | n + 1, p =>
    if (hasState target state p).1 then p
    else lastLook target state n (pass lookInterval (hasState target state p).2)

theorem lookUntil_eq (target : Locator) (state : ElementState) (sleeps : Nat) (p : Page) :
    lookUntil target state sleeps p = hasState target state (lastLook target state sleeps p) := by
  induction sleeps generalizing p with
  | zero => rfl
  | succ n ih =>
    rw [lookUntil_succ, lastLook]
    split
    · rename_i hseen
      exact Prod.ext hseen.symm rfl
    · exact ih _

theorem hasState_alike (target : Locator) (state : ElementState) :
    Moves Alike (hasState target state) :=
  hasState_moves counted_alike target state

/-- A look sees what the page holds, and nothing if its reading fails. -/
theorem hasState_fst_iff (target : Locator) (state : ElementState) (p : Page) :
    (hasState target state p).1 = true ↔
      if p.interference.strikesNext (reading state) then IsAbsence state
      else Has p.dom target state := by
  -- a count that fails is read as zero, and what may be visible as not visible
  cases state with
  | attached =>
    have hread : (hasState target .attached p).1 = decide (0 < ((count target).orUse 0 p).1) := rfl
    rw [hread, count_orUse_fst, reading]
    split <;> simp [IsAbsence, Has, List.length_pos_iff]
  | detached =>
    have hread : (hasState target .detached p).1 = (((count target).orUse 0 p).1 == 0) := rfl
    rw [hread, count_orUse_fst, reading]
    split <;> simp [IsAbsence, Has]
  | visible =>
    rw [hasState, isVisible_orUse_fst, reading, ← any_isVisible_iff]
    split <;> simp [IsAbsence]
  | hidden =>
    have hread : (hasState target .hidden p).1 = !((isVisible target).orUse false p).1 := rfl
    have hhidden : Has p.dom target .hidden ↔ ¬Has p.dom target .visible := Iff.rfl
    rw [hread, isVisible_orUse_fst, reading, hhidden, ← any_isVisible_iff]
    split <;> simp [IsAbsence]

/-! ### Waits -/

/-- How often a wait sleeps at most. -/
def sleepsOf (timeout : Nat) : Nat := (timeout + lookInterval - 1) / lookInterval

/-- A wait succeeds exactly if the page has the state when it ends, as long as the last reading
does not fail. If it does, a wait for an absence succeeds, and any other one does not. -/
theorem waitFor_ok_iff (target : Locator) (state : ElementState) (timeout : Nat) (p : Page) :
    let last := lastLook target state (sleepsOf timeout) p
    let wait := waitFor target state timeout
    Alike last (wait.after p) ∧
      (wait.result p = .ok () ↔
        if last.interference.strikesNext (reading state) then IsAbsence state
        else Has (wait.after p).dom target state) := by
  intro last wait
  have hafter : wait.after p = (hasState target state last).2 := by
    rw [after_waitFor, lookUntil_eq]
    rfl
  have halike : Alike last (wait.after p) := hafter ▸ hasState_alike target state last
  have hresult : wait.result p = .ok () ↔ (hasState target state last).1 = true := by
    rw [result_waitFor, lookUntil_eq]
    change (if (hasState target state last).1 = true then _ else _) = _ ↔ _
    split <;> simp [*]
  exact ⟨halike, by rw [hresult, hasState_fst_iff, halike.dom]⟩

/-- A page with a visible element. The first reading of what is visible fails. -/
def spinningPage : Page :=
  { Page.opened "" with
    dom := Dom.empty.add Dom.root { tag := "div", id := some "spinner" }
    interference := .striking fun op call => op == .isVisible && call == 0 }

/-- A wait for a visible element to be hidden succeeds at once, because its reading fails. -/
theorem waitFor_hidden_of_visible :
    let target := Locator.ofSelector "#spinner"
    let wait := waitFor target .hidden 0
    wait.result spinningPage = .ok () ∧ ¬Has (wait.after spinningPage).dom target .hidden := by
  intro target wait
  refine ⟨by rfl, not_not_intro ⟨1, ?_, ?_⟩⟩ <;> decide +kernel

end FlowPilot.Page
