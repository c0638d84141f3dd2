import FlowPilot.Proofs.Page.Time
import FlowPilot.Proofs.Page.Waiting

/-!
# How long a wait takes

A wait looks at the multiples of a hundred milliseconds, counted from its beginning. It is over with
the first look that sees the state, and with the first look that is not before the end of its time
at the latest. So it is late exactly if that look is after the end of the time and none before it
sees the state. A wait that is late may also succeed with a state that came too late.

## Main definitions

* `Page.Sees`: a look of a wait that sees the state.
* `Page.HadBy`: an element had a state by some time.
* `Page.Timely`: a wait that keeps to its time.

## Main statements

* `Page.waitFor_timely_iff`: when a wait is over, and when it keeps to its time.
-/

namespace FlowPilot.Page

open Act

variable {p q : Page} {target : Locator} {state : ElementState} {look timeout : Nat}

/-! ### Looks -/

/-- A look of a wait, counted from zero, sees the state. -/
def Sees (target : Locator) (state : ElementState) (p : Page) (look : Nat) : Prop :=
  (hasState target state (atLook target state look p)).1 = true

theorem atLook_idles (target : Locator) (state : ElementState) (look : Nat) (p : Page) :
    Idles p (atLook target state look p) := by
  induction look generalizing p with
  | zero => exact .here
  | succ look ih =>
    have hlooked : Idles p (hasState target state p).2 := (hasState_alike target state p).idles
    exact trans_of Idles (hlooked.pass lookInterval) (ih _)

theorem clock_atLook (target : Locator) (state : ElementState) (look : Nat) (p : Page) :
    (atLook target state look p).clock = p.clock + look * lookInterval := by
  induction look generalizing p with
  | zero => simp [atLook]
  | succ look ih =>
    have hpassed : (pass lookInterval (hasState target state p).2).clock =
        (hasState target state p).2.clock + lookInterval := rfl
    rw [atLook, ih, hpassed, (hasState_alike target state p).clock, Nat.succ_mul]
    omega

/-- A wait ends with the first look that sees the state, or else with the last one. -/
theorem lookUntil_ends (target : Locator) (state : ElementState) (sleeps : Nat) (p : Page) :
    ∃ look ≤ sleeps, (∀ j < look, ¬Sees target state p j) ∧
      (look < sleeps → Sees target state p look) ∧
      lookUntil target state sleeps p =
        hasState target state (atLook target state look p) := by
  induction sleeps generalizing p with
  | zero => exact ⟨0, le_rfl, nofun, nofun, rfl⟩
  | succ sleeps ih =>
    rw [lookUntil_succ]
    split
    · rename_i hseen
      exact ⟨0, Nat.zero_le _, nofun, fun _ => hseen, Prod.ext hseen.symm rfl⟩
    · rename_i hunseen
      obtain ⟨look, hlook, hbefore, hlast, heq⟩ :=
        ih (pass lookInterval (hasState target state p).2)
      refine ⟨look + 1, Nat.succ_le_succ hlook, fun j hj => ?_, fun h => ?_, heq⟩
      · cases j with
        | zero => exact hunseen
        | succ j => exact hbefore j (Nat.lt_of_succ_lt_succ hj)
      · exact hlast (Nat.lt_of_succ_lt_succ h)

theorem lt_sleepsOf_iff : look < sleepsOf timeout ↔ look * lookInterval < timeout := by
  rw [sleepsOf, lookInterval]
  omega

/-! ### Waits -/

/-- An element had a state by some time: the page that was looked at while time passed, but no
longer than that, showed it. -/
def HadBy (p : Page) (target : Locator) (state : ElementState) (time : Nat) : Prop :=
  ∃ q, Idles p q ∧ q.clock ≤ time ∧ Has q.dom target state

/-- A wait that keeps to its time: it is over by then, and a state with which it succeeds was there
by then. -/
structure Timely (target : Locator) (state : ElementState) (timeout : Nat) (p : Page) : Prop where
  inTime : ((waitFor target state timeout).after p).clock ≤ p.clock + timeout
  hadBy : (waitFor target state timeout).result p = .ok () →
    Has ((waitFor target state timeout).after p).dom target state →
      HadBy p target state (p.clock + timeout)

theorem waitFor_ends (target : Locator) (state : ElementState) (timeout : Nat) (p : Page) :
    ∃ look ≤ sleepsOf timeout, (∀ j < look, ¬Sees target state p j) ∧
      (look < sleepsOf timeout → Sees target state p look) ∧
      ((waitFor target state timeout).result p = .ok () ↔ Sees target state p look) ∧
      Alike (atLook target state look p) ((waitFor target state timeout).after p) := by
  obtain ⟨look, hlook, hbefore, hlast, heq⟩ :=
    lookUntil_ends target state (sleepsOf timeout) p
  refine ⟨look, hlook, hbefore, hlast, ?_, ?_⟩
  · rw [result_waitFor, ← sleepsOf, heq, Sees]
    split <;> simp [*]
  · rw [after_waitFor, ← sleepsOf, heq]
    exact hasState_alike target state _

/-- A wait is over with the first look that sees the state, or else with the first one that is not
before the end of its time. So it keeps to its time exactly if that look is at the end of the time
or an earlier one sees the state. -/
theorem waitFor_timely_iff (target : Locator) (state : ElementState) (timeout : Nat) (p : Page) :
    let wait := waitFor target state timeout
    (∃ look ≤ sleepsOf timeout, (∀ j < look, ¬Sees target state p j) ∧
        (look < sleepsOf timeout → Sees target state p look) ∧
        (wait.result p = .ok () ↔ Sees target state p look) ∧
        (wait.after p).clock = p.clock + look * lookInterval) ∧
      (Timely target state timeout p ↔
        lookInterval ∣ timeout ∨
          ∃ look, look * lookInterval ≤ timeout ∧ Sees target state p look) := by
  intro wait
  obtain ⟨look, hlook, hbefore, hearly, hresult, halike⟩ := waitFor_ends target state timeout p
  have hclock : ((waitFor target state timeout).after p).clock = p.clock + look * lookInterval :=
    halike.clock.trans (clock_atLook target state look p)
  refine ⟨⟨look, hlook, hbefore, hearly, hresult, hclock⟩, fun h => ?_, fun h => ?_⟩
  · have hover : look * lookInterval ≤ timeout := by
      have hkept := h.inTime
      omega
    by_cases hlast : look < sleepsOf timeout
    · exact .inr ⟨look, hover, hearly hlast⟩
    · rw [lt_sleepsOf_iff, Nat.not_lt] at hlast
      exact .inl (le_antisymm hover hlast ▸ Nat.dvd_mul_left lookInterval look)
  · have hover : look * lookInterval ≤ timeout := by
      rcases h with ⟨n, rfl⟩ | ⟨look', hlook', hseen⟩
      · have hn : ¬n < sleepsOf (lookInterval * n) := by
          rw [lt_sleepsOf_iff, Nat.mul_comm]
          exact lt_irrefl _
        rw [Nat.mul_comm lookInterval]
        exact Nat.mul_le_mul_right _ (hlook.trans (Nat.not_lt.mp hn))
      · have hfirst : look ≤ look' := Nat.not_lt.mp fun hlt => hbefore look' hlt hseen
        exact (Nat.mul_le_mul_right _ hfirst).trans hlook'
    have hearly : ((waitFor target state timeout).after p).clock ≤ p.clock + timeout := by omega
    exact ⟨hearly, fun _ hhas => ⟨_, (atLook_idles target state look p).look halike, hearly, hhas⟩⟩

/-- A page with a hidden element that is shown after 180 milliseconds. -/
def latePage : Page :=
  { Page.opened "" with
    dom := (Dom.empty.add Dom.root { tag := "div", id := some "box", hidden := true }).add Dom.root
      { tag := "timer", id := some "timer0", hidden := true, onClick := [.uncover 1] }
    schedule := [⟨180, Locator.ofSelector "#timer0"⟩] }

/-- A wait of 150 milliseconds succeeds after 200 milliseconds, with an element that was not visible
before its time was over. -/
theorem waitFor_visible_late :
    let target := Locator.ofSelector "#box"
    let wait := waitFor target .visible 150
    wait.result latePage = .ok () ∧ (wait.after latePage).clock = 200 ∧
      Has (wait.after latePage).dom target .visible ∧ ¬HadBy latePage target .visible 150 ∧
      ¬Timely target .visible 150 latePage := by
  intro target wait
  have hresult : wait.result latePage = .ok () := by rfl
  have hclock : (wait.after latePage).clock = 200 := by rfl
  have hhas : Has (wait.after latePage).dom target .visible :=
    any_isVisible_iff.mp (by decide +kernel)
  -- nothing happens before the appointment
  have hsame : ∀ q, Idles latePage q → q.clock ≤ 150 →
      q.dom = latePage.dom ∧ q.schedule = latePage.schedule := by
    intro q hq
    induction hq with
    | here => exact fun _ => ⟨rfl, rfl⟩
    | look _ hlook ih =>
      intro hearly
      rw [hlook.clock] at hearly
      obtain ⟨calls, rfl⟩ := hlook
      exact ih hearly
    | @pass q _ ms ih =>
      intro hearly
      have hpassed : q.clock + ms ≤ 150 := hearly
      obtain ⟨hdom, hschedule⟩ := ih (by omega)
      have hdue : ∀ a ∈ q.schedule, q.clock + ms < a.time := by
        rw [hschedule]
        intro a ha
        obtain rfl := List.mem_singleton.mp ha
        exact Nat.lt_of_le_of_lt hpassed (by decide)
      rw [pass_of_nothing_due hdue]
      exact ⟨hdom, hschedule⟩
  have hnot : ¬HadBy latePage target .visible 150 := by
    rintro ⟨q, hq, hearly, hvisible⟩
    rw [(hsame q hq hearly).1] at hvisible
    exact absurd (any_isVisible_iff.mpr hvisible) (by decide +kernel)
  exact ⟨hresult, hclock, hhas, hnot, fun h => hnot (h.hadBy hresult hhas)⟩

end FlowPilot.Page
