import FlowPilot.Action.Navigation
import FlowPilot.Limits
import FlowPilot.Proofs.Action.Expectation
import FlowPilot.Proofs.Action.Sidebar
import FlowPilot.Proofs.Poll

/-!
# Polls that stall

A poll comes closer to its deadline only by the sleep between two checks. So a poll with an interval
ends after no more checks than there are milliseconds, and one that has no interval stalls: as long
as its checks take no time and find nothing it goes on at the same instant, whatever its timeout is.
The environment may set the interval to zero.

## Main definitions

* `Poll.EndsWithin`: a poll that ends by itself after at most so many checks.
* `Poll.Stalls`: a poll that is still at its first instant after so many checks.
* `Poll.instantly`: a script of checks that take no time.

## Main statements

* `Poll.endsWithin_iff_not_stalls`: a poll whose checks take no time ends in time unless it stalls.
* `Poll.endsWithin_of_environment`: the same for the limits of an environment and for what steps
  poll.
-/

namespace FlowPilot

open Act (Moves)

namespace Poll

variable {σ ε α : Type} [Clock σ]
variable {check : StateM σ (Except ε (Option α))} {s : σ}
variable {timeout interval checks more k : Nat}

/-! ### Polls that end by themselves -/

/-- A poll ends by itself after at most so many checks. -/
def EndsWithin (checks timeout interval : Nat) (check : StateM σ (Except ε (Option α)))
    (s : σ) : Prop :=
  (within checks timeout interval check s).1 ≠ .unfinished

/-- A check of a poll, counted from zero, finds nothing. -/
def FindsNothing (timeout interval : Nat) (check : StateM σ (Except ε (Option α))) (s : σ)
    (k : Nat) : Prop :=
  found? (check (started (Clock.now s + timeout) interval check s k)).1 = none

/-- There is time left, but none passes between the checks, and so many of them find nothing. -/
def Stalls (checks timeout interval : Nat) (check : StateM σ (Except ε (Option α))) (s : σ) :
    Prop :=
  interval = 0 ∧ 0 < timeout ∧ ∀ k < checks, FindsNothing timeout interval check s k

theorem endAt_ne_unfinished (deadline interval : Nat) (check : StateM σ (Except ε (Option α)))
    (s : σ) (k : Nat) : (endAt deadline interval check s k).1 ≠ .unfinished := by
  unfold endAt
  dsimp only
  cases found? (check (started deadline interval check s k)).1 <;> simp

/-- The first check, of those up to some number, after which a poll does not go on. -/
theorem exists_first_end
    (h : ∃ k < checks, ¬GoesOn (Clock.now s + timeout) check
      (started (Clock.now s + timeout) interval check s k)) :
    ∃ k < checks, ¬GoesOn (Clock.now s + timeout) check
        (started (Clock.now s + timeout) interval check s k) ∧
      ∀ j < k, GoesOn (Clock.now s + timeout) check
        (started (Clock.now s + timeout) interval check s j) := by
  classical
  obtain ⟨hlt, hend⟩ := Nat.find_spec h
  refine ⟨Nat.find h, hlt, hend, fun j hj => ?_⟩
  by_contra hnot
  exact Nat.find_min h hj ⟨hj.trans hlt, hnot⟩

theorem endsWithin_iff :
    EndsWithin checks timeout interval check s ↔
      ∃ k < checks, ¬GoesOn (Clock.now s + timeout) check
        (started (Clock.now s + timeout) interval check s k) := by
  constructor
  · intro hends
    by_contra hnone
    push Not at hnone
    -- every check goes on, so that the budget is used up
    have hskip : checkUntil (Clock.now s + timeout) interval check (0 + checks) 0 none s =
      (.unfinished, _) := checkUntil_skip hnone
    rw [Nat.zero_add] at hskip
    exact hends (congrArg Prod.fst hskip)
  · intro h hunfinished
    obtain ⟨k, hk, hend, hbefore⟩ := exists_first_end h
    have hrun := congrArg Prod.fst (checkUntil_eq_endAt hbefore hend hk)
    exact endAt_ne_unfinished _ _ _ _ _ (hrun.symm.trans hunfinished)

/-- A poll that ends by itself ends in the same way however many checks it may make. -/
theorem EndsWithin.within_add (h : EndsWithin checks timeout interval check s) (more : Nat) :
    within (checks + more) timeout interval check s = within checks timeout interval check s := by
  obtain ⟨k, hk, hend, hbefore⟩ := exists_first_end (endsWithin_iff.mp h)
  calc within (checks + more) timeout interval check s
      = endAt (Clock.now s + timeout) interval check s k :=
        checkUntil_eq_endAt hbefore hend (by omega)
    _ = within checks timeout interval check s := (checkUntil_eq_endAt hbefore hend hk).symm

theorem EndsWithin.mono (h : EndsWithin checks timeout interval check s) (more : Nat) :
    EndsWithin (checks + more) timeout interval check s := by
  unfold EndsWithin
  rw [h.within_add more]
  exact h

/-! ### Checks that take no time -/

section Instant

variable [Clock.IsLawful σ]
variable (hinstant : ∀ t, Clock.now (check t).2 = Clock.now t)

include hinstant

/-- A poll goes on after a check that finds nothing before the end of the time. -/
theorem goesOn_iff_findsNothing :
    GoesOn (Clock.now s + timeout) check
        (started (Clock.now s + timeout) interval check s k) ↔
      FindsNothing timeout interval check s k ∧ k * interval < timeout := by
  have hearly : instant timeout interval k < timeout ↔ k * interval < timeout := by
    rw [instant]
    omega
  rw [GoesOn, hinstant, now_started_of_instant hinstant, Nat.add_lt_add_iff_left, hearly]
  rfl

/-- A poll whose checks take no time ends after no more checks than there are milliseconds, and one
more, unless it stalls. -/
theorem endsWithin_iff_not_stalls (htime : timeout < checks) :
    EndsWithin checks timeout interval check s ↔ ¬Stalls checks timeout interval check s := by
  rw [endsWithin_iff]
  simp only [goesOn_iff_findsNothing hinstant]
  constructor
  · rintro ⟨k, hk, hend⟩ ⟨hinterval, htimeout, hnothing⟩
    refine hend ⟨hnothing k hk, ?_⟩
    rw [hinterval, Nat.mul_zero]
    exact htimeout
  · intro hstalls
    by_contra hnone
    push Not at hnone
    have hlast := (hnone timeout htime).2
    have hinterval : interval = 0 := by
      by_contra hne
      exact absurd hlast (Nat.not_lt.mpr (Nat.le_mul_of_pos_right timeout (by omega)))
    exact hstalls ⟨hinterval, by omega, fun k hk => (hnone k hk).1⟩

end Instant

/-! ### Scripts -/

/-- Checks that take no time, given by what they find. -/
def instantly (script : Nat → Except ε (Option α)) : StateM Timed (Except ε (Option α)) :=
  scripted fun k => (0, script k)

variable {script : Nat → Except ε (Option α)} {start : Nat}

theorem findsNothing_instantly :
    FindsNothing timeout interval (instantly script) ⟨start, []⟩ k ↔
      found? (script k) = none := by
  unfold FindsNothing instantly
  rw [scripted_started]

/-- A script stalls a poll without an interval until one of its checks finds something. -/
theorem endsWithin_instantly (htime : timeout < checks) :
    EndsWithin checks timeout interval (instantly script) ⟨start, []⟩ ↔
      ¬(interval = 0 ∧ 0 < timeout ∧ ∀ k < checks, found? (script k) = none) := by
  rw [endsWithin_iff_not_stalls (fun _ => rfl) htime]
  unfold Stalls
  simp only [findsNothing_instantly]

/-! ### Limits of an environment -/

/-- Only a variable that is written as zero takes the time between the checks away. -/
theorem pollInterval_eq_zero_iff (get : String → Option String) :
    (Limits.ofEnvironment get).pollInterval = 0 ↔
      ((get "AGENT_POLL_INTERVAL_MS").bind fun v => natural? (Text.trim v)) = some 0 := by
  change ((get "AGENT_POLL_INTERVAL_MS").bind fun v => natural? (Text.trim v)).getD 250 = 0 ↔ _
  cases (get "AGENT_POLL_INTERVAL_MS").bind fun v => natural? (Text.trim v) <;> simp

theorem waitForUrl_alike (criterion : UrlCriterion) :
    Moves Page.Alike (Step.WaitForUrl.check criterion) := by
  refine Moves.bind Page.currentUrl_alike fun seen => ?_
  cases seen <;> exact Moves.pure _

/-- Looks at a page take no time. -/
theorem now_of_alike {check : StateM Page (Except ε (Option α))} (h : Moves Page.Alike check)
    (p : Page) : Clock.now (check p).2 = Clock.now p :=
  (h p).clock

/-- With the limits of an environment, polls whose checks take no time end after no more checks
than there are milliseconds, and one more, unless the interval is zero, there is time, and none of
these checks finds anything. -/
theorem endsWithin_of_environment (get : String → Option String) (timeout more : Nat) :
    let interval := (Limits.ofEnvironment get).pollInterval
    let checks := timeout + 1 + more
    (interval = 0 ↔
      ((get "AGENT_POLL_INTERVAL_MS").bind fun v => natural? (Text.trim v)) = some 0) ∧
    (∀ (start : Nat) (script : Nat → Except ε (Option α)),
      EndsWithin checks timeout interval (instantly script) ⟨start, []⟩ ↔
        ¬(interval = 0 ∧ 0 < timeout ∧ ∀ k < checks, found? (script k) = none)) ∧
    (∀ (criterion : UrlCriterion) (p : Page),
      EndsWithin checks timeout interval (Step.WaitForUrl.check criterion) p ↔
        ¬Stalls checks timeout interval (Step.WaitForUrl.check criterion) p) ∧
    (∀ (e : Expectation) (p : Page),
      EndsWithin checks timeout interval e.check p ↔
        ¬Stalls checks timeout interval e.check p) ∧
    ∀ (sidebar : Locator) (minWidth : Binary64) (p : Page),
      EndsWithin checks timeout interval (Step.EnsureSidebarOpen.check sidebar minWidth) p ↔
        ¬Stalls checks timeout interval (Step.EnsureSidebarOpen.check sidebar minWidth) p := by
  intro interval checks
  have htime : timeout < checks := by omega
  refine ⟨pollInterval_eq_zero_iff get, fun start script => endsWithin_instantly htime,
    fun criterion p => ?waitForUrl, fun e p => ?assertOnPage,
    fun sidebar minWidth p => ?ensureSidebarOpen⟩
  case waitForUrl =>
    exact endsWithin_iff_not_stalls (now_of_alike (waitForUrl_alike criterion)) htime
  case assertOnPage => exact endsWithin_iff_not_stalls (now_of_alike e.check_alike) htime
  case ensureSidebarOpen =>
    exact endsWithin_iff_not_stalls
      (now_of_alike (Step.EnsureSidebarOpen.check_alike sidebar minWidth)) htime

/-- An environment whose interval is zero is accepted, and a poll for two milliseconds may then
make five checks, or go on whatever the number of its checks is. -/
theorem stalls_without_interval :
    let get := fun key => if key = "AGENT_POLL_INTERVAL_MS" then some "0" else none
    let interval := (Limits.ofEnvironment get).pollInterval
    let fifth := fun k => (.ok (if k = 4 then some 1 else none) : Except String (Option Nat))
    let never := fun _ => (.ok none : Except String (Option Nat))
    interval = 0 ∧
      ¬EndsWithin 3 2 interval (instantly fifth) ⟨0, []⟩ ∧
      within 5 2 interval (instantly fifth) ⟨0, []⟩ = (.found 1, ⟨0, [0, 0, 0, 0, 0]⟩) ∧
      ∀ checks, ¬EndsWithin checks 2 interval (instantly never) ⟨0, []⟩ := by
  intro get interval fifth never
  have hzero : interval = 0 := (pollInterval_eq_zero_iff get).mpr (by decide +kernel)
  rw [hzero]
  refine ⟨rfl, ?_, rfl, fun checks hends => ?_⟩
  · rw [endsWithin_instantly (by decide)]
    exact not_not.mpr ⟨rfl, by decide, by decide⟩
  · have hlater := hends.mono 3
    rw [endsWithin_instantly (by omega)] at hlater
    exact hlater ⟨rfl, by decide, fun _ _ => rfl⟩

end Poll

end FlowPilot
