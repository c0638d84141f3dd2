import FlowPilot.Proofs.Action.Sidebar
import FlowPilot.Proofs.Clicking.Attempts

/-!
# When a side bar is toggled

A step reads the side bar once before it clicks. If it reads an open side bar, that is left alone.
But a reading that fails counts as a closed side bar, so that an open one is toggled, and closed,
as soon as one of the toggles reads as ready to be clicked.

## Main statements

* `Step.EnsureSidebarOpen.perform_tries_nothing_iff`: when a step tries no click.
* `Step.EnsureSidebarOpen.toggles_open_bar`: an open side bar that is closed by a step.
-/

namespace FlowPilot

namespace Page

open Clicking (Uncounted accept_eq)

/-- What a page does on its own does not count as calls. -/
theorem keep_uncounted (p : Page) (a : Appointment) : Uncounted p (p.keep a) := by
  unfold keep
  split
  · unfold Page.clicked
    split
    · rfl
    · rw [Uncounted, accept_eq]
  · rfl

theorem pass_uncounted (ms : Nat) (p : Page) : Uncounted p (p.pass ms) := by
  have hdue : ∀ due : List Appointment, Uncounted p
      (due.foldl keep
        { p with schedule := p.schedule.filter fun a => !decide (a.time ≤ p.clock + ms) }) := by
    intro due
    refine List.foldlRecOn due _ rfl fun q hq a _ => ?_
    exact trans_of Uncounted hq (keep_uncounted q a)
  exact hdue _

end Page

namespace Step.EnsureSidebarOpen

open Act Page Clicking
open FlowPilot.Action (required)

variable {s : EnsureSidebarOpen} {p : Page} {sidebar : Locator} {selector : String}
  {candidates : List Locator} {minWidth : Binary64}

/-! ### Attempts -/

theorem attempts_counted_metrics (p : Page) : (p.counted .metrics).attempts = p.attempts := by
  unfold attempts
  rw [show (p.counted .metrics).interference = p.interference.counted .metrics from rfl,
    callsOf_counted, callsOf_counted, callsOf_counted]
  rfl

theorem check_nothingTried (sidebar : Locator) (minWidth : Binary64) :
    Moves NothingTried (check sidebar minWidth) := by
  have hlook : Leads NothingTried (isOpen sidebar minWidth) := by
    intro p
    rw [after_isOpen]
    exact attempts_counted_metrics p
  refine Moves.bind hlook fun seen => ?_
  cases seen <;> exact Moves.pure _

theorem poll_nothingTried (sidebar : Locator) (minWidth : Binary64)
    (patience timeout interval : Nat) :
    Moves NothingTried (Poll.upTo patience timeout interval (check sidebar minWidth)) := by
  refine Poll.upTo_moves (check_nothingTried sidebar minWidth) fun ms p => ?_
  show (p.pass ms).attempts = p.attempts
  unfold attempts
  rw [pass_uncounted ms p]

/-- Waiting comes after the search for a toggle, and tries nothing. -/
theorem attempts_toggleAndWait (selector : String) (candidates : List Locator)
    (minWidth : Binary64) (patience timeout interval : Nat) (p : Page) :
    ((toggleAndWait selector candidates minWidth patience timeout interval).after p).attempts =
      ((clickAny Kind.ensureSidebarOpen.name candidates).after p).attempts := by
  have hpoll := poll_nothingTried (targetOf selector) minWidth patience timeout interval
  unfold toggleAndWait
  rw [after_bind]
  cases (clickAny Kind.ensureSidebarOpen.name candidates).result p with
  | error e => rfl
  | ok outcome =>
    refine (Leads.lift hpoll).bind (fun poll => ?_) _
    cases poll with
    | found value => exact Leads.pure _
    | timedOut attempts last => exact Leads.throw _
    | unfinished => exact fun _ => rfl

/-- The first look finds the side bar open exactly if it is open and can be read. -/
theorem sees_open_iff (sidebar : Locator) (minWidth : Binary64) (p : Page) :
    ((isOpen sidebar minWidth).orUse false p).1 = true ↔
      OpenAt p.dom sidebar minWidth ∧ p.interference.strikesNext .metrics = false := by
  constructor
  · intro hseen
    have hresult := isOpen_of_orUse hseen
    refine ⟨openAt_of_isOpen hresult, ?_⟩
    rw [result_isOpen] at hresult
    split at hresult
    · cases hresult
    · rename_i hread
      exact Bool.eq_false_iff.mpr hread
  · rintro ⟨hopen, hread⟩
    rw [orUse_fst, isOpen_of_openAt hopen hread]

/-- Reading the side bar changes nothing for the toggles. -/
theorem someReady_counted_metrics (p : Page) (candidates : List Locator) :
    SomeReady (p.counted .metrics) (lookedAt (p.counted .metrics) candidates) ↔
      SomeReady p (lookedAt p candidates) := by
  have hlooked : Looked 0 0 p (p.counted .metrics) := by
    refine ⟨counted_alike p .metrics, ?_, ?_, ?_, attempts_counted_metrics p⟩ <;>
      exact callsOf_counted p.interference .metrics _
  have hnodes : lookedAt (p.counted .metrics) candidates = lookedAt p candidates := by
    rw [lookedAt, hlooked.count, hlooked.lookedFrom]
    rfl
  rw [hnodes]
  exact (hlooked.someReady_iff rfl (not_someReady_nil p)).symm

/-- What a step does once its fields are read. -/
theorem openUp_tries_nothing_iff (selector : String) (candidates : List Locator)
    (minWidth : Binary64) (patience timeout interval : Nat) (p : Page) :
    NothingTried p ((openUp selector candidates minWidth patience timeout interval).after p) ↔
      (SomeReady p (lookedAt p candidates) →
        OpenAt p.dom (targetOf selector) minWidth ∧
          p.interference.strikesNext .metrics = false) := by
  rw [← sees_open_iff, after, openUp_apply]
  by_cases hseen : ((isOpen (targetOf selector) minWidth).orUse false p).1 = true
  · rw [if_pos hseen]
    exact iff_of_true (attempts_counted_metrics p) fun _ => hseen
  · have hclick : NothingTried p ((toggleAndWait selector candidates minWidth patience
        timeout interval).after (p.counted .metrics)) ↔ ¬SomeReady p (lookedAt p candidates) := by
      rw [← someReady_counted_metrics,
        ← clickAny_tries_nothing_iff Kind.ensureSidebarOpen.name candidates, NothingTried,
        NothingTried, attempts_toggleAndWait, attempts_counted_metrics]
    rw [if_neg hseen]
    exact hclick.trans (imp_iff_not hseen).symm

/-- A step that names a side bar tries no click exactly if no toggle reads as ready, or the side
bar is open and can be read at the start. So an open side bar is left alone unless its first reading
fails: then it is toggled like a closed one. -/
theorem perform_tries_nothing_iff (s : EnsureSidebarOpen) (host : Host) (timeout interval : Nat)
    (p : Page) :
    NothingTried p ((s.perform host timeout interval).after p) ↔
      ∀ selector, required "step.selector" s.selector = .ok selector →
        SomeReady p (lookedAt p s.toggles) →
          OpenAt p.dom (targetOf selector) s.width ∧
            p.interference.strikesNext .metrics = false := by
  rw [perform_eq]
  cases hselector : required "step.selector" s.selector with
  | error e => exact iff_of_true rfl nofun
  | ok selector =>
    simp only [ofExcept_ok_bind, Except.ok.injEq, forall_eq']
    cases htoggles : s.toggles with
    | nil => exact iff_of_true rfl fun hready => absurd hready (not_someReady_nil p)
    | cons toggle rest => exact openUp_tries_nothing_iff selector _ _ _ timeout interval p

/-- A page with an open side bar that a click narrows. The first look at it fails. -/
def wideBar : Page :=
  { Page.opened "" with
    dom := (Dom.empty.add Dom.root { tag := "nav", id := some "bar", width := .ofNat 250 }).add
      Dom.root { tag := "button", id := some "menu", onClick := [.setWidth 1 (.ofNat 40)] }
    interference := .striking fun op call => op == .metrics && call == 0 }

/-- The open side bar is toggled once its reading has failed, and closed by that. -/
theorem toggles_open_bar :
    let s : EnsureSidebarOpen := ⟨some "#bar", some "#menu", [], none, none⟩
    let menu := (Locator.ofSelector "#menu").nth 0
    let q := (s.perform .brief 100 5).after wideBar
    OpenAt wideBar.dom (targetOf "#bar") usualWidth ∧ ¬NothingTried wideBar q ∧
      q.events = [.scroll menu, .clicked .direct 2 menu] ∧
      ¬OpenAt q.dom (targetOf "#bar") usualWidth := by
  intro s menu q
  refine ⟨any_isOpenAt_iff.mp (by decide +kernel), ?_, by decide +kernel, ?_⟩
  · show ¬q.attempts = wideBar.attempts
    decide +kernel
  · rw [← any_isOpenAt_iff]
    decide +kernel

end Step.EnsureSidebarOpen

end FlowPilot
