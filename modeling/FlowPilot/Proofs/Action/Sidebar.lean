import FlowPilot.Action.Sidebar
import FlowPilot.Proofs.Clicking
import FlowPilot.Proofs.Poll

/-!
# Opening the side bar

A step that succeeds has measured the side bar and found it open, and nothing happens behind that
look. Between its first look and the last one it clicks once, and then it only waits.

## Main definitions

* `Step.EnsureSidebarOpen.OpenAt`: a side bar is there, displayed and wide enough.
* `Step.EnsureSidebarOpen.openUp`: what a step does once its fields are read.

## Main statements

* `Step.EnsureSidebarOpen.open_of_perform`: what holds of a page when a step has succeeded.
-/

namespace FlowPilot.Step.EnsureSidebarOpen

open Act Page Clicking
open FlowPilot.Action (required cleaned)

variable {s : EnsureSidebarOpen} {p q : Page} {sidebar : Locator} {selector : String}
  {candidates : List Locator} {minWidth : Binary64} {host : Host}
  {patience timeout interval : Nat}

/-! ### Looking -/

/-- The first element of a locator is there, displayed and wide enough. -/
def OpenAt (dom : Dom) (sidebar : Locator) (minWidth : Binary64) : Prop :=
  ∃ node e, dom.first? sidebar = some node ∧ dom.element? node = some e ∧
    e.display ≠ "none" ∧ minWidth.le (Metrics.ofElement e).width = true

theorem any_isOpenAt_iff {dom : Dom} :
    (((dom.first? sidebar).bind dom.element?).map Metrics.ofElement).any (isOpenAt minWidth) =
      true ↔ OpenAt dom sidebar minWidth := by
  simp only [OpenAt, Option.any_map, Option.any_eq_true, Option.bind_eq_some_iff]
  constructor
  · rintro ⟨e, ⟨node, hnode, he⟩, hopen⟩
    have hparts := Bool.and_eq_true_iff.mp hopen
    exact ⟨node, e, hnode, he, by simpa [Metrics.ofElement] using hparts.1, hparts.2⟩
  · rintro ⟨node, e, hnode, he, hdisplay, hwidth⟩
    exact ⟨e, ⟨node, hnode, he⟩, Bool.and_eq_true_iff.mpr ⟨by simpa [Metrics.ofElement], hwidth⟩⟩

theorem after_isOpen (sidebar : Locator) (minWidth : Binary64) (p : Page) :
    (isOpen sidebar minWidth).after p = p.counted .metrics := by
  have hmetrics : (metrics sidebar).after p = p.counted .metrics := by
    rw [metrics, after_operation]
    exact ite_self _
  rw [isOpen, after_bind, hmetrics]
  cases (metrics sidebar).result p <;> rfl

theorem result_isOpen (sidebar : Locator) (minWidth : Binary64) (p : Page) :
    (isOpen sidebar minWidth).result p =
      if p.interference.strikesNext .metrics then
        .error (.page Operation.metrics.name (.outside (p.interference.wordsNext .metrics)))
      else
        .ok ((((p.dom.first? sidebar).bind p.dom.element?).map Metrics.ofElement).any
          (isOpenAt minWidth)) := by
  rw [isOpen, result_bind, metrics, result_operation]
  cases p.interference.strikesNext .metrics <;> rfl

theorem openAt_of_isOpen (h : (isOpen sidebar minWidth).result p = .ok true) :
    OpenAt p.dom sidebar minWidth := by
  rw [result_isOpen] at h
  split at h
  · cases h
  · exact any_isOpenAt_iff.mp (Except.ok.inj h)

theorem isOpen_of_openAt (h : OpenAt p.dom sidebar minWidth)
    (hread : p.interference.strikesNext .metrics = false) :
    (isOpen sidebar minWidth).result p = .ok true := by
  rw [result_isOpen, hread, any_isOpenAt_iff.mpr h]
  rfl

theorem check_alike (sidebar : Locator) (minWidth : Binary64) :
    Moves Alike (check sidebar minWidth) := by
  have hlook : Leads Alike (isOpen sidebar minWidth) := by
    intro p
    rw [after_isOpen]
    exact counted_alike p .metrics
  refine Moves.bind hlook fun seen => ?_
  cases seen <;> exact Moves.pure _

theorem isOpen_of_check (h : (check sidebar minWidth p).1 = .ok (some ())) :
    (isOpen sidebar minWidth).result p = .ok true := by
  have hattempt : ((isOpen sidebar minWidth).attempt p).1 =
    (isOpen sidebar minWidth).result p := rfl
  rw [check, bind_apply, hattempt] at h
  cases hlook : (isOpen sidebar minWidth).result p with
  | error e =>
    rw [hlook] at h
    cases h
  | ok isOpen =>
    rw [hlook] at h
    cases isOpen with
    | false => cases h
    | true => rfl

/-! ### Opening -/

/-- Clicks a toggle and waits until the side bar is open. -/
def toggleAndWait (selector : String) (candidates : List Locator) (minWidth : Binary64)
    (patience timeout interval : Nat) : Act Page Unit := do
  let _ ← clickAny Kind.ensureSidebarOpen.name candidates
  match ← Poll.upTo patience timeout interval (check (targetOf selector) minWidth) with
  | .found _ => return
  | .timedOut _ _ => Page.refuse Kind.ensureSidebarOpen.name (.stillClosed selector timeout)
  | .unfinished => Page.endless Kind.ensureSidebarOpen.name

/-- What a step does once its fields are read. -/
def openUp (selector : String) (candidates : List Locator) (minWidth : Binary64)
    (patience timeout interval : Nat) : Act Page Unit := do
  if ← (isOpen (targetOf selector) minWidth).orUse false then return
  toggleAndWait selector candidates minWidth patience timeout interval

/-- The locators of the toggles that a step names. -/
def toggles (s : EnsureSidebarOpen) : List Locator :=
  (cleaned (s.toggleSelector.toList ++ s.toggleSelectors)).map Locator.ofSelector

/-- The width from which on the side bar of a step counts as open. -/
def width (s : EnsureSidebarOpen) : Binary64 := s.minWidth.getD usualWidth

theorem perform_eq (s : EnsureSidebarOpen) (host : Host) (timeout interval : Nat) :
    s.perform host timeout interval = (do
      let selector ← Act.ofExcept (required "step.selector" s.selector)
      if s.toggles.isEmpty then throw (.missingField "step.toggleSelector")
      openUp selector s.toggles s.width host.patience timeout interval) := rfl

theorem openUp_of_perform (h : (s.perform host timeout interval).result p = .ok ()) :
    ∃ selector, required "step.selector" s.selector = .ok selector ∧
      s.perform host timeout interval =
        openUp selector s.toggles s.width host.patience timeout interval := by
  rw [perform_eq] at h ⊢
  cases hselector : required "step.selector" s.selector with
  | error e =>
    rw [hselector] at h
    cases h
  | ok selector =>
    rw [hselector] at h
    cases htoggles : s.toggles.isEmpty with
    | true =>
      rw [htoggles] at h
      cases h
    | false => exact ⟨selector, rfl, rfl⟩

theorem openUp_apply (selector : String) (candidates : List Locator) (minWidth : Binary64)
    (patience timeout interval : Nat) (p : Page) :
    openUp selector candidates minWidth patience timeout interval p =
      if ((isOpen (targetOf selector) minWidth).orUse false p).1 then
        (.ok (), p.counted .metrics)
      else toggleAndWait selector candidates minWidth patience timeout interval
        (p.counted .metrics) := by
  have hlook : ((isOpen (targetOf selector) minWidth).orUse false p).2 = p.counted .metrics :=
    (orUse_snd _ _).trans (after_isOpen _ _ p)
  rw [← hlook]
  change (if ((isOpen (targetOf selector) minWidth).orUse false p).1 = true then _ else _ :
    Act Page Unit) _ = _
  split <;> rfl

/-- Clicking a toggle and waiting succeed only if a toggle is clicked and the poll finds the side
bar open. -/
theorem found_of_toggleAndWait
    (h : (toggleAndWait selector candidates minWidth patience timeout interval).result p = .ok ()) :
    ∃ outcome, (clickAny Kind.ensureSidebarOpen.name candidates).result p = .ok outcome ∧
      let poll := Poll.upTo patience timeout interval (check (targetOf selector) minWidth)
        ((clickAny Kind.ensureSidebarOpen.name candidates).after p)
      poll.1 = .found () ∧
        (toggleAndWait selector candidates minWidth patience timeout interval).after p =
          poll.2 := by
  cases hclick : (clickAny Kind.ensureSidebarOpen.name candidates).result p with
  | error e => simp [toggleAndWait, hclick] at h
  | ok outcome =>
    refine ⟨outcome, rfl, ?_⟩
    cases hpoll : (Poll.upTo patience timeout interval (check (targetOf selector) minWidth)
        ((clickAny Kind.ensureSidebarOpen.name candidates).after p)).1 with
    | found value => simp [toggleAndWait, hclick, hpoll]
    | timedOut attempts last => simp [toggleAndWait, hclick, hpoll, refuse] at h
    | unfinished => simp [toggleAndWait, hclick, hpoll, endless, refuse] at h

/-- One click of a toggle was accepted, after others that were refused. -/
def Toggled (candidates : List Locator) (p q : Page) : Prop :=
  Clicks p (fun node => ∃ toggle ∈ candidates, node ∈ p.dom.resolve toggle) q

theorem Toggled.after (h : Toggled candidates q r) (hpq : Unclicked p q) :
    Toggled candidates p r := by
  obtain ⟨tried, kind, node, target, htried, hfits, rfl⟩ := h
  rw [hpq.dom] at hfits
  exact ⟨tried, kind, node, target, trans_of Unclicked hpq htried, hfits, rfl⟩

theorem toggled_of_clickAny {step : String} {outcome : Outcome}
    (h : (clickAny step candidates).result p = .ok outcome) :
    Toggled candidates p ((clickAny step candidates).after p) := by
  rcases clickWithFallback_cases step candidates [] p with
    ⟨e, hrefused, -⟩ | ⟨outcome, -, tried, kind, node, target, htried, hoffered, hafter⟩
  · cases h.symm.trans hrefused
  · refine ⟨tried, kind, node, target, htried, ?_, hafter⟩
    rcases hoffered with ⟨toggle, htoggle, -, hnode⟩ | ⟨fallback, hfallback, -⟩
    · exact ⟨toggle, htoggle, hnode⟩
    · cases hfallback

/-- A look that fails does not count as finding the side bar open. -/
theorem isOpen_of_orUse (h : ((isOpen sidebar minWidth).orUse false p).1 = true) :
    (isOpen sidebar minWidth).result p = .ok true := by
  rw [orUse_fst] at h
  cases hlook : (isOpen sidebar minWidth).result p with
  | ok seen =>
    rw [hlook] at h
    exact congrArg Except.ok h
  | error e =>
    rw [hlook] at h
    cases h

/-- Clicking and waiting end with a look that finds the side bar open. -/
theorem open_of_toggleAndWait
    (h : (toggleAndWait selector candidates minWidth patience timeout interval).result p = .ok ()) :
    let q := (toggleAndWait selector candidates minWidth patience timeout interval).after p
    OpenAt q.dom (targetOf selector) minWidth ∧
      ∃ toggled, Toggled candidates p toggled ∧ Idles toggled q := by
  intro q
  obtain ⟨outcome, hclick, hfound, hafter⟩ := found_of_toggleAndWait h
  have hcheck : Moves Idles (check (targetOf selector) minWidth) :=
    fun r => (check_alike _ _ r).idles
  obtain ⟨looking, hidles, hseen, hleft⟩ :=
    Poll.upTo_found hcheck (fun ms _ => Idles.here.pass ms) hfound
  have hlast : Alike looking q := by
    rw [show q = _ from hafter.trans hleft]
    exact check_alike _ _ looking
  refine ⟨?_, _, toggled_of_clickAny hclick, hidles.look hlast⟩
  rw [hlast.dom]
  exact openAt_of_isOpen (isOpen_of_check hseen)

theorem open_of_openUp
    (h : (openUp selector candidates minWidth patience timeout interval).result p = .ok ()) :
    let q := (openUp selector candidates minWidth patience timeout interval).after p
    OpenAt q.dom (targetOf selector) minWidth ∧
      (Alike p q ∨ ∃ toggled, Toggled candidates p toggled ∧ Idles toggled q) := by
  have hlooked := counted_alike p .metrics
  unfold result at h
  unfold after
  rw [openUp_apply] at h ⊢
  by_cases hseen : ((isOpen (targetOf selector) minWidth).orUse false p).1 = true
  · rw [if_pos hseen]
    refine ⟨?_, .inl hlooked⟩
    rw [hlooked.dom]
    exact openAt_of_isOpen (isOpen_of_orUse hseen)
  · rw [if_neg hseen] at h ⊢
    obtain ⟨hopen, toggled, htoggled, hidles⟩ := open_of_toggleAndWait h
    exact ⟨hopen, .inr ⟨toggled, htoggled.after hlooked.unclicked, hidles⟩⟩

theorem openUp_of_openAt (candidates : List Locator) (patience timeout interval : Nat)
    (h : OpenAt p.dom (targetOf selector) minWidth)
    (hread : p.interference.strikesNext .metrics = false) :
    openUp selector candidates minWidth patience timeout interval p =
      (.ok (), p.counted .metrics) := by
  have hseen : ((isOpen (targetOf selector) minWidth).orUse false p).1 = true := by
    rw [orUse_fst, isOpen_of_openAt h hread]
  rw [openUp_apply, if_pos hseen]

/-- When a step succeeds, the side bar is open. The step clicked one toggle and waited, or it only
looked. If the step is repeated and its look does not fail, it succeeds with that look, and the page
is left as it is. -/
theorem open_of_perform (h : (s.perform host timeout interval).result p = .ok ()) :
    let q := (s.perform host timeout interval).after p
    (∃ selector, required "step.selector" s.selector = .ok selector ∧
      OpenAt q.dom (targetOf selector) s.width) ∧
    (Alike p q ∨ ∃ toggled, Toggled s.toggles p toggled ∧ Idles toggled q) ∧
    ∀ interference : Interference, interference.strikesNext .metrics = false →
      let r := { q with interference := interference }
      (s.perform host timeout interval).result r = .ok () ∧
        (s.perform host timeout interval).after r = r.counted .metrics := by
  obtain ⟨selector, hselector, heq⟩ := openUp_of_perform h
  rw [heq] at h ⊢
  obtain ⟨hopen, hclicks⟩ := open_of_openUp h
  refine ⟨⟨selector, hselector, hopen⟩, hclicks, fun interference hread => ?_⟩
  have hagain := openUp_of_openAt
    (p := { (openUp selector s.toggles s.width host.patience timeout interval).after p with
      interference := interference }) s.toggles host.patience timeout interval hopen hread
  exact ⟨congrArg Prod.fst hagain, congrArg Prod.snd hagain⟩

/-- A page with a narrow side bar that a click widens. The first two looks at it fail. -/
def narrowBar : Page :=
  { Page.opened "" with
    dom := (Dom.empty.add Dom.root { tag := "nav", id := some "bar", width := .ofNat 40 }).add
      Dom.root { tag := "button", id := some "menu", onClick := [.setWidth 1 (.ofNat 260)] }
    interference := .striking fun op call => op = .metrics ∧ call < 2 }

/-- The side bar is opened with one click, and the third look finds it open. -/
theorem opens_narrow_bar :
    let s : EnsureSidebarOpen := ⟨some "#bar", some "#menu", [], none, none⟩
    let menu := (Locator.ofSelector "#menu").nth 0
    let q := (s.perform .brief 100 5).after narrowBar
    (s.perform .brief 100 5).result narrowBar = .ok () ∧ q.clock = 5 ∧
      q.events = [.scroll menu, .clicked .direct 2 menu] ∧
      OpenAt q.dom (targetOf "#bar") usualWidth ∧
      (s.perform .brief 100 5).result { q with interference := Interference.none } = .ok () := by
  intro s menu q
  have hresult : (s.perform .brief 100 5).result narrowBar = .ok () := by decide +kernel
  have hevents : q.events = [.scroll menu, .clicked .direct 2 menu] := by decide +kernel
  obtain ⟨⟨selector, hselector, hopen⟩, -, hagain⟩ := open_of_perform hresult
  have hselected : required "step.selector" s.selector = .ok "#bar" := by rfl
  obtain rfl : "#bar" = selector := Except.ok.inj (hselected.symm.trans hselector)
  exact ⟨hresult, by decide +kernel, hevents, hopen, (hagain Interference.none rfl).1⟩

end FlowPilot.Step.EnsureSidebarOpen
