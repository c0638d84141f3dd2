import FlowPilot.Action.Perform
import FlowPilot.Proofs.Action.Sidebar
import FlowPilot.Proofs.Action.TableClick
import FlowPilot.Proofs.Clicking.Calls
import FlowPilot.Proofs.Poll.Stalling

/-!
# What steps do to a page

A step looks at a page, changes its elements and its address, adds to its record and lets time pass.
So a relation that allows these holds between the page before a step and the page after it, however
the step ends. A wait that never ends also marks the page.

## Main definitions

* `Page.Allows`: a relation that allows all that steps do to a page, marks apart.

## Main statements

* `Step.Leaf.perform_leads`: such a relation holds between the pages before and after a step.
-/

namespace FlowPilot

open Act

/-- A relation that allows all that steps do to a page, marks apart. -/
structure Page.Allows (R : Page → Page → Prop) : Prop where
  alike {p q : Page} (h : p.Alike q) : R p q
  changed (p : Page) (dom : Dom) (url : String) (added : List Page.Event) :
    R p { p with dom := dom, url := url, events := p.events ++ added }
  timed (p : Page) (schedule : List Page.Appointment) (ms : Nat) :
    R p { p with schedule := schedule, clock := p.clock + ms }

/-- Waits end, or a page may be marked. -/
def Page.AllowsWaits (R : Page → Page → Prop) (interval : Nat) : Prop :=
  0 < interval ∨ ∀ p : Page, R p { p with stuck := true }

variable {R : Page → Page → Prop}

namespace Page.Allows

section Single

variable (h : Allows R)

include h

theorem leads {α : Type} {x : Act Page α} (hx : Leads Alike x) : Leads R x := fun p =>
  h.alike (hx p)

theorem moves {α : Type} {m : StateM Page α} (hm : Moves Alike m) : Moves R m := fun p =>
  h.alike (hm p)

theorem log (p : Page) (e : Event) : R p (p.log e) := h.changed p p.dom p.url [e]

theorem record_leads (e : Event) : Leads R (record e) := fun p => h.log p e

theorem setValue_leads (node : Nat) (value : String) : Leads R (setValue node value) := by
  intro p
  have hchanged := h.changed p (p.dom.modify node fun e => { e with value := value }) p.url []
  rw [List.append_nil] at hchanged
  exact hchanged

end Single

variable [IsPreorder Page R] (h : Allows R)

include h

/-- The effects of a click change elements and the address. -/
theorem foldl_applyEffect (effects : List Element.Effect) (p : Page) :
    R p (effects.foldl applyEffect p) := by
  induction effects generalizing p with
  | nil => exact refl_of R p
  | cons e rest ih =>
    have heffect : R p (p.applyEffect e) := by
      have hchanged := h.changed p (p.applyEffect e).dom (p.applyEffect e).url []
      rw [List.append_nil] at hchanged
      cases e <;> exact hchanged
    exact trans_of R heffect (ih _)

theorem accept (p : Page) (kind : ClickKind) (node : Nat) (target : Locator) :
    R p (p.accept kind node target) :=
  trans_of R (h.log p _) (h.foldl_applyEffect _ _)

theorem clicked (p : Page) (kind : ClickKind) (target : Locator) (node : Nat) :
    R p (p.clicked kind target node).2 := by
  unfold Page.clicked
  split
  · exact h.log p _
  · exact h.accept p kind node target

/-- What was due when time has passed. -/
theorem foldl_keep (due : List Appointment) (p : Page) : R p (due.foldl keep p) := by
  refine List.foldlRecOn due keep (refl_of R p) fun q hq a _ => trans_of R hq ?_
  unfold keep
  split
  · exact h.clicked q _ _ _
  · exact refl_of R q

theorem pass (ms : Nat) (p : Page) : R p (p.pass ms) := by
  rw [pass_eq]
  generalize (p.schedule.filter fun a => decide (a.time ≤ p.clock + ms)) = due
  -- clicks that are due leave the clock and the interference as they are
  have hframed : due.foldl keep p =
      (due.foldl keep p).framed p.schedule p.clock p.interference :=
    foldl_keep_framed p.schedule p.clock p.interference due p
  have hkept := h.foldl_keep due p
  rw [hframed] at hkept
  exact trans_of R hkept (h.timed _ _ ms)

theorem clickNode_leads (kind : ClickKind) (name : String) (fault : PageFault) (target : Locator)
    (node : Nat) : Leads R (clickNode kind name fault target node) := by
  intro p
  rw [after_clickNode]
  exact h.clicked p kind target node

theorem operation_leads {α : Type} (op : Operation) {body : Act Page α} (hbody : Leads R body) :
    Leads R (operation op body) :=
  Page.operation_leads (fun p op => h.alike (counted_alike p op)) op hbody

/-! ### Operations -/

theorem goto_leads (url : String) : Leads R (goto url) :=
  h.operation_leads _ fun p => h.changed p p.dom url [.goto url]

theorem click_leads (target : Locator) (force : Bool) : Leads R (click target force) := by
  refine h.operation_leads _ ((h.leads (demandNode_alike _ _)).bind fun node => ?_)
  refine Leads.get.bind fun _ => Leads.ite (h.clickNode_leads _ _ _ _ _) ?_
  exact (h.record_leads _).bind fun _ => Leads.throw _

theorem fill_leads (target : Locator) (text : String) : Leads R (fill target text) :=
  h.operation_leads _ <| (h.leads (demandNode_alike _ _)).bind fun _ =>
    (h.setValue_leads _ _).bind fun _ => h.record_leads _

theorem selectOption_leads (target : Locator) (option : SelectOption) :
    Leads R (selectOption target option) := by
  refine h.operation_leads _ ((h.leads (demandElement_alike _ _)).bind fun (node, e) => ?_)
  dsimp only
  split
  · exact (h.setValue_leads _ _).bind fun _ => h.record_leads _
  · exact Leads.throw _

theorem press_leads (target : Locator) (key : String) : Leads R (press target key) :=
  h.operation_leads _ ((h.leads (demandNode_alike _ _)).bind fun _ => h.record_leads _)

theorem textContent_leads (target : Locator) : Leads R (textContent target) :=
  h.operation_leads _ <| (h.leads (demandNode_alike _ _)).bind fun _ =>
    Leads.get.bind fun _ => Leads.pure _

theorem waitFor_leads (target : Locator) (state : ElementState) (timeout : Nat) :
    Leads R (waitFor target state timeout) :=
  Page.waitFor_leads (fun p op => h.alike (counted_alike p op)) h.pass target state timeout

theorem upTo_moves {ε α : Type} {check : StateM Page (Except ε (Option α))}
    (hcheck : Moves Alike check) (patience timeout interval : Nat) :
    Moves R (Poll.upTo patience timeout interval check) :=
  Poll.upTo_moves (h.moves hcheck) h.pass

/-! ### Searches -/

theorem unclicked {p q : Page} (hpq : Unclicked p q) : R p q := by
  obtain ⟨calls, added, rfl, -⟩ := hpq
  exact trans_of R (h.changed p p.dom p.url added) (h.alike ⟨calls, rfl⟩)

/-- A search ends with a click, or all its attempts failed. -/
theorem clickWithFallback_leads (step : String) (candidates : List Locator)
    (fallbacks : List Clicking.Fallback) :
    Leads R (Clicking.clickWithFallback step candidates fallbacks) := by
  intro p
  rcases Clicking.clickWithFallback_cases step candidates fallbacks p with
    ⟨e, -, hunclicked⟩ | ⟨outcome, -, tried, kind, node, target, htried, -, hafter⟩
  · exact h.unclicked hunclicked
  · rw [hafter]
    exact trans_of R (h.unclicked htried) (h.accept tried kind node target)

theorem clickInTable_leads {name selector : String} {logUrl : Bool} {timeout : Nat}
    {aim : Locator → Act Page (List Locator × List Clicking.Fallback)}
    (haim : ∀ table, Leads Alike (aim table)) :
    Leads R (Step.clickInTable name logUrl selector timeout aim) := by
  have hnote := fun asked => Leads.lift (h.moves (Step.noteUrl_alike asked))
  refine (hnote _).bind fun _ => Leads.bind ?_ fun table => ?_
  · exact (h.waitFor_leads _ _ _).bind fun _ => Leads.pure _
  refine (h.leads (haim table)).bind fun (candidates, fallbacks) => ?_
  refine (h.clickWithFallback_leads _ _ _).bind fun _ => ?_
  exact (hnote _).bind fun _ => Leads.pure _

end Page.Allows

variable [IsPreorder Page R]

namespace Page

/-! ### Polls -/

section Poll

variable {ε α : Type} {check : StateM Page (Except ε (Option α))} {interval : Nat}

/-- Where time passes between the checks, a poll of a page ends. -/
theorem upTo_ne_unfinished (hcheck : Moves Alike check) (hinterval : 0 < interval)
    (patience timeout : Nat) (p : Page) :
    (Poll.upTo patience timeout interval check p).1 ≠ .unfinished := by
  obtain ⟨k, -, -, hend⟩ := Poll.upTo_ends patience timeout p hinterval fun q =>
    (Poll.now_of_alike hcheck q).ge
  rw [hend]
  exact Poll.endAt_ne_unfinished _ _ _ _ _

/-- What follows a poll is all that counts, one part for each way to end. Where time passes between
the checks, no poll is unfinished. -/
theorem Allows.poll_leads (h : Allows R) (hcheck : Moves Alike check)
    {next : Poll.Outcome ε α → Act Page Unit} (patience timeout : Nat)
    (hfound : ∀ value, Leads R (next (.found value)))
    (htimedOut : ∀ attempts last, Leads R (next (.timedOut attempts last)))
    (hendless : 0 < interval ∨ Leads R (next .unfinished)) :
    Leads R (liftM (Poll.upTo patience timeout interval check) >>= next) := by
  intro p
  have hpoll := h.upTo_moves hcheck patience timeout interval p
  rw [after, lift_bind_apply]
  refine trans_of R hpoll ?_
  cases hend : (Poll.upTo patience timeout interval check p).1 with
  | found value => exact hfound value _
  | timedOut attempts last => exact htimedOut attempts last _
  | unfinished =>
    refine (hendless.resolve_left fun hinterval => ?_) _
    exact upTo_ne_unfinished hcheck hinterval patience timeout p hend

end Poll

theorem AllowsWaits.endless {interval : Nat} (hwaits : AllowsWaits R interval) {α : Type}
    (name : String) : 0 < interval ∨ Leads R (endless name : Act Page α) :=
  hwaits.imp_right fun hmark => Leads.bind (fun p => hmark p) fun _ => Leads.throw _

end Page

namespace Step

open Page

variable {host : Host} {interval : Nat}

section Waits

variable (h : Allows R) (hwaits : AllowsWaits R interval)

include h hwaits

theorem WaitForUrl.perform_leads (s : WaitForUrl) (timeout : Nat) :
    Leads R (s.perform host timeout interval) := by
  refine (Leads.ofExcept _).bind fun criterion => ?_
  have hurl := Leads.lift (h.moves (currentUrl_alike.orUse ""))
  exact h.poll_leads (Poll.waitForUrl_alike criterion) _ _ (fun _ => Leads.pure _)
    (fun _ _ => hurl.bind fun _ => Leads.throw _) (hwaits.endless _)

theorem AssertOnPage.perform_leads (s : AssertOnPage) (timeout : Nat) :
    Leads R (s.perform host timeout interval) := by
  refine (Leads.ofExcept _).bind fun e => ?_
  exact h.poll_leads e.check_alike _ _ (fun _ => Leads.pure _) (fun _ _ => Leads.throw _)
    (hwaits.endless _)

theorem EnsureSidebarOpen.perform_leads (s : EnsureSidebarOpen) (timeout : Nat) :
    Leads R (s.perform host timeout interval) := by
  have hopen (selector : String) (candidates : List Locator) (minWidth : Binary64) :
      Leads R (openUp selector candidates minWidth host.patience timeout interval) := by
    have hlook : Moves Alike ((isOpen (targetOf selector) minWidth).orUse false) :=
      Leads.orUse (fun p => after_isOpen _ _ p ▸ counted_alike p _) _
    refine (Leads.lift (h.moves hlook)).bind fun seen => Leads.ite (Leads.pure _) ?_
    refine (h.clickWithFallback_leads _ _ _).bind fun _ => ?_
    exact h.poll_leads (check_alike _ _) _ _ (fun _ => Leads.pure _) (fun _ _ => Leads.throw _)
      (hwaits.endless _)
  rw [perform_eq]
  refine (Leads.ofExcept _).bind fun selector => ?_
  exact Leads.ite ((Leads.throw _).bind fun _ => hopen _ _ _) (hopen _ _ _)

/-- What a relation allows holds between the pages before and after any step. -/
theorem Leaf.perform_leads (s : Leaf) (timeout : Nat) :
    Leads R (s.perform host interval timeout) := by
  cases s with
  | goto s => exact (Leads.ofExcept _).bind fun _ => h.goto_leads _
  | click s => exact (Leads.ofExcept _).bind fun _ => h.click_leads _ _
  | clickAny s =>
    have hnote := Leads.lift (h.moves (noteUrl_alike s.logUrl))
    have hclick : Leads R (do
        Action.noteUrl s.logUrl
        let outcome ← Clicking.clickAny "clickAny"
          ((Action.cleaned s.selectors).map Locator.ofSelector)
        Action.noteUrl s.logUrl
        return outcome) :=
      hnote.bind fun _ => (h.clickWithFallback_leads _ _ _).bind fun _ =>
        hnote.bind fun _ => Leads.pure _
    exact (Leads.ite ((Leads.throw _).bind fun _ => hclick) hclick).discard
  | fill s =>
    exact (Leads.ofExcept _).bind fun _ => (Leads.ofExcept _).bind fun _ => h.fill_leads _ _
  | select s =>
    exact (Leads.ofExcept _).bind fun _ => (Leads.ofExcept _).bind fun _ =>
      h.selectOption_leads _ _
  | waitForSelector s => exact (Leads.ofExcept _).bind fun _ => h.waitFor_leads _ _ _
  | waitForUrl s => exact s.perform_leads h hwaits timeout
  | expectText s =>
    refine (Leads.ofExcept _).bind fun _ => (Leads.ofExcept _).bind fun _ => ?_
    exact (h.textContent_leads _).bind fun _ => Leads.ite (Leads.pure _) (Leads.throw _)
  | press s =>
    exact (Leads.ofExcept _).bind fun _ => (Leads.ofExcept _).bind fun _ => h.press_leads _ _
  | assertOnPage s => exact s.perform_leads h hwaits timeout
  | clickRowAction s =>
    refine Leads.discard ?_
    rcases s.perform_cases timeout with ⟨e, -, hperform⟩ | ⟨selector, text, -, hperform⟩
    · rw [hperform]
      exact Leads.throw e
    · rw [hperform]
      exact h.clickInTable_leads (s.aim_alike text)
  | clickTableCellLink s =>
    refine Leads.discard ?_
    rcases s.perform_cases timeout with ⟨e, -, hperform⟩ | ⟨selector, target, mode, -, hperform⟩
    · rw [hperform]
      exact Leads.throw e
    · rw [hperform]
      exact h.clickInTable_leads (s.aim_alike target mode)
  | ensureSidebarOpen s => exact s.perform_leads h hwaits timeout

end Waits

end Step

end FlowPilot
