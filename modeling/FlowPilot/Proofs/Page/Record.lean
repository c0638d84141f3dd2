import FlowPilot.Page.Wait
import FlowPilot.Proofs.Act
import Mathlib.Data.List.Infix

/-!
# The record of a page

What was done to a page is never forgotten: whatever happens to the page, its record only grows.
A click that succeeds is the next entry.

## Main definitions

* `Page.Grows`: the record of a page is the beginning of the record of another one.
* `Page.Accepts`: a page that accepts a click of the mouse.
* `Page.atLook`: a page at one of the looks of a wait.

## Main statements

* `Page.accepts_of_click`: a click of the mouse succeeds only where the page accepts it.
* `Page.seen_of_waitFor`: a wait for an element succeeds only where a look reads it as visible.
-/

namespace FlowPilot.Page

open Act

/-- The record of a page is the beginning of the record of another one. -/
def Grows (p q : Page) : Prop := p.events <+: q.events

instance : IsPreorder Page Grows where
  refl p := List.prefix_refl p.events
  trans _ _ _ := List.IsPrefix.trans

/-! ### Clicks and time -/

theorem applyEffect_events (p : Page) (e : Element.Effect) :
    (p.applyEffect e).events = p.events := by
  cases e <;> rfl

theorem accept_events (p : Page) (kind : ClickKind) (node : Nat) (target : Locator) :
    (p.accept kind node target).events = p.events ++ [.clicked kind node target] := by
  -- effects of a click change the page, never its record
  have heffects : ∀ (effects : List Element.Effect) (q : Page),
      (effects.foldl applyEffect q).events = q.events := by
    intro effects
    induction effects with
    | nil => exact fun _ => rfl
    | cons e rest ih =>
      intro q
      rw [List.foldl_cons, ih, applyEffect_events]
  exact heffects _ _

theorem clicked_grows (p : Page) (kind : ClickKind) (target : Locator) (node : Nat) :
    Grows p (p.clicked kind target node).2 := by
  unfold clicked
  split
  · exact List.prefix_append _ _
  · rw [Grows, accept_events]
    exact List.prefix_append _ _

theorem clicked_of_accepted {p : Page} {kind : ClickKind} {target : Locator} {node : Nat}
    (h : (p.clicked kind target node).1 = true) :
    (p.clicked kind target node).2 = p.accept kind node target := by
  unfold clicked at h ⊢
  split at h
  · exact absurd h Bool.false_ne_true
  · rename_i haccepts
    rw [if_neg haccepts]

theorem clicked_of_refused {p : Page} {kind : ClickKind} {target : Locator} {node : Nat}
    (h : (p.clicked kind target node).1 = false) :
    (p.clicked kind target node).2 = p.log (.refused kind target) := by
  unfold clicked at h ⊢
  split at h
  · rename_i hrefuses
    rw [if_pos hrefuses]
  · exact absurd h.symm Bool.false_ne_true

theorem keep_grows (p : Page) (a : Appointment) : Grows p (p.keep a) := by
  unfold keep
  split
  · exact clicked_grows p _ _ _
  · exact refl_of Grows p

theorem pass_grows (ms : Nat) (p : Page) : Grows p (p.pass ms) := by
  have hdue : ∀ (due : List Appointment) (q : Page), Grows q (due.foldl keep q) := by
    intro due
    induction due with
    | nil => exact fun q => refl_of Grows q
    | cons a rest ih => exact fun q => trans_of Grows (keep_grows q a) (ih _)
  have hkept := hdue (p.schedule.filter fun a => decide (a.time ≤ p.clock + ms))
    { p with schedule := p.schedule.filter fun a => !decide (a.time ≤ p.clock + ms) }
  exact hkept

/-! ### Operations -/

/-- A page after one more call of an operation. -/
def counted (p : Page) (op : Operation) : Page :=
  { p with interference := p.interference.counted op }

@[simp]
theorem counted_dom (p : Page) (op : Operation) : (p.counted op).dom = p.dom := rfl

theorem result_operation {α : Type} (op : Operation) (body : Act Page α) (p : Page) :
    (operation op body).result p =
      if p.interference.strikesNext op then
        .error (.page op.name (.outside (p.interference.wordsNext op)))
      else body.result (p.counted op) := by
  cases hstruck : p.interference.strikesNext op <;>
    simp [operation, refuse, counted, hstruck]

theorem after_operation {α : Type} (op : Operation) (body : Act Page α) (p : Page) :
    (operation op body).after p =
      if p.interference.strikesNext op then p.counted op else body.after (p.counted op) := by
  cases hstruck : p.interference.strikesNext op <;>
    simp [operation, refuse, counted, hstruck]

section Reading

variable {R : Page → Page → Prop} [IsPreorder Page R] (hcounted : ∀ p op, R p (counted p op))

include hcounted

/-- Whatever counting keeps is kept by an operation as soon as its body keeps it. -/
theorem operation_leads {α : Type} (op : Operation) {body : Act Page α} (hbody : Leads R body) :
    Leads R (operation op body) := by
  intro p
  rw [after_operation]
  split
  · exact hcounted p op
  · exact trans_of R (hcounted p op) (hbody _)

theorem count_leads (target : Locator) : Leads R (count target) :=
  operation_leads hcounted _ (Leads.get.bind fun _ => Leads.pure _)

theorem isVisible_leads (target : Locator) : Leads R (isVisible target) :=
  operation_leads hcounted _ (Leads.get.bind fun _ => Leads.pure _)

theorem hasState_moves (target : Locator) (state : ElementState) :
    Moves R (hasState target state) := by
  cases state with
  | attached => exact ((count_leads hcounted target).orUse 0).bind fun _ => Moves.pure _
  | detached => exact ((count_leads hcounted target).orUse 0).bind fun _ => Moves.pure _
  | visible => exact (isVisible_leads hcounted target).orUse false
  | hidden => exact ((isVisible_leads hcounted target).orUse false).bind fun _ => Moves.pure _

end Reading

theorem counted_grows (p : Page) (op : Operation) : Grows p (p.counted op) := refl_of Grows p

theorem isVisible_grows (target : Locator) : Leads Grows (isVisible target) :=
  isVisible_leads counted_grows target

theorem screenshot_grows : Leads Grows screenshot := by
  refine operation_leads counted_grows _ (Leads.get.bind fun p => ?_)
  refine (Leads.throw _).ite (Leads.bind (fun q => ?_) fun _ => Leads.pure _)
  exact List.prefix_append _ _

theorem result_clickNode (kind : ClickKind) (op : String) (fault : PageFault) (target : Locator)
    (node : Nat) (p : Page) :
    (clickNode kind op fault target node).result p =
      if (p.clicked kind target node).1 then .ok () else .error (.page op fault) := by
  cases haccepted : (p.clicked kind target node).1 <;> simp [clickNode, refuse, haccepted]

theorem after_clickNode (kind : ClickKind) (op : String) (fault : PageFault) (target : Locator)
    (node : Nat) (p : Page) :
    (clickNode kind op fault target node).after p = (p.clicked kind target node).2 := by
  cases haccepted : (p.clicked kind target node).1 <;> simp [clickNode, refuse, haccepted]

/-- A page that accepts a click of the mouse: the locator names a visible node, which takes the
click. -/
def Accepts (p : Page) (target : Locator) (p' : Page) : Prop :=
  ∃ node, p.dom.first? target = some node ∧ p.dom.isVisible node = true ∧
    p' = (p.counted .click).accept .direct node target

/-- A click of the mouse succeeds only where the page accepts it. -/
theorem accepts_of_click {p : Page} {target : Locator}
    (h : (click target false).result p = .ok ()) :
    p.Accepts target ((click target false).after p) := by
  rw [click, result_operation] at h
  rw [click, after_operation]
  split at h
  · exact absurd h (by simp)
  · rename_i hstruck
    rw [if_neg hstruck]
    cases hnode : p.dom.first? target with
    | none => simp [demandNode, hnode, refuse] at h
    | some node =>
      cases hvisible : p.dom.isVisible node with
      | false => simp [demandNode, hnode, hvisible, record, refuse] at h
      | true =>
        refine ⟨node, hnode, hvisible, ?_⟩
        have haccepted : ((p.counted .click).clicked .direct target node).1 = true := by
          simpa [demandNode, hnode, hvisible, result_clickNode] using h
        rw [← clicked_of_accepted haccepted]
        simp [demandNode, hnode, hvisible, after_clickNode]

/-! ### Waiting -/

theorem lookUntil_succ (target : Locator) (state : ElementState) (n : Nat) (p : Page) :
    lookUntil target state (n + 1) p =
      if (hasState target state p).1 then (true, (hasState target state p).2)
      else lookUntil target state n (pass lookInterval (hasState target state p).2) := by
  cases h : hasState target state p with
  | mk seen q => cases seen <;> simp [lookUntil, bind, StateT.bind, h] <;> rfl

section Passing

variable {R : Page → Page → Prop} [IsPreorder Page R] (hcounted : ∀ p op, R p (counted p op))
  (hpass : ∀ ms p, R p (pass ms p))

include hcounted hpass

theorem lookUntil_moves (target : Locator) (state : ElementState) (n : Nat) :
    Moves R (lookUntil target state n) := by
  induction n with
  | zero => exact hasState_moves hcounted target state
  | succ n ih =>
    intro p
    have hlook := hasState_moves hcounted target state p
    rw [lookUntil_succ]
    split
    · exact hlook
    · exact trans_of R hlook (trans_of R (hpass _ _) (ih _))

/-- A wait keeps what looks and the time keep. -/
theorem waitFor_leads (target : Locator) (state : ElementState) (timeout : Nat) :
    Leads R (waitFor target state timeout) :=
  (Leads.lift (lookUntil_moves hcounted hpass target state _)).bind fun _ =>
    Leads.ite (Leads.pure _) (Leads.throw _)

end Passing

theorem waitFor_grows (target : Locator) (state : ElementState) (timeout : Nat) :
    Leads Grows (waitFor target state timeout) :=
  waitFor_leads counted_grows pass_grows target state timeout

/-- A page at one of the looks of a wait, counted from zero. -/
def atLook (target : Locator) (state : ElementState) : (look : Nat) → Page → Page
  | 0, p => p
  | look + 1, p => atLook target state look (pass lookInterval (hasState target state p).2)

/-- A wait that succeeds ends with a look that sees the state. -/
theorem eq_look_of_lookUntil (target : Locator) (state : ElementState) (sleeps : Nat) :
    ∀ p, (lookUntil target state sleeps p).1 = true →
      ∃ look ≤ sleeps, lookUntil target state sleeps p =
        hasState target state (atLook target state look p) := by
  -- the pages of later looks are those of the wait that begins after the first sleep
  induction sleeps with
  | zero => exact fun p _ => ⟨0, le_rfl, rfl⟩
  | succ sleeps ih =>
    intro p h
    rw [lookUntil_succ] at h ⊢
    split at h
    · rename_i hseen
      refine ⟨0, Nat.zero_le _, ?_⟩
      rw [if_pos hseen, ← hseen]
      rfl
    · rename_i hunseen
      obtain ⟨look, hlook, heq⟩ := ih _ h
      exact ⟨look + 1, Nat.succ_le_succ hlook, by rw [if_neg hunseen, heq]; rfl⟩

theorem result_waitFor (target : Locator) (state : ElementState) (timeout : Nat) (p : Page) :
    (waitFor target state timeout).result p =
      if (lookUntil target state ((timeout + lookInterval - 1) / lookInterval) p).1 then .ok ()
      else .error (.page "waitFor" (.stateTimeout timeout target state)) := by
  cases hseen : (lookUntil target state ((timeout + lookInterval - 1) / lookInterval) p).1 <;>
    simp [waitFor, refuse, hseen]

theorem after_waitFor (target : Locator) (state : ElementState) (timeout : Nat) (p : Page) :
    (waitFor target state timeout).after p =
      (lookUntil target state ((timeout + lookInterval - 1) / lookInterval) p).2 := by
  cases hseen : (lookUntil target state ((timeout + lookInterval - 1) / lookInterval) p).1 <;>
    simp [waitFor, refuse, hseen]

/-- Waiting for an element to be visible succeeds only where the last look reads it as visible. -/
theorem seen_of_waitFor {p : Page} {target : Locator} {timeout : Nat}
    (h : (waitFor target .visible timeout).result p = .ok ()) :
    ∃ look ≤ (timeout + lookInterval - 1) / lookInterval,
      (isVisible target).result (atLook target .visible look p) = .ok true ∧
        (waitFor target .visible timeout).after p =
          (isVisible target).after (atLook target .visible look p) := by
  rw [result_waitFor] at h
  split at h
  · rename_i hseen
    obtain ⟨look, hlook, heq⟩ := eq_look_of_lookUntil target .visible _ p hseen
    rw [heq, hasState, orUse_fst] at hseen
    refine ⟨look, hlook, ?_, ?_⟩
    -- A look that fails sees nothing, so the one that saw the element did not fail.
    · cases hread : (isVisible target).result (atLook target .visible look p) with
      | error e =>
        rw [hread] at hseen
        exact absurd hseen Bool.false_ne_true
      | ok visible =>
        rw [hread] at hseen
        exact congrArg Except.ok hseen
    · rw [after_waitFor, heq, hasState, orUse_snd]
  · exact absurd h (by simp)

end FlowPilot.Page
