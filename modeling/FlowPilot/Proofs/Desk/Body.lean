import FlowPilot.Proofs.Desk.Confirmation
import FlowPilot.Proofs.Session.Login

/-!
# What commands keep

Reports apart, a command works on the page, calls the session, reads the rest of the desk, and goes
on to the next item at most. So whatever is kept by all acts on the page and by all calls of the
session is kept by every command that neither loads a plan nor goes on.

## Main statements

* `Desk.body_leads_of_calls`: what the page, the calls of the session and going on keep is kept by
  what a command does.
* `Desk.body_leads`: the same for what all acts on the session keep.
-/

namespace FlowPilot.Desk

open Act

variable {setup : Setup} {R : Desk → Desk → Prop} [IsPreorder Desk R]

section

variable (hpage : ∀ {α : Type} (x : Act Page α), Leads R (onPage x))

include hpage

/-- All that a look at the session can do is to ask the page for its address. -/
theorem snapshot_leads : Leads R (liftM snapshot : Act Desk Session.Snapshot) := by
  intro d
  have hafter : (liftM snapshot : Act Desk Session.Snapshot).after d =
      { d with session := (Session.currentUrl d.session).2 } := rfl
  rw [hafter]
  by_cases hopen : d.session.page.isSome
  · have hasked : (Session.currentUrl d.session).2 =
        (Session.onPage Page.currentUrl).after d.session := by
      show ((ite _ _ _ : StateM Session (Option String)) d.session).2 = _
      rw [if_pos hopen, orUse_snd, after_map]
    rw [hasked]
    exact hpage Page.currentUrl d
  · have hsame : (Session.currentUrl d.session).2 = d.session := by
      show ((ite _ _ _ : StateM Session (Option String)) d.session).2 = _
      rw [if_neg hopen]
      rfl
    rw [hsame]
    exact refl_of R d

theorem navigate_leads (url : String) : Leads R (navigate url) :=
  (Leads.ofExcept _).bind fun _ => Leads.get.bind fun _ => (Leads.ofExcept _).bind fun _ =>
    (hpage _).bind fun _ => snapshot_leads hpage

omit [IsPreorder Desk R] in
theorem runSteps_leads (file : FlowFile) (name : String) (steps : List Json) (bindings : Bindings) :
    Leads R (runSteps setup file name steps bindings) := hpage _

theorem runFlow_leads (flow : String) : Leads R (runFlow setup flow) :=
  Leads.get.bind fun _ => (Leads.ofExcept _).bind fun _ => Leads.get.bind fun _ =>
    (Leads.ofExcept _).bind fun _ => (runSteps_leads hpage _ _ _ _).bind fun _ =>
      (snapshot_leads hpage).bind fun _ => Leads.pure _

theorem chooseCategory_leads : Leads R (chooseCategory setup) := by
  refine Leads.get.bind fun _ => (Leads.ofExcept _).bind fun item => Leads.get.bind fun _ =>
    (Leads.ofExcept _).bind fun file => (Leads.ofExcept _).bind fun s => ?_
  -- the choice itself follows whether there are steps before it or not
  refine Leads.ite ?_ ((runSteps_leads hpage _ _ _ _).discard.bind fun _ => ?_)
  all_goals
    exact (Leads.ofExcept _).bind fun _ => (Leads.ofExcept _).bind fun _ =>
      (Leads.ofExcept _).bind fun _ => hpage _

theorem confirmCategory_leads (hadvance : ∀ d : Desk, R d d.advance) :
    Leads R (confirmCategory setup) := by
  have hgoOn : Leads R (modify advance : Act Desk PUnit) := hadvance
  rw [confirmCategory_eq]
  exact (confirmOnPage_leads hpage).bind fun _ => hgoOn.bind fun _ =>
    Leads.get.bind fun _ => Leads.pure _

theorem takePicture_leads (label : String) : Leads R (takePicture setup label) :=
  Leads.get.bind fun _ => Leads.ite (capture_leads (hpage _) _) (Leads.throw _)

/-- What the page and the calls of the session keep is kept by what a command does, unless it loads
a plan. A confirmation goes on to the next item besides. -/
theorem body_leads_of_calls
    (hcall : ∀ call : Session.Call, Leads R (onSession (Session.perform call)))
    {c : Command} (hload : c ≠ .loadPlan) (hadvance : c = .confirm → ∀ d : Desk, R d d.advance) :
    Leads R (body setup c) := by
  have hsnapshot := snapshot_leads hpage
  cases c with
  | openBrowser => exact (hcall .ensure).bind fun _ => hsnapshot.bind fun _ => Leads.pure _
  | goto url => exact (navigate_leads hpage url).bind fun _ => Leads.pure _
  | markLogin =>
    have hmark : Leads R
        (modify fun d => { d with session := d.session.markLoggedIn } : Act Desk PUnit) :=
      hcall .markLoggedIn
    exact hmark.bind fun _ => hsnapshot.bind fun _ => Leads.pure _
  | status => exact hsnapshot.bind fun _ => Leads.pure _
  | loadPlan => exact absurd rfl hload
  | openProvider => exact (runFlow_leads hpage _).bind fun _ => Leads.pure _
  | openInvoice => exact (runFlow_leads hpage _).bind fun _ => Leads.pure _
  | run flow => exact (runFlow_leads hpage flow).bind fun _ => Leads.pure _
  | prepare => exact (chooseCategory_leads hpage).bind fun _ => Leads.pure _
  | confirm => exact (confirmCategory_leads hpage (hadvance rfl)).bind fun _ => Leads.pure _
  | capture label => exact (takePicture_leads hpage _).bind fun _ => Leads.pure _
  | teardown => exact (hcall .teardown).bind fun _ => Leads.pure _

end

/-- What all acts on the session keep is kept by what a command does, unless it loads a plan. A
confirmation goes on to the next item besides. -/
theorem body_leads (hsession : ∀ {α : Type} (x : Act Session α), Leads R (onSession x))
    {c : Command} (hload : c ≠ .loadPlan) (hadvance : c = .confirm → ∀ d : Desk, R d d.advance) :
    Leads R (body setup c) :=
  body_leads_of_calls (fun _ => hsession _) (fun _ => hsession _) hload hadvance

end FlowPilot.Desk
