import FlowPilot.Desk.Command
import FlowPilot.Proofs.Act
import FlowPilot.Proofs.Page.Record

/-!
# What reports leave alone

An action with its events is the action, one event if it succeeds, and the account of its failure
if it or that event fails. Neither events nor pictures move the plan on, and none of them takes
anything from the record of the page.

## Main definitions

* `Desk.announced`: an action with the event of its success.
* `Desk.SameProgress`: desks with the same plan that is worked off as far.
* `Desk.RecordGrows`: the record of the page of a desk only grows.

## Main statements

* `Desk.report_eq`: a report is an announced action whose failure is accounted for.
* `Desk.body_leads_perform`: reports keep what pictures and events keep.
-/

namespace FlowPilot.Desk

open Act

variable {α : Type} {setup : Setup} {a : Announcement}

/-! ### The parts of a report -/

/-- An action with the event of its success. -/
def announced (setup : Setup) (a : Announcement) (action : Act Desk α) : Act Desk α := do
  let result ← action
  unless a.silent do post setup a .ok a.message
  return result

/-- A report is an announced action whose failure is accounted for. -/
theorem report_eq (setup : Setup) (a : Announcement) (action : Act Desk α) :
    report setup a action = (tryCatch (announced setup a action) fun cause => do
      throw (← liftM (failure setup a cause))) := by
  apply Act.ext
  all_goals
    intro d
    unfold report announced
    cases hresult : action.result d with
    | error e => simp [hresult]
    | ok x =>
      cases hsilent : a.silent with
      | true => simp [hresult]
      | false =>
        cases hpost : (post setup a .ok a.message).result (action.after d) with
        | ok u => simp [hresult, hpost, Except.map]
        | error e => simp [hresult, hpost, Except.map]

/-- An action with an event fails when the action fails or its event is refused. -/
theorem report_fails_iff (hsilent : a.silent = false) (action : Act Desk α) (d : Desk) :
    (∃ e, (report setup a action).result d = .error e) ↔
      (∃ e, action.result d = .error e) ∨
        (∃ x, action.result d = .ok x) ∧
          ∃ e, (post setup a .ok a.message).result (action.after d) = .error e := by
  rw [report_eq, result_tryCatch, announced]
  cases hresult : action.result d with
  | error e => simp [hresult]
  | ok x =>
    cases hpost : (post setup a .ok a.message).result (action.after d) with
    | error e => simp [hresult, hsilent, hpost, Except.map]
    | ok u => simp [hresult, hsilent, hpost, Except.map]

/-- Loading the plan and the end of the session apart, a command is reported. -/
theorem perform_eq_report {c : Command} (hload : c ≠ .loadPlan) (hteardown : c ≠ .teardown)
    (d : Desk) : perform setup c d = report setup (d.announcement c) (body setup c) d := by
  cases c with
  | loadPlan => exact absurd rfl hload
  | teardown => exact absurd rfl hteardown
  | _ => exact get_bind _

section Leads

variable {R : Desk → Desk → Prop} [IsPreorder Desk R]

/-- Storing a picture keeps what taking it keeps. -/
theorem capture_leads (hpicture : Leads R (onPage Page.screenshot)) (label : String) :
    Leads R (capture setup label) := by
  refine Leads.get.bind fun d => Leads.ite ((Leads.throw _).bind fun _ => ?_) ?_
  all_goals
    exact hpicture.bind fun _ => Leads.get.bind fun _ => Leads.pure _

variable (hcapture : ∀ label, Leads R (capture setup label))
  (hpost : ∀ a status message, Leads R (post setup a status message))

include hcapture hpost

/-- Accounting for a failure keeps what pictures and events keep. -/
theorem failure_moves (a : Announcement) (cause : Fault) : Moves R (failure setup a cause) := by
  have hrest : ∀ evidence, Moves R (do
      let fault : Fault := .stepFailed a.step cause evidence
      (post setup a .error fault.message).orUse ()
      return fault) :=
    fun evidence => ((hpost _ _ _).orUse ()).bind fun _ => Moves.pure _
  -- with a page there is a picture to try first, without one there is none
  refine Moves.bind Moves.get fun d => Moves.ite ?_ ((Moves.pure none).bind hrest)
  exact (((hcapture _).map _).orUse none).bind hrest

omit hcapture in
theorem action_leads_announced (action : Act Desk α) (d : Desk) :
    R (action.after d) ((announced setup a action).after d) := by
  rw [announced, after_bind]
  cases action.result d with
  | error e => exact refl_of R _
  | ok x =>
    have hevent := (hpost a .ok a.message).bind fun _ => Leads.pure x
    exact (Leads.pure x).ite hevent (action.after d)

theorem announced_leads_report (action : Act Desk α) (d : Desk) :
    R ((announced setup a action).after d) ((report setup a action).after d) := by
  rw [report_eq, after_tryCatch]
  cases (announced setup a action).result d with
  | ok x => exact refl_of R _
  | error e =>
    have haccount : Leads R (do throw (← liftM (failure setup a e)) : Act Desk α) :=
      (Leads.lift (failure_moves hcapture hpost a e)).bind fun fault => Leads.throw fault
    exact haccount _

/-- What a command does apart from its report is followed by a change that pictures and events keep
to. -/
theorem body_leads_perform (c : Command) (d : Desk) :
    R ((body setup c).after d) ((perform setup c).after d) := by
  by_cases hload : c = .loadPlan
  · rw [hload]
    exact refl_of R _
  by_cases hteardown : c = .teardown
  · rw [hteardown]
    exact refl_of R _
  · have hafter : (perform setup c).after d =
        (report setup (d.announcement c) (body setup c)).after d :=
      congrArg Prod.snd (perform_eq_report hload hteardown d)
    rw [hafter]
    exact trans_of R (action_leads_announced hpost _ d) (announced_leads_report hcapture hpost _ d)

end Leads

/-! ### Progress -/

/-- Desks with the same plan that is worked off as far. -/
structure SameProgress (d d' : Desk) : Prop where
  plan : d'.plan = d.plan
  cursor : d'.cursor = d.cursor

instance : IsPreorder Desk SameProgress where
  refl _ := ⟨rfl, rfl⟩
  trans _ _ _ h h' := ⟨h'.plan.trans h.plan, h'.cursor.trans h.cursor⟩

theorem SameProgress.currentItem? {d d' : Desk} (h : SameProgress d d') :
    d'.currentItem? = d.currentItem? := by
  rw [Desk.currentItem?, Desk.currentItem?, h.plan, h.cursor]

theorem SameProgress.itemCount {d d' : Desk} (h : SameProgress d d') :
    d'.itemCount = d.itemCount := by
  rw [Desk.itemCount, Desk.itemCount, h.plan]

/-- What happens in the session leaves the plan alone. -/
theorem onSession_sameProgress (x : Act Session α) : Leads SameProgress (onSession x) :=
  fun _ => ⟨rfl, rfl⟩

theorem onPage_sameProgress (x : Act Page α) : Leads SameProgress (onPage x) :=
  onSession_sameProgress _

theorem capture_sameProgress (label : String) : Leads SameProgress (capture setup label) :=
  capture_leads (onPage_sameProgress _) label

/-- An event is kept beside the others, and nothing else changes. -/
theorem after_post (a : Announcement) (status : ProgressEvent.Status) (message : String)
    (d : Desk) :
    (post setup a status message).after d =
      { d with posted := d.posted ++
        [⟨setup.importId, a.step, status, message, d.now, a.extra⟩] } := by
  simp [post]

theorem post_sameProgress (a : Announcement) (status : ProgressEvent.Status) (message : String) :
    Leads SameProgress (post setup a status message) := by
  intro d
  rw [after_post]
  exact ⟨rfl, rfl⟩

theorem perform_sameProgress (setup : Setup) (c : Command) (d : Desk) :
    SameProgress ((body setup c).after d) ((perform setup c).after d) :=
  body_leads_perform capture_sameProgress post_sameProgress c d

/-! ### The record of the page -/

/-- The page of the portal. -/
def portal (d : Desk) : Page := d.session.launcher.page

/-- The record of the page of a desk only grows. -/
def RecordGrows (d d' : Desk) : Prop := Page.Grows d.portal d'.portal

instance : IsPreorder Desk RecordGrows where
  refl d := refl_of Page.Grows d.portal
  trans _ _ _ := trans_of Page.Grows

@[simp]
theorem result_onPage (x : Act Page α) (d : Desk) : (onPage x).result d = x.result d.portal := rfl

@[simp]
theorem portal_after_onPage (x : Act Page α) (d : Desk) :
    ((onPage x).after d).portal = x.after d.portal := rfl

theorem onPage_recordGrows {x : Act Page α} (hx : Leads Page.Grows x) :
    Leads RecordGrows (onPage x) :=
  fun d => hx d.portal

theorem capture_recordGrows (label : String) : Leads RecordGrows (capture setup label) :=
  capture_leads (onPage_recordGrows Page.screenshot_grows) label

theorem post_recordGrows (a : Announcement) (status : ProgressEvent.Status) (message : String) :
    Leads RecordGrows (post setup a status message) := by
  intro d
  rw [after_post]
  exact refl_of RecordGrows d

theorem perform_recordGrows (setup : Setup) (c : Command) (d : Desk) :
    RecordGrows ((body setup c).after d) ((perform setup c).after d) :=
  body_leads_perform capture_recordGrows post_recordGrows c d

end FlowPilot.Desk
