import FlowPilot.Proofs.Desk.Report

/-!
# Confirming a category

A confirmation works on the page first, then goes on to the next item, and posts its event last.
So the cursor moves only after the page accepted the click, but before the coordinator took the
event.

## Main definitions

* `Desk.confirmOnPage`: the part of a confirmation that works on the page.
* `Desk.Confirmed`: what the page showed while a category was confirmed.

## Main statements

* `Desk.confirmed_of_confirmOnPage`: a confirmation gets past the page only where it accepted the
  click and showed the success.
* `Desk.confirm_fails_and_moves_iff`: exactly when a confirmation fails and goes on all the same.
-/

namespace FlowPilot.Desk

open Act

variable {setup : Setup}

/-! ### On the page -/

/-- The selector of the element that shows the success, unless it is blank when it is filled in. -/
def successSelector? (s : CategorySection) (bindings : Bindings) : Option String :=
  (s.successSelector.map bindings.fill).filter (!Text.isBlankText ·)

/-- Waits until the success shows, if the flow file says how. -/
def awaitSuccess (setup : Setup) (selector : Option String) : Act Page Unit :=
  match selector with
  | some selector =>
    Page.waitFor (Locator.ofSelector selector).first .visible setup.limits.stepTimeout
  | none => pure ()

/-- The part of a confirmation that works on the page. -/
def confirmOnPage (setup : Setup) : Act Desk Unit := do
  let item ← Act.ofExcept (← get).demandItem
  let file ← Act.ofExcept ((← get).demandFlow setup FlowFile.applySection)
  let s ← Act.ofExcept (file.category setup.host.wording)
  let bindings := bindingsFor item file
  let target ← Act.ofExcept (demandSelector "apply.confirm_selector" bindings s.confirmSelector)
  onPage (Page.click target false)
  onPage (awaitSuccess setup (successSelector? s bindings))

/-- A confirmation goes on to the next item as soon as the page is done. -/
theorem confirmCategory_eq (setup : Setup) :
    confirmCategory setup = (do
      confirmOnPage setup
      modify advance
      return (← get).position) := by
  unfold confirmCategory confirmOnPage
  simp only [bind_assoc]
  -- the two blocks are the same up to the wait, which is there or not
  refine bind_congr fun _ => bind_congr fun item => bind_congr fun _ => bind_congr fun file => ?_
  refine bind_congr fun s => bind_congr fun target => bind_congr fun _ => ?_
  change (match successSelector? s (bindingsFor item file) with | some _ => _ | none => _) = _
  cases successSelector? s (bindingsFor item file) <;> rfl

/-- What the page showed while the category of the current item was confirmed, up to a later page:
it accepted a click on the element that confirms, and if the flow file names an element that shows
the success, a look then read that as visible. -/
def Confirmed (setup : Setup) (d : Desk) (later : Page) : Prop :=
  ∃ item file s target clicked,
    d.demandItem = .ok item ∧ d.demandFlow setup FlowFile.applySection = .ok file ∧
      file.category setup.host.wording = .ok s ∧
      demandSelector "apply.confirm_selector" (bindingsFor item file) s.confirmSelector =
        .ok target ∧
      d.portal.Accepts target clicked ∧ clicked.Grows later ∧
      ∀ selector, successSelector? s (bindingsFor item file) = some selector →
        ∃ look seen, seen = clicked.atLook (Locator.ofSelector selector).first .visible look ∧
          (Page.isVisible (Locator.ofSelector selector).first).result seen = .ok true ∧
            seen.Grows later

theorem Confirmed.mono {d : Desk} {p q : Page} (h : Confirmed setup d p) (hpq : p.Grows q) :
    Confirmed setup d q := by
  obtain ⟨item, file, s, target, clicked, hitem, hfile, hs, htarget, haccepts, hgrows,
    hsuccess⟩ := h
  refine ⟨item, file, s, target, clicked, hitem, hfile, hs, htarget, haccepts,
    trans_of Page.Grows hgrows hpq, ?_⟩
  intro selector hselector
  obtain ⟨look, seen, hseen, hread, hlater⟩ := hsuccess selector hselector
  exact ⟨look, seen, hseen, hread, trans_of Page.Grows hlater hpq⟩

theorem awaitSuccess_grows (selector : Option String) :
    Leads Page.Grows (awaitSuccess setup selector) := by
  cases selector with
  | none => exact Leads.pure ()
  | some selector => exact Page.waitFor_grows _ _ _

/-- A confirmation gets past the page only where it accepted the click and showed the success. -/
theorem confirmed_of_confirmOnPage {d : Desk} (h : (confirmOnPage setup).result d = .ok ()) :
    Confirmed setup d ((confirmOnPage setup).after d).portal := by
  simp only [confirmOnPage, result_bind_eq_ok_iff, result_get, after_get, result_ofExcept,
    after_ofExcept, result_onPage, portal_after_onPage, Except.ok.injEq, exists_eq_left'] at h
  obtain ⟨item, hitem, file, hfile, s, hs, target, htarget, _, hclick, hwait⟩ := h
  have hafter : ((confirmOnPage setup).after d).portal =
      (awaitSuccess setup (successSelector? s (bindingsFor item file))).after
        ((Page.click target false).after d.portal) := by
    simp [confirmOnPage, hitem, hfile, hs, htarget, hclick]
  rw [hafter]
  refine ⟨item, file, s, target, _, hitem, hfile, hs, htarget, Page.accepts_of_click hclick,
    awaitSuccess_grows _ _, ?_⟩
  intro selector hselector
  rw [hselector] at hwait ⊢
  obtain ⟨look, _, hread, hseen⟩ := Page.seen_of_waitFor hwait
  refine ⟨look, _, rfl, hread, ?_⟩
  change Page.Grows _ ((Page.waitFor _ _ _).after _)
  -- After the look that saw the success there is nothing but that look.
  rw [hseen]
  exact Page.isVisible_grows _ _

/-! ### Going on -/

/-- The part on the page keeps what the page keeps. -/
theorem confirmOnPage_leads {R : Desk → Desk → Prop} [IsPreorder Desk R]
    (hpage : ∀ {α : Type} (x : Act Page α), Leads R (onPage x)) :
    Leads R (confirmOnPage setup) :=
  Leads.get.bind fun _ => (Leads.ofExcept _).bind fun _ => Leads.get.bind fun _ =>
    (Leads.ofExcept _).bind fun _ => (Leads.ofExcept _).bind fun _ =>
      (Leads.ofExcept _).bind fun _ => (hpage _).bind fun _ => hpage _

theorem confirmOnPage_sameProgress : Leads SameProgress (confirmOnPage setup) :=
  confirmOnPage_leads onPage_sameProgress

theorem advance_plan (d : Desk) : d.advance.plan = d.plan := by
  unfold advance
  split <;> rfl

theorem advance_cursor (d : Desk) :
    d.advance.cursor = if d.cursor + 1 < d.itemCount then d.cursor + 1 else d.cursor := by
  unfold advance
  split <;> rfl

theorem advance_portal (d : Desk) : d.advance.portal = d.portal := by
  unfold advance
  split <;> rfl

/-- A confirmation succeeds exactly when the page is done with it. -/
theorem result_confirmCategory (d : Desk) :
    (confirmCategory setup).result d =
      ((confirmOnPage setup).result d).map fun _ =>
        ((confirmOnPage setup).after d).advance.position := by
  rw [confirmCategory_eq]
  cases hpage : (confirmOnPage setup).result d <;> simp [hpage, Except.map]

theorem after_confirmCategory (d : Desk) :
    (confirmCategory setup).after d =
      match (confirmOnPage setup).result d with
      | .ok _ => ((confirmOnPage setup).after d).advance
      | .error _ => (confirmOnPage setup).after d := by
  rw [confirmCategory_eq]
  cases hpage : (confirmOnPage setup).result d <;> simp [hpage]

/-- The cursor after a confirmation, reports apart. -/
theorem cursor_after_confirmCategory (d : Desk) :
    ((confirmCategory setup).after d).cursor =
      if d.cursor + 1 < d.itemCount ∧ ((confirmOnPage setup).result d).isOk then d.cursor + 1
      else d.cursor := by
  have hsame : SameProgress d ((confirmOnPage setup).after d) := confirmOnPage_sameProgress d
  rw [after_confirmCategory]
  cases (confirmOnPage setup).result d with
  | error e => simp [Except.isOk, Except.toBool, hsame.cursor]
  | ok _ => simp [Except.isOk, Except.toBool, advance_cursor, hsame.cursor, hsame.itemCount]

theorem plan_after_confirmCategory (d : Desk) :
    ((confirmCategory setup).after d).plan = d.plan := by
  have hsame : SameProgress d ((confirmOnPage setup).after d) := confirmOnPage_sameProgress d
  rw [after_confirmCategory]
  cases (confirmOnPage setup).result d with
  | error e => exact hsame.plan
  | ok _ => exact (advance_plan _).trans hsame.plan

/-! ### The event comes last -/

/-- The event of a confirmation that succeeded, announced at the desk before it. -/
def postConfirmed (setup : Setup) (d : Desk) : Act Desk Unit :=
  post setup (d.announcement .confirm) .ok (d.announcement .confirm).message

theorem body_confirm (setup : Setup) :
    body setup .confirm = Reply.position <$> confirmCategory setup := by
  rw [map_eq_pure_bind]
  rfl

/-- Whatever the report adds, the page has shown the confirmation by the end. -/
theorem confirmed_of_perform {d : Desk} (hdone : ((confirmOnPage setup).result d).isOk) :
    Confirmed setup d ((perform setup .confirm).after d).portal := by
  cases hpage : (confirmOnPage setup).result d with
  | error e =>
    rw [hpage] at hdone
    exact absurd hdone Bool.false_ne_true
  | ok _ =>
    have hconfirmed := confirmed_of_confirmOnPage hpage
    have hgrows := perform_recordGrows setup .confirm d
    rw [body_confirm, after_map, after_confirmCategory, hpage] at hgrows
    rw [← advance_portal] at hconfirmed
    exact hconfirmed.mono hgrows

/-- A confirmation fails on the page or when its event is refused. -/
theorem confirm_fails_iff (setup : Setup) (d : Desk) :
    (∃ e, (perform setup .confirm).result d = .error e) ↔
      (∃ e, (confirmCategory setup).result d = .error e) ∨
        (∃ p, (confirmCategory setup).result d = .ok p) ∧
          ∃ e, (postConfirmed setup d).result ((confirmCategory setup).after d) = .error e := by
  have hperform : (perform setup .confirm).result d =
      (report setup (d.announcement .confirm) (body setup .confirm)).result d :=
    congrArg Prod.fst (perform_eq_report (by decide) (by decide) d)
  rw [hperform, body_confirm, report_fails_iff rfl, result_map, after_map]
  cases (confirmCategory setup).result d <;> simp [Except.map, postConfirmed]

/-- Exactly when a confirmation fails and goes on to the next item all the same: there is a next
item, the page was done, and the event was refused. -/
theorem confirm_fails_and_moves_iff (setup : Setup) (d : Desk) :
    ((∃ e, (perform setup .confirm).result d = .error e) ∧
        ¬(((perform setup .confirm).after d).cursor = d.cursor ∧
          ((perform setup .confirm).after d).currentItem? = d.currentItem?)) ↔
      d.cursor + 1 < d.itemCount ∧ (∃ p, (confirmCategory setup).result d = .ok p) ∧
        ∃ e, (postConfirmed setup d).result ((confirmCategory setup).after d) = .error e := by
  -- what the report adds moves nothing, so only the confirmation itself matters
  have hsame := perform_sameProgress setup .confirm d
  rw [body_confirm, after_map] at hsame
  have hplan := hsame.plan.trans (plan_after_confirmCategory d)
  have hcursor := hsame.cursor.trans (cursor_after_confirmCategory d)
  have hitem : ((perform setup .confirm).after d).cursor = d.cursor →
      ((perform setup .confirm).after d).currentItem? = d.currentItem? :=
    fun hstays => SameProgress.currentItem? ⟨hplan, hstays⟩
  have hdone : ((confirmOnPage setup).result d).isOk ↔
      ∃ p, (confirmCategory setup).result d = .ok p := by
    rw [result_confirmCategory]
    cases (confirmOnPage setup).result d <;> simp [Except.map, Except.isOk, Except.toBool]
  rw [confirm_fails_iff]
  constructor
  · rintro ⟨hfails, hmoves⟩
    have hmoved : ((perform setup .confirm).after d).cursor ≠ d.cursor :=
      fun hstays => hmoves ⟨hstays, hitem hstays⟩
    -- a cursor that moved shows that the page was done, so the failure is that of the event
    rw [hcursor] at hmoved
    split at hmoved
    · rename_i hnext
      have hok := hdone.mp hnext.2
      refine ⟨hnext.1, hok, ?_⟩
      obtain ⟨p, hp⟩ := hok
      rcases hfails with ⟨e, he⟩ | ⟨_, hrefused⟩
      · exact absurd (hp.symm.trans he) (by simp)
      · exact hrefused
    · exact absurd rfl hmoved
  · rintro ⟨hnext, hok, hrefused⟩
    refine ⟨.inr ⟨hok, hrefused⟩, fun hstays => ?_⟩
    have hcursor' := hstays.1
    rw [hcursor, if_pos ⟨hnext, hdone.mpr hok⟩] at hcursor'
    omega

/-- A desk for two invoices, with a flow file that only says how a category is confirmed and a page
that only has the button for it, which also shows the success. -/
def smallDesk : Desk where
  session :=
    { launcher :=
        { page :=
            { Page.opened "" with dom := Dom.empty.add 0 { tag := "button", id := some "ok" } } } }
  flowContent := .ok ("\x7b\"apply\":\x7b\"category_selector\":\"#c\"," ++
    "\"confirm_selector\":\"#ok\",\"confirm_success_selector\":\"#ok\"," ++
    "\"category_map\":\x7b\"Salud\":\"SAL\"\x7d\x7d\x7d").toUTF8

/-- The setup of a small desk, whose coordinator takes a number of events and no more. -/
def smallSetup (events : Nat) : Setup where
  importId := "42"
  flowPath := "flow.json"
  evidenceDir := "shots"
  limits := .strict
  host := .brief
  coordinator :=
    { plan := fun _ _ =>
        let item (id : String) : PlanItem := ⟨[("factura_id", .text id)]⟩
        .ok ⟨none, none, none, none, some [item "F1", item "F2"], none⟩
      reply := fun earlier _ =>
        if earlier.length < events then .ok .null else .error Coordinator.unavailable }
  stamp := toString
  fileStamp := toString

/-- The first three events are taken and the fourth one is refused, which is that of the
confirmation: it fails, and the first of two invoices is skipped. -/
theorem confirm_refused_moves :
    let setup := smallSetup 3
    let d := [Command.openBrowser, .markLogin, .loadPlan].foldl
      (fun d c => (perform setup c).after d) smallDesk
    let d' := (perform setup .confirm).after d
    ((perform setup .confirm).result d).isOk = false ∧
      d.cursor = 0 ∧ d.itemText ["factura_id"] "" = "F1" ∧
      d'.cursor = 1 ∧ d'.itemText ["factura_id"] "" = "F2" := by
  decide +kernel

end FlowPilot.Desk
