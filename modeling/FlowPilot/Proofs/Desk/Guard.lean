import FlowPilot.Proofs.Desk.Events

/-!
# Commands that are refused

A command that works on an item demands a page, a login, a plan with items and a complete flow
before it does anything. If one of these is missing, the command fails and the desk is as it was;
only the report of the failure touches the page, with one picture at most.

## Main definitions

* `Desk.Unprepared`: a desk at which a flow must not be started.
* `Desk.guarded`: work that begins with the demands.
* `Page.Pictured`: a page that is as it was, but for one picture at most.

## Main statements

* `Desk.unprepared_iff`: the demands fail exactly at desks that are unprepared.
* `Desk.perform_of_unprepared`: a command at such a desk fails and leaves the page as it was.
-/

namespace FlowPilot

open Act

/-- The index of an item is cut to the last one, so a plan with items has one at each index. -/
theorem Plan.itemAt?_eq_none_iff (plan : Plan) (index : Nat) :
    plan.itemAt? index = none ↔ plan.items = [] := by
  rw [Plan.itemAt?, List.getElem?_eq_none_iff, ← List.length_eq_zero_iff]
  omega

/-- A flow file is a JSON object in a text. -/
theorem FlowFile.parse_eq_ok_iff {w : Wording} {content : Except FlowFileFault ByteArray}
    {file : FlowFile} :
    parse w content = .ok file ↔
      ∃ bytes text, content = .ok bytes ∧ String.fromUTF8? bytes = some text ∧
        Json.parse? text = some file.toJson := by
  rw [parse]
  cases content with
  | error reason => simp [bind, Except.bind]
  | ok bytes =>
    cases htext : String.fromUTF8? bytes with
    | none => simp [bind, Except.bind, htext]
    | some text =>
      obtain ⟨members⟩ := file
      simp only [bind, Except.bind, htext, toJson, Except.ok.injEq, Option.some.injEq,
        exists_and_left, exists_eq_left']
      cases hparse : Json.parse? text with
      | none => simp
      | some j => cases j <;> simp

/-! ### Pictures -/

namespace Page

variable {p q r : Page}

/-- A page that is as it was, but for one picture at most. -/
structure Pictured (p q : Page) : Prop where
  dom : q.dom = p.dom
  url : q.url = p.url
  clock : q.clock = p.clock
  schedule : q.schedule = p.schedule
  events : q.events = p.events ∨ q.events = p.events ++ [.screenshot]

theorem Pictured.same (p : Page) : Pictured p p := ⟨rfl, rfl, rfl, rfl, .inl rfl⟩

/-- A picture leaves its entry in the record, unless it cannot be taken. -/
theorem screenshot_pictured (p : Page) : Pictured p (screenshot.after p) := by
  have hcounted : Pictured p (p.counted .screenshot) := ⟨rfl, rfl, rfl, rfl, .inl rfl⟩
  rw [screenshot, after_operation]
  split
  · exact hcounted
  · cases hblind : (p.counted .screenshot).blind with
    | true => simpa [hblind, refuse] using hcounted
    | false =>
      have htaken : Pictured p ((p.counted .screenshot).log .screenshot) :=
        ⟨rfl, rfl, rfl, rfl, .inr rfl⟩
      simpa [hblind, record] using htaken

end Page

namespace Desk

variable {α : Type} {setup : Setup} {d : Desk} {flow : String}

/-! ### What is demanded -/

/-- A desk at which a flow must not be started: there is no page, the operator has not logged in,
there is no plan or nothing in it, or the flow file cannot be read or is incomplete. -/
inductive Unprepared (setup : Setup) (d : Desk) (flow : String) : Prop
  | noPage (h : d.session.page = none)
  | noLogin (h : d.session.loggedIn = false)
  | noPlan (h : d.plan = none)
  | noItems {plan : Plan} (h : d.plan = some plan) (hitems : plan.items = [])
  | noFile {reason : FlowFileFault} (h : d.flowContent = .error reason)
  | notUtf8 {bytes : ByteArray} (h : d.flowContent = .ok bytes)
      (htext : String.fromUTF8? bytes = none)
  | notJson {bytes : ByteArray} {text : String} (h : d.flowContent = .ok bytes)
      (htext : String.fromUTF8? bytes = some text) (hparse : Json.parse? text = none)
  | notAnObject {bytes : ByteArray} {text : String} {j : Json} (h : d.flowContent = .ok bytes)
      (htext : String.fromUTF8? bytes = some text) (hparse : Json.parse? text = some j)
      (hform : j.object? = none)
  | incomplete {bytes : ByteArray} {text : String} {members : Json.Members} {refusal : Fault}
      (h : d.flowContent = .ok bytes) (htext : String.fromUTF8? bytes = some text)
      (hparse : Json.parse? text = some (.object members))
      (hdemand : FlowFile.demandFlow ⟨members⟩ setup.limits flow = .error refusal)

theorem demandItem_error_iff (d : Desk) :
    (∃ e, d.demandItem = .error e) ↔
      d.session.page = none ∨ d.session.loggedIn = false ∨ d.plan = none ∨
        ∃ plan, d.plan = some plan ∧ plan.items = [] := by
  unfold demandItem Session.demandLogin Session.demandPage
  cases hpage : d.session.page with
  | none => simp [bind, Except.bind]
  | some page =>
    cases hlogin : d.session.loggedIn with
    | false => simp [bind, Except.bind]
    | true =>
      cases hplan : d.plan with
      | none => simp [bind, Except.bind]
      | some plan =>
        cases hitem : plan.itemAt? d.cursor with
        | none => simp [bind, Except.bind, hitem, (plan.itemAt?_eq_none_iff _).mp hitem]
        | some item =>
          have hitems : plan.items ≠ [] := fun h => by
            simp [(plan.itemAt?_eq_none_iff d.cursor).mpr h] at hitem
          simp [bind, Except.bind, hitem, hitems]

/-- The flow of a file that is read anew is complete. -/
theorem demandFlow_eq_ok_iff {file : FlowFile} :
    d.demandFlow setup flow = .ok file ↔
      ∃ bytes text, d.flowContent = .ok bytes ∧ String.fromUTF8? bytes = some text ∧
        Json.parse? text = some file.toJson ∧ file.demandFlow setup.limits flow = .ok () := by
  have hdemand : d.demandFlow setup flow = .ok file ↔
      FlowFile.parse setup.host.wording d.flowContent = .ok file ∧
        file.demandFlow setup.limits flow = .ok () := by
    rw [demandFlow, readFlowFile, FlowFile.read]
    cases FlowFile.parse setup.host.wording d.flowContent with
    | error reason => simp [bind, Except.bind]
    | ok read =>
      cases hflow : read.demandFlow setup.limits flow with
      | error refusal =>
        simp only [bind, Except.bind, mapError_ok, hflow, Except.ok.injEq]
        refine ⟨nofun, ?_⟩
        rintro ⟨rfl, hok⟩
        cases hflow.symm.trans hok
      | ok u =>
        simp only [bind, Except.bind, mapError_ok, hflow, pure, Except.pure, Except.ok.injEq]
        refine ⟨?_, And.left⟩
        rintro rfl
        exact ⟨rfl, hflow⟩
  rw [hdemand, FlowFile.parse_eq_ok_iff]
  constructor
  · rintro ⟨⟨bytes, text, hcontent, htext, hparse⟩, hflow⟩
    exact ⟨bytes, text, hcontent, htext, hparse, hflow⟩
  · rintro ⟨bytes, text, hcontent, htext, hparse, hflow⟩
    exact ⟨⟨bytes, text, hcontent, htext, hparse⟩, hflow⟩

/-- One of the demands fails at a desk that is unprepared. -/
theorem exists_error_of_unprepared (h : Unprepared setup d flow) :
    (∃ e, d.demandItem = .error e) ∨ ∃ e, d.demandFlow setup flow = .error e := by
  cases hdemand : d.demandFlow setup flow with
  | error e => exact .inr ⟨e, rfl⟩
  | ok file =>
    -- the flow file is fine, so it is not that
    obtain ⟨bytes, text, hcontent, htext, hparse, hflow⟩ := demandFlow_eq_ok_iff.mp hdemand
    refine .inl ((demandItem_error_iff d).mpr ?_)
    cases h with
    | noPage h => exact .inl h
    | noLogin h => exact .inr (.inl h)
    | noPlan h => exact .inr (.inr (.inl h))
    | noItems h hitems => exact .inr (.inr (.inr ⟨_, h, hitems⟩))
    | noFile h => cases hcontent.symm.trans h
    | notUtf8 h hnone =>
      cases hcontent.symm.trans h
      cases htext.symm.trans hnone
    | notJson h hsome hnone =>
      cases hcontent.symm.trans h
      cases htext.symm.trans hsome
      cases hparse.symm.trans hnone
    | notAnObject h hsome hj hform =>
      cases hcontent.symm.trans h
      cases htext.symm.trans hsome
      cases hparse.symm.trans hj
      cases hform
    | incomplete h hsome hmembers hrefused =>
      cases hcontent.symm.trans h
      cases htext.symm.trans hsome
      cases hparse.symm.trans hmembers
      cases hflow.symm.trans hrefused

theorem unprepared_of_demandItem {e : Fault} (h : d.demandItem = .error e) :
    Unprepared setup d flow := by
  obtain h | h | h | ⟨plan, h, hitems⟩ := (demandItem_error_iff d).mp ⟨e, h⟩
  · exact .noPage h
  · exact .noLogin h
  · exact .noPlan h
  · exact .noItems h hitems

theorem unprepared_of_demandFlow {e : Fault} (h : d.demandFlow setup flow = .error e) :
    Unprepared setup d flow := by
  -- In the order in which the file is read and checked.
  cases hcontent : d.flowContent with
  | error reason => exact .noFile hcontent
  | ok bytes =>
    cases htext : String.fromUTF8? bytes with
    | none => exact .notUtf8 hcontent htext
    | some text =>
      cases hparse : Json.parse? text with
      | none => exact .notJson hcontent htext hparse
      | some j =>
        cases j with
        | object members =>
          cases hflow : FlowFile.demandFlow ⟨members⟩ setup.limits flow with
          | error refusal => exact .incomplete hcontent htext hparse hflow
          | ok u =>
            have hok := demandFlow_eq_ok_iff.mpr ⟨bytes, text, hcontent, htext, hparse, hflow⟩
            cases hok.symm.trans h
        | _ => exact .notAnObject hcontent htext hparse rfl

/-- The demands fail exactly at desks that are unprepared. -/
theorem unprepared_iff :
    Unprepared setup d flow ↔
      (∃ e, d.demandItem = .error e) ∨ ∃ e, d.demandFlow setup flow = .error e := by
  constructor
  · exact exists_error_of_unprepared
  · rintro (⟨e, he⟩ | ⟨e, he⟩)
    · exact unprepared_of_demandItem he
    · exact unprepared_of_demandFlow he

/-! ### Work that begins with the demands -/

/-- Work on the current item with a flow file, which begins with the demands. -/
def guarded (setup : Setup) (flow : String) (work : PlanItem → FlowFile → Act Desk α) :
    Act Desk α := do
  let item ← Act.ofExcept (← get).demandItem
  let file ← Act.ofExcept ((← get).demandFlow setup flow)
  work item file

/-- The flow that a command demands, if it works on an item. -/
def Command.flow? : Command → Option String
  | .openProvider => some FlowFile.providerFlow
  | .openInvoice => some FlowFile.invoiceFlow
  | .run flow => some flow
  | .prepare | .confirm => some FlowFile.applySection
  | _ => none

/-- Work that begins with the demands. -/
def IsGuarded (setup : Setup) (flow : String) (x : Act Desk α) : Prop :=
  ∃ work, x = guarded setup flow work

theorem IsGuarded.bind {β : Type} {x : Act Desk α} (hx : IsGuarded setup flow x)
    (f : α → Act Desk β) : IsGuarded setup flow (x >>= f) := by
  obtain ⟨work, rfl⟩ := hx
  exact ⟨fun item file => work item file >>= f, by simp [guarded]⟩

theorem runFlow_isGuarded (setup : Setup) (flow : String) :
    IsGuarded setup flow (runFlow setup flow) := ⟨_, rfl⟩

theorem chooseCategory_isGuarded (setup : Setup) :
    IsGuarded setup FlowFile.applySection (chooseCategory setup) := ⟨_, rfl⟩

theorem confirmCategory_isGuarded (setup : Setup) :
    IsGuarded setup FlowFile.applySection (confirmCategory setup) := ⟨_, rfl⟩

/-- Whatever a command does with an item, it begins with the demands. Opening a provider or an
invoice, running a flow, and choosing or confirming a category differ only in what follows. -/
theorem body_isGuarded {c : Command} (h : c.flow? = some flow) :
    IsGuarded setup flow (body setup c) := by
  cases c with
  | openProvider => exact Option.some.inj h ▸ (runFlow_isGuarded setup _).bind _
  | openInvoice => exact Option.some.inj h ▸ (runFlow_isGuarded setup _).bind _
  | run flow => exact Option.some.inj h ▸ (runFlow_isGuarded setup flow).bind _
  | prepare => exact Option.some.inj h ▸ (chooseCategory_isGuarded setup).bind _
  | confirm => exact Option.some.inj h ▸ (confirmCategory_isGuarded setup).bind _
  | _ => cases h

/-- At a desk that is unprepared, the demands are all that is done. -/
theorem refused_of_unprepared (h : Unprepared setup d flow) {x : Act Desk α}
    (hx : IsGuarded setup flow x) : (∃ e, x.result d = .error e) ∧ x.after d = d := by
  obtain ⟨work, rfl⟩ := hx
  cases hitem : d.demandItem with
  | error e => exact ⟨⟨e, by simp [guarded, hitem]⟩, by simp [guarded, hitem]⟩
  | ok item =>
    obtain ⟨e, he⟩ | ⟨e, he⟩ := exists_error_of_unprepared h
    · cases hitem.symm.trans he
    · exact ⟨⟨e, by simp [guarded, hitem, he]⟩, by simp [guarded, hitem, he]⟩

/-! ### Reports of refusals -/

theorem portal_after_capture (setup : Setup) (label : String) (d : Desk) :
    ((capture setup label).after d).portal =
      if d.storeBlocked then d.portal else Page.screenshot.after d.portal := by
  cases hblocked : d.storeBlocked with
  | true => simp [capture, hblocked]
  | false =>
    cases hpicture : (onPage Page.screenshot).result d <;>
      simp [capture, hblocked, hpicture, ← portal_after_onPage]

theorem capture_pictured (setup : Setup) (label : String) (d : Desk) :
    Page.Pictured d.portal ((capture setup label).after d).portal := by
  rw [portal_after_capture]
  split
  · exact .same _
  · exact Page.screenshot_pictured _

/-- The account of a failure takes one picture at most. -/
theorem failure_pictured (setup : Setup) (a : Announcement) (cause : Fault) (d : Desk) :
    Page.Pictured d.portal (failure setup a cause d).2.portal := by
  obtain ⟨evidence, d', hd', htell⟩ := failure_eq_tell setup a cause d
  have hportal : (tell setup a cause evidence d').2.portal = d'.portal := by
    show ((post _ _ _ _).orUse () d').2.portal = _
    rw [orUse_snd, after_post]
    rfl
  rw [htell, hportal]
  rcases hd' with hd' | hd'
  · rw [hd']
    exact .same _
  · rw [hd']
    exact capture_pictured setup _ d

theorem announced_of_error (a : Announcement) {x : Act Desk α} {cause : Fault}
    (hfails : x.result d = .error cause) :
    (announced setup a x).result d = .error cause ∧ (announced setup a x).after d = x.after d := by
  simp [announced, hfails]

/-- The report of a failure takes one picture at most. -/
theorem report_pictured (setup : Setup) (a : Announcement) {x : Act Desk α} {cause : Fault}
    (hfails : x.result d = .error cause) :
    (x.after d).portal.Pictured ((report setup a x).after d).portal := by
  obtain ⟨hannounced, hsame⟩ := announced_of_error a hfails
  rw [report_eq, after_tryCatch, hannounced, hsame]
  exact failure_pictured setup a cause _

/-- An action that fails before it does anything leaves the page as it was. -/
theorem report_of_refused (setup : Setup) (a : Announcement) {x : Act Desk α} {cause : Fault}
    (hfails : x.result d = .error cause) (hafter : x.after d = d) :
    (∃ e, (report setup a x).result d = .error e) ∧
      Page.Pictured d.portal ((report setup a x).after d).portal := by
  obtain ⟨evidence, _, hresult, -⟩ := report_failsFor (announced_of_error a hfails).1
  have hpictured := report_pictured setup a hfails
  rw [hafter] at hpictured
  exact ⟨⟨_, hresult⟩, hpictured⟩

/-- Where a page, a login, a plan with items or a complete flow is missing, a command that works on
an item fails and leaves the page as it was, but for one picture at most: it changes no element and
no address, adds nothing else to the record and takes no time. -/
theorem perform_of_unprepared (setup : Setup) (d : Desk) {c : Command} {flow : String}
    (hflow : c.flow? = some flow) (h : Unprepared setup d flow) :
    (∃ e, (perform setup c).result d = .error e) ∧
      Page.Pictured d.portal ((perform setup c).after d).portal := by
  have hload : c ≠ .loadPlan := by
    rintro rfl
    cases hflow
  have hteardown : c ≠ .teardown := by
    rintro rfl
    cases hflow
  have hreport : perform setup c d = report setup (d.announcement c) (body setup c) d :=
    perform_eq_report hload hteardown d
  obtain ⟨⟨cause, hfails⟩, hafter⟩ := refused_of_unprepared h (body_isGuarded hflow)
  have hrefused := report_of_refused setup (d.announcement c) hfails hafter
  rwa [result, after, ← hreport] at hrefused

/-- The plan of a small desk is loaded, but the flow file has no steps for the flow that is asked
for: the flow is refused, and a picture is all that is added to the record. -/
theorem run_missing_flow_refused :
    let setup := smallSetup 9
    let d := [Command.openBrowser, .markLogin, .loadPlan].foldl
      (fun d c => (perform setup c).after d) smallDesk
    let d' := (perform setup (.run "pay")).after d
    Command.flow? (.run "pay") = some "pay" ∧ Unprepared setup d "pay" ∧
      (∃ e, (perform setup (.run "pay")).result d = .error e) ∧
      Page.Pictured d.portal d'.portal ∧ d'.portal.events = d.portal.events ++ [.screenshot] := by
  intro setup d d'
  have hrefused : (d.demandFlow setup "pay").isOk = false := by decide +kernel
  have hunprepared : Unprepared setup d "pay" := by
    cases hflow : d.demandFlow setup "pay" with
    | error e => exact unprepared_of_demandFlow hflow
    | ok file =>
      rw [hflow] at hrefused
      cases hrefused
  have hevents : d'.portal.events = d.portal.events ++ [.screenshot] := by decide +kernel
  obtain ⟨hfails, hpictured⟩ := perform_of_unprepared setup d (c := .run "pay") rfl hunprepared
  exact ⟨rfl, hunprepared, hfails, hpictured, hevents⟩

end Desk

end FlowPilot
