import FlowPilot.Proofs.Desk.Guard
import FlowPilot.Proofs.Page.Failures

/-!
# Choosing a category in vain

Before a category is chosen, the item, the flow file and the option for the category are read, and
then the element in which it is chosen. All this happens before the page is touched. Only where the
option is clicked its selector is filled in later, when the list was opened already: if that is
blank, the choice fails for a missing field and the list stays open.

## Main definitions

* `Desk.Choosing`: what is read before a category is chosen.
* `Desk.ChoosesAtOnce`: no steps run before the choice.
* `Desk.OpensInVain`: the list is opened, and the selector of the option turns out to be blank.

## Main statements

* `Desk.cases_of_chooseCategory`: a choice that fails for a missing field opened the list in vain,
  or did nothing at all.
* `Desk.prepare_touches_iff`: exactly when a preparation that fails for a missing field has touched
  the page.
-/

namespace FlowPilot

open Act

/-- A page that cannot do what it is asked for lacks no field. -/
theorem Fault.IsFromPage.root_ne {e : Fault} (h : e.IsFromPage) (field : String) :
    e.root ≠ .missingField field := by
  cases e with
  | page | notFound | noTargetClickable | assertionFailed => exact Fault.noConfusion
  | _ => exact absurd h id

namespace Desk

variable {setup : Setup} {d : Desk} {field : String}

/-! ### What is read -/

/-- What is read before a category is chosen: the section of the flow file, the variables, the
category and its option. -/
structure Choosing where
  rules : CategorySection
  bindings : Bindings
  key : String
  choice : Expense.Choice

/-- Reads what it takes to choose a category. -/
def choosing (setup : Setup) (d : Desk) : Except Fault Choosing := do
  let item ← d.demandItem
  let file ← d.demandFlow setup FlowFile.applySection
  let s ← file.category setup.host.wording
  let key ← wantedCategory (bindingsFor item file)
  let choice ← demandChoice key s
  return ⟨s, bindingsFor item file, key, choice⟩

namespace Choosing

/-- The element in which the category is chosen. -/
def target (c : Choosing) : Except Fault Locator :=
  demandSelector "apply.category_selector" c.bindings c.rules.categorySelector

/-- The variables that the selector of the option sees. -/
def optionBindings (c : Choosing) : Bindings :=
  (c.bindings.set "value" (c.choice.value.getD "")).set "label"
    ((c.choice.label <|> c.choice.text).getD "")

/-- The selector of the option that is clicked. -/
def optionSelector (c : Choosing) : String :=
  c.optionBindings.fill (c.rules.optionSelector.getD "")

/-- Chooses the category in an element. -/
def chooseIn (c : Choosing) (target : Locator) : Act Page String :=
  match c.rules.mode with
  | .fill => fillCategory target c.key c.choice
  | .click => clickCategory target c.key c.choice c.bindings c.rules.optionSelector
  | .select => selectCategory target c.key c.choice

end Choosing

/-- The flow file, if it can be used, names no steps that run before the choice. -/
def ChoosesAtOnce (setup : Setup) (d : Desk) : Prop :=
  ∀ file s, d.demandFlow setup FlowFile.applySection = .ok file →
    file.category setup.host.wording = .ok s → s.stepsBeforeConfirm = []

/-- Without steps before it, the choice reads what it takes and then touches the page. -/
theorem chooseCategory_apply (h : ChoosesAtOnce setup d) :
    chooseCategory setup d = (do
      let c ← Act.ofExcept (choosing setup d)
      let target ← Act.ofExcept c.target
      onPage (c.chooseIn target) : Act Desk String) d := by
  simp only [choosing, ofExcept_bind, bind_assoc]
  unfold chooseCategory
  rw [get_bind]
  refine ofExcept_bind_congr fun item _ => ?_
  rw [get_bind]
  refine ofExcept_bind_congr fun file hfile => ofExcept_bind_congr fun s hrules => ?_
  rw [h file s hfile hrules, List.isEmpty_nil, if_pos rfl]
  refine ofExcept_bind_congr fun key _ => ofExcept_bind_congr fun choice _ => ?_
  cases hmode : s.mode <;>
    simp only [pure, Except.pure, ofExcept_ok_bind, Choosing.target, Choosing.chooseIn, hmode]

theorem root_ne_of_demandItem {e : Fault} (h : d.demandItem = .error e) :
    e.root ≠ .missingField field := by
  rcases bind_eq_error_iff.mp h with h | ⟨_, -, h⟩
  · rcases bind_eq_error_iff.mp h with h | ⟨_, -, h⟩
    · unfold Session.demandPage at h
      split at h <;> cases h
      exact Fault.noConfusion
    · split at h <;> cases h
      exact Fault.noConfusion
  · split at h
    · cases h
      exact Fault.noConfusion
    · split at h <;> cases h
      exact Fault.noConfusion

theorem root_ne_of_mapError {α ε : Type} {x : Except ε α} {f : ε → Fault} {e : Fault}
    (hf : ∀ reason, (f reason).root ≠ .missingField field) (h : x.mapError f = .error e) :
    e.root ≠ .missingField field := by
  cases x with
  | ok a => cases h
  | error reason =>
    cases h
    exact hf reason

theorem root_ne_of_demandFlow {e : Fault} {flow : String} (h : d.demandFlow setup flow = .error e) :
    e.root ≠ .missingField field := by
  rcases bind_eq_error_iff.mp h with h | ⟨file, -, h⟩
  · exact root_ne_of_mapError (fun _ => Fault.noConfusion) h
  · rcases bind_eq_error_iff.mp h with h | ⟨_, -, h⟩
    · unfold FlowFile.demandFlow at h
      split at h <;> cases h
      exact Fault.noConfusion
    · cases h

theorem root_ne_of_category {file : FlowFile} {w : Wording} {e : Fault}
    (h : file.category w = .error e) : e.root ≠ .missingField field :=
  root_ne_of_mapError (fun _ => Fault.noConfusion) h

/-- What is read before the choice never lacks a field. -/
theorem root_ne_of_choosing {e : Fault} (h : choosing setup d = .error e) :
    e.root ≠ .missingField field := by
  simp only [choosing, bind_eq_error_iff, pure, Except.pure, reduceCtorEq, and_false, exists_false,
    or_false] at h
  obtain h | ⟨item, -, h | ⟨file, -, h | ⟨s, -, h | ⟨key, -, h⟩⟩⟩⟩ := h
  · exact root_ne_of_demandItem h
  · exact root_ne_of_demandFlow h
  · exact root_ne_of_category h
  · unfold wantedCategory at h
    split at h <;> cases h
    exact Fault.noConfusion
  · unfold demandChoice at h
    split at h <;> cases h
    exact Fault.noConfusion

/-! ### What is chosen -/

theorem demandSelector_eq_error_iff {name : String} {bindings : Bindings}
    {template : Option String} {e : Fault} :
    demandSelector name bindings template = .error e ↔
      Text.isBlankText (bindings.fill (template.getD "")) = true ∧ e = .missingField name := by
  unfold demandSelector
  dsimp only
  split
  · rename_i hblank
    rw [Except.error.injEq, eq_comm, iff_and_self]
    exact fun _ => hblank
  · rename_i hword
    simp [hword]

/-- In an open list there is no option to click. -/
structure Choosing.IsVain (c : Choosing) : Prop where
  mode : c.rules.mode = .click
  blank : Text.isBlankText c.optionSelector = true

/-- The choice by clicks: the list is opened before the option is looked for. -/
theorem chooseIn_of_click {c : Choosing} (hmode : c.rules.mode = .click) (target : Locator) :
    c.chooseIn target = (do
      Page.click target false
      let option ← Act.ofExcept (demandSelector "apply.category_option_selector" c.optionBindings
        c.rules.optionSelector)
      Page.click option false
      return ((c.choice.value <|> c.choice.label) <|> c.choice.text).getD c.key) := by
  rw [Choosing.chooseIn, hmode]
  rfl

/-- The list is opened, and then the option is not looked for. -/
theorem chooseIn_of_vain {c : Choosing} (hvain : c.IsVain) {target : Locator} {p : Page}
    (hclick : (Page.click target false).result p = .ok ()) :
    (c.chooseIn target).result p = .error (.missingField "apply.category_option_selector") ∧
      (c.chooseIn target).after p = (Page.click target false).after p := by
  have hoption : demandSelector "apply.category_option_selector" c.optionBindings
      c.rules.optionSelector = .error (.missingField "apply.category_option_selector") :=
    demandSelector_eq_error_iff.mpr ⟨hvain.blank, rfl⟩
  rw [chooseIn_of_click hvain.mode, hoption]
  exact ⟨by simp [hclick], by simp [hclick]⟩

/-- On the page, the choice lacks nothing but an option to click. -/
theorem vain_of_chooseIn {c : Choosing} {target : Locator} {p : Page} {e : Fault}
    (h : (c.chooseIn target).result p = .error e) (hroot : e.root = .missingField field) :
    c.IsVain ∧ (Page.click target false).result p = .ok () := by
  -- what the page answers itself lacks no field
  have hpage {α : Type} {x : Act Page α} (hx : FailsOnly Fault.IsFromPage x) {p : Page}
      (hfails : x.result p = .error e) : False :=
    (hx p e hfails).root_ne field hroot
  cases hmode : c.rules.mode with
  | fill =>
    rw [Choosing.chooseIn, hmode] at h
    exact (hpage ((Page.fill_fromPage _ _).bind fun _ => .pure _) h).elim
  | select =>
    rw [Choosing.chooseIn, hmode] at h
    exact (hpage ((Page.selectOption_fromPage _ _).bind fun _ => .pure _) h).elim
  | click =>
    rw [chooseIn_of_click hmode, result_bind] at h
    cases hclick : (Page.click target false).result p with
    | error e' =>
      rw [hclick] at h
      obtain rfl : e' = e := Except.error.inj h
      exact (hpage (Page.click_fromPage _ _) hclick).elim
    | ok u =>
      rw [hclick] at h
      cases hoption : demandSelector "apply.category_option_selector" c.optionBindings
          c.rules.optionSelector with
      | error e' => exact ⟨⟨hmode, (demandSelector_eq_error_iff.mp hoption).1⟩, rfl⟩
      | ok option =>
        dsimp only at h
        rw [hoption, ofExcept_ok_bind] at h
        exact (hpage ((Page.click_fromPage _ _).bind fun _ => .pure _) h).elim

/-- The element in which the category is chosen accepts a click, and then there is no option to
click. -/
def OpensInVain (setup : Setup) (d : Desk) (target : Locator) : Prop :=
  ∃ c, choosing setup d = .ok c ∧ c.target = .ok target ∧ c.IsVain ∧
    (Page.click target false).result d.portal = .ok ()

/-- The list is opened in vain, which is all that is done and ends the choice. -/
theorem chooseCategory_of_opensInVain (h : ChoosesAtOnce setup d) {target : Locator}
    (hvain : OpensInVain setup d target) :
    (chooseCategory setup).result d = .error (.missingField "apply.category_option_selector") ∧
      ((chooseCategory setup).after d).portal = (Page.click target false).after d.portal := by
  obtain ⟨c, hread, htarget, hnothing, hclick⟩ := hvain
  obtain ⟨hresult, hafter⟩ := chooseIn_of_vain hnothing hclick
  have happly := chooseCategory_apply h
  simp only [hread, htarget, ofExcept_ok_bind] at happly
  exact ⟨(congrArg Prod.fst happly).trans hresult,
    (congrArg (fun r => r.2.portal) happly).trans hafter⟩

/-- A choice that fails for a missing field opened the list in vain, or did nothing at all. -/
theorem cases_of_chooseCategory (h : ChoosesAtOnce setup d) {e : Fault}
    (hfails : (chooseCategory setup).result d = .error e) (hroot : e.root = .missingField field) :
    (∃ target, OpensInVain setup d target) ∨ (chooseCategory setup).after d = d := by
  have happly := chooseCategory_apply h
  have hresult := (congrArg Prod.fst happly).symm.trans hfails
  cases hread : choosing setup d with
  | error e' =>
    rw [hread, ofExcept_error_bind] at hresult
    obtain rfl : e' = e := Except.error.inj hresult
    -- What is read before the page is touched fails for other reasons.
    exact absurd hroot (root_ne_of_choosing hread)
  | ok c =>
    rw [hread, ofExcept_ok_bind] at hresult happly
    cases htarget : c.target with
    | error e' =>
      rw [htarget, ofExcept_error_bind] at happly
      exact .inr (congrArg Prod.snd happly)
    | ok target =>
      rw [htarget, ofExcept_ok_bind] at hresult
      obtain ⟨hnothing, hclick⟩ := vain_of_chooseIn hresult hroot
      exact .inl ⟨target, c, hread, htarget, hnothing, hclick⟩

/-! ### Reports -/

theorem perform_prepare_apply (setup : Setup) (d : Desk) :
    perform setup .prepare d =
      report setup (d.announcement .prepare) (Reply.prepared <$> chooseCategory setup) d := by
  rw [perform_eq_report (by decide) (by decide), map_eq_pure_bind]
  rfl

/-- A preparation fails as the choice does, and its report takes one picture at most. -/
theorem perform_prepare_of_error {cause : Fault}
    (hfails : (chooseCategory setup).result d = .error cause) :
    (∃ e, (perform setup .prepare).result d = .error e ∧ e.root = cause.root) ∧
      ((chooseCategory setup).after d).portal.Pictured
        ((perform setup .prepare).after d).portal := by
  have happly := perform_prepare_apply setup d
  have hcause : (Reply.prepared <$> chooseCategory setup).result d = .error cause := by
    rw [result_map, hfails]
    rfl
  obtain ⟨evidence, _, hresult, -⟩ :=
    report_failsFor (announced_of_error (d.announcement .prepare) hcause).1
  have hpictured := report_pictured setup (d.announcement .prepare) hcause
  rw [after_map] at hpictured
  exact ⟨⟨_, (congrArg Prod.fst happly).trans hresult, rfl⟩,
    (congrArg (fun r => r.2.portal) happly) ▸ hpictured⟩

/-- A preparation fails only as its choice does. -/
theorem exists_error_of_prepare {e : Fault} (h : (perform setup .prepare).result d = .error e) :
    ∃ cause, (chooseCategory setup).result d = .error cause ∧ e.root = cause.root := by
  cases hchoice : (chooseCategory setup).result d with
  | error cause =>
    obtain ⟨⟨e', hfails, hroot⟩, -⟩ := perform_prepare_of_error hchoice
    obtain rfl : e = e' := Except.error.inj (h.symm.trans hfails)
    exact ⟨cause, rfl, hroot⟩
  | ok selected =>
    -- no event is posted that could be refused
    have hdone : (report setup (d.announcement .prepare) (Reply.prepared <$>
        chooseCategory setup)).result d = .ok (.prepared selected) := by
      have hsilent : (d.announcement .prepare).silent = true := rfl
      rw [report_eq, result_tryCatch]
      simp [announced, hsilent, hchoice, Except.map]
    cases ((congrArg Prod.fst (perform_prepare_apply setup d)).trans hdone).symm.trans h

/-! ### What a preparation touches -/

/-- A click in the record is more than a picture. -/
theorem not_pictured_of_accepts {p clicked q : Page} {target : Locator}
    (haccepts : p.Accepts target clicked) (hpictured : clicked.Pictured q) : ¬p.Pictured q := by
  obtain ⟨node, -, -, rfl⟩ := haccepts
  intro hsame
  have hclicked : ((p.counted .click).accept .direct node target).events =
      p.events ++ [.clicked .direct node target] := Page.accept_events _ _ _ _
  have hevents := hpictured.events
  rw [hclicked] at hevents
  rcases hsame.events with hsame | hsame <;> rcases hevents with hevents | hevents <;>
    simp [hevents] at hsame

/-- Where no steps run before the choice, a preparation that fails for a missing field leaves the
page as it was, but for one picture at most, unless the category is chosen by clicks and the list is
opened before the selector of the option turns out to be blank. It then fails for that selector, the
page has accepted the click on the list, and one picture at most follows. -/
theorem prepare_touches_iff (setup : Setup) (d : Desk) (h : ChoosesAtOnce setup d) :
    let run := perform setup .prepare
    ((∃ e field, run.result d = .error e ∧ e.root = .missingField field) ∧
        ¬d.portal.Pictured (run.after d).portal ↔
      ∃ target, OpensInVain setup d target) ∧
    ∀ target, OpensInVain setup d target →
      (∃ e, run.result d = .error e ∧
        e.root = .missingField "apply.category_option_selector") ∧
      ∃ clicked, d.portal.Accepts target clicked ∧ clicked.Pictured (run.after d).portal := by
  intro run
  have hvain : ∀ target, OpensInVain setup d target →
      (∃ e, run.result d = .error e ∧
        e.root = .missingField "apply.category_option_selector") ∧
      ∃ clicked, d.portal.Accepts target clicked ∧ clicked.Pictured (run.after d).portal := by
    intro target hvain
    obtain ⟨hfails, hafter⟩ := chooseCategory_of_opensInVain h hvain
    obtain ⟨herror, hpictured⟩ := perform_prepare_of_error hfails
    obtain ⟨c, -, -, -, hclick⟩ := hvain
    rw [hafter] at hpictured
    exact ⟨herror, _, Page.accepts_of_click hclick, hpictured⟩
  -- The picture of the failure touches the page as well, so a page that is only pictured is the one
  -- that counts as untouched.
  refine ⟨⟨?_, ?_⟩, hvain⟩
  · rintro ⟨⟨e, field, hfails, hroot⟩, htouched⟩
    obtain ⟨cause, hcause, hsame⟩ := exists_error_of_prepare hfails
    refine (cases_of_chooseCategory h hcause (hsame.symm.trans hroot)).resolve_right fun hidle => ?_
    have hpictured := (perform_prepare_of_error hcause).2
    rw [hidle] at hpictured
    exact htouched hpictured
  · rintro ⟨target, hopens⟩
    obtain ⟨⟨e, hfails, hroot⟩, clicked, haccepts, hpictured⟩ := hvain target hopens
    exact ⟨⟨e, _, hfails, hroot⟩, not_pictured_of_accepts haccepts hpictured⟩

/-- A setup whose plan has one item, of the category on health. -/
def listSetup : Setup :=
  { smallSetup 9 with
    coordinator :=
      { (smallSetup 9).coordinator with
        plan := fun _ _ =>
          let item : PlanItem := ⟨[("categoria_nombre", .text "Salud")]⟩
          .ok ⟨none, none, none, none, some [item], none⟩ } }

/-- A desk with a list to open. The flow file looks for an option by its value, and the only option
has none. -/
def listDesk : Desk :=
  let page :=
    { Page.opened "" with dom := Dom.empty.add Dom.root { tag := "div", id := some "c" } }
  let desk : Desk :=
    { session := { launcher := { page := page } }
      flowContent := .ok ("\x7b\"apply\":\x7b\"category_selector\":\"#c\"," ++
        "\"confirm_selector\":\"#ok\",\"category_map\":\x7b\"Salud\":\"Salud\"\x7d," ++
        "\"category_mode\":\"click\",\"category_option_selector\":\"\x7b\x7bvalue\x7d\x7d\"" ++
        "\x7d\x7d").toUTF8 }
  [Command.openBrowser, .markLogin, .loadPlan].foldl
    (fun d c => (perform listSetup c).after d) desk

/-- What a preparation does at the desk with the list: it fails for want of an option, and a click
and a picture are added to the record. -/
theorem listDesk_prepare :
    let run := perform listSetup .prepare
    ChoosesAtOnce listSetup listDesk ∧
      (∃ e, run.result listDesk = .error e ∧
        e.root = .missingField "apply.category_option_selector") ∧
      ¬listDesk.portal.Pictured (run.after listDesk).portal := by
  intro run
  have hrun : (listDesk.demandFlow listSetup FlowFile.applySection).toOption.all (fun file =>
        (file.category listSetup.host.wording).toOption.all fun s =>
          s.stepsBeforeConfirm.isEmpty) = true ∧
      (match run.result listDesk with
        | .error e => some e.root
        | .ok _ => none) = some (.missingField "apply.category_option_selector") ∧
      (run.after listDesk).portal.events.length = listDesk.portal.events.length + 2 := by
    decide +kernel
  obtain ⟨hsteps, hroot, hevents⟩ := hrun
  refine ⟨fun file s hfile hrules => ?_, ?_, fun hpictured => ?_⟩
  · simpa [hfile, hrules, Except.toOption] using hsteps
  · split at hroot
    · rename_i e hfails
      exact ⟨e, hfails, Option.some.inj hroot⟩
    · cases hroot
  · rcases hpictured.events with h | h <;> simp [h] at hevents

/-- The list of the small desk is opened in vain. -/
theorem prepare_touches_list :
    let run := perform listSetup .prepare
    ChoosesAtOnce listSetup listDesk ∧ (∃ target, OpensInVain listSetup listDesk target) ∧
      ¬listDesk.portal.Pictured (run.after listDesk).portal := by
  intro run
  obtain ⟨honce, ⟨e, hfails, hroot⟩, htouched⟩ := listDesk_prepare
  obtain ⟨htouches, -⟩ := prepare_touches_iff listSetup listDesk honce
  exact ⟨honce, htouches.mp ⟨⟨e, _, hfails, hroot⟩, htouched⟩, htouched⟩

/-- So it is not so that a preparation which fails for a missing field leaves the page as it was. -/
theorem prepare_not_always_pictured :
    ¬∀ setup d, ChoosesAtOnce setup d → ∀ e field,
      (perform setup .prepare).result d = .error e → e.root = .missingField field →
        d.portal.Pictured ((perform setup .prepare).after d).portal := by
  intro h
  obtain ⟨honce, ⟨e, hfails, hroot⟩, htouched⟩ := listDesk_prepare
  exact htouched (h listSetup listDesk honce e _ hfails hroot)

end Desk

end FlowPilot
