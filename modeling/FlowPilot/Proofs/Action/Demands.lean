import FlowPilot.Flow.OnPage
import FlowPilot.Proofs.Flow.Failures
import FlowPilot.Proofs.Page.Failures
import FlowPilot.Proofs.Step.Presence
import FlowPilot.Proofs.Template.Fill

/-!
# What steps demand

Every step that acts on a page reads its fields first. What it cannot use it refuses, before it
touches the page; once it has touched the page, it fails only in ways in which pages fail. So a
failure that blames a step has left the page alone.

## Main definitions

* `Step.Leaf.check`: what a step demands before it begins.
* `Fault.blamesStep`: failures that refuse a step as it stands.

## Main statements

* `Step.Leaf.perform_checksFirst`: a step checks first and then fails only in the ways of pages.
* `Runner.blamed_untouched`: a template that is refused leaves the page alone.
-/

namespace FlowPilot

open Act
open Fault (IsFromPage)
open Text (isBlankText)

namespace Step

open FlowPilot.Action (required requiredText cleaned)

/-! ### Fields -/

theorem not_blank_of_trimmed? {field : Option String} {s : String}
    (h : field.bind Text.trimmed? = some s) : isBlankText s = false := by
  obtain ⟨raw, rfl, hs⟩ := Option.bind_eq_some_iff.mp h
  cases hblank : isBlankText raw with
  | true => simp [Text.trimmed?, hblank] at hs
  | false =>
    rw [Text.trimmed?_of_not_blank hblank] at hs
    exact Option.some.inj hs ▸ Text.isBlankText_trim hblank

theorem trimmed?_of_required {name : String} {field : Option String} {s : String}
    (h : required name field = .ok s) : field.bind Text.trimmed? = some s := by
  unfold required at h
  split at h
  · rename_i text htext
    exact Except.ok.inj h ▸ htext
  · cases h

theorem not_blank_of_required {name : String} {field : Option String} {s : String}
    (h : required name field = .ok s) : isBlankText s = false :=
  not_blank_of_trimmed? (trimmed?_of_required h)

/-- What a step looks for in a table. -/
def TableTarget.text : TableTarget → String
  | cell text _ => text
  | row text _ => text

/-- A step that looks into a table looks for a cell at an index, or else for a row, which may have
an index too. -/
theorem ClickTableCellLink.target_cases {s : ClickTableCellLink} {target : TableTarget}
    {mode : MatchMode} (h : s.target = .ok (target, mode)) :
    (∃ text index, target = .cell text index ∧ s.cellText.bind Text.trimmed? = some text ∧
        cellIndexOf s.cellIndex = .ok (some index)) ∨
      ∃ text index, target = .row text index ∧ s.cellText.bind Text.trimmed? = none ∧
        s.rowText.bind Text.trimmed? = some text ∧ cellIndexOf s.cellIndex = .ok index := by
  unfold ClickTableCellLink.target at h
  by_cases hnone : ((s.rowText.bind Text.trimmed?).isNone &&
      (s.cellText.bind Text.trimmed?).isNone) = true
  · rw [if_pos hnone] at h
    cases h
  rw [if_neg hnone] at h
  obtain ⟨_, -, h⟩ := exists_of_bind_eq_ok h
  obtain ⟨index, hindex, h⟩ := exists_of_bind_eq_ok h
  -- The cell text decides; the row text counts only without it.
  cases hcell : s.cellText.bind Text.trimmed? with
  | some text =>
    rw [hcell] at h
    cases index with
    | some index =>
      cases h
      exact .inl ⟨text, index, rfl, rfl, hindex⟩
    | none => cases h
  | none =>
    rw [hcell] at h
    cases hrow : s.rowText.bind Text.trimmed? with
    | none => simp [hcell, hrow] at hnone
    | some text =>
      rw [hrow] at h
      cases h
      exact .inr ⟨text, index, rfl, rfl, rfl, hindex⟩

theorem ClickTableCellLink.text_not_blank {s : ClickTableCellLink} {target : TableTarget}
    {mode : MatchMode} (h : s.target = .ok (target, mode)) : isBlankText target.text = false := by
  rcases target_cases h with ⟨_, _, rfl, hcell, -⟩ | ⟨_, _, rfl, -, hrow, -⟩
  · exact not_blank_of_trimmed? hcell
  · exact not_blank_of_trimmed? hrow

/-! ### Steps -/

/-- What a step demands before it begins. -/
def Leaf.check (w : Wording) : Leaf → Except Fault Unit
  | goto s => do
    let _ ← required "step.url" s.url
  | click s => do
    let _ ← required "step.selector" s.selector
  | clickAny s =>
    if (cleaned s.selectors).isEmpty then .error (.missingField "step.selectors") else pure ()
  | fill s => do
    let _ ← required "step.selector" s.selector
    let _ ← requiredText "step.text" s.text
  | select s => do
    let _ ← required "step.selector" s.selector
    let _ ← s.option
  | waitForSelector s => do
    let _ ← required "step.selector" s.selector
  | waitForUrl s => do
    let _ ← UrlCriterion.ofStep w s
  | expectText s => do
    let _ ← required "step.selector" s.selector
    let _ ← requiredText "step.text" s.text
  | press s => do
    let _ ← required "step.selector" s.selector
    let _ ← requiredText "step.key" s.key
  | assertOnPage s => do
    let _ ← Expectation.ofStep w s
  | clickRowAction s => do
    let _ ← required "step.table" s.table
    let _ ← required "step.rowText" s.rowText
    if (cleaned s.actionSelectors).isEmpty && !s.fallbackClick then
      .error (.missingField "step.actionSelectors")
    else pure ()
  | clickTableCellLink s => do
    let _ ← required "step.table" s.table
    let _ ← s.target
  | ensureSidebarOpen s => do
    let _ ← required "step.selector" s.selector
    if (cleaned (s.toggleSelector.toList ++ s.toggleSelectors)).isEmpty then
      .error (.missingField "step.toggleSelector")
    else pure ()

theorem attachedTable_fromPage (selector : String) (timeout : Nat) :
    FailsOnly IsFromPage (attachedTable selector timeout) :=
  (Page.waitFor_fromPage _ _ _).bind fun _ => .pure _

theorem ClickTableCellLink.place_fromPage (s : ClickTableCellLink) {target : TableTarget}
    (mode : MatchMode) (table : Locator) (h : isBlankText target.text = false) :
    FailsOnly IsFromPage (s.place target mode table) := by
  unfold place
  cases target with
  | cell text index => exact (Table.findCell_fromPage _ _ _ _ h).bind fun _ => .pure _
  | row text index =>
    refine (Table.findRow_fromPage _ _ h).bind fun found => ?_
    cases index with
    | none => exact .pure _
    | some index =>
      refine FailsOnly.bind ?_ fun _ => .pure _
      exact (Page.count_fromPage _).bind fun _ => .ite (.throw trivial) (.pure _)

theorem ClickAny.perform_checksFirst (s : ClickAny) (w : Wording) :
    ChecksFirst (Leaf.check w (.clickAny s)) IsFromPage s.perform := by
  unfold perform
  dsimp only
  rw [List.isEmpty_map]
  refine .refuse (fun _ => rfl) fun _ => .done ?_
  exact (FailsOnly.lift _).bind fun _ => Clicking.noted_fromPage _ _ _ _

theorem ExpectText.perform_checksFirst (s : ExpectText) (w : Wording) :
    ChecksFirst (Leaf.check w (.expectText s)) IsFromPage s.perform := by
  refine .demand fun selector _ => .demand fun expected _ => .done ?_
  exact (Page.textContent_fromPage _).bind fun _ => .ite (.pure _) (.throw trivial)

theorem WaitForUrl.perform_checksFirst (s : WaitForUrl) (host : Host) (timeout interval : Nat) :
    ChecksFirst (Leaf.check host.wording (.waitForUrl s)) IsFromPage
      (s.perform host timeout interval) := by
  refine .demand fun criterion _ => .done ?_
  exact (FailsOnly.lift _).bind fun
    | .found _ => .pure _
    | .timedOut _ _ => (FailsOnly.lift _).bind fun _ => Page.refuse_fromPage _ _
    | .unfinished => Page.endless_fromPage _

theorem AssertOnPage.perform_checksFirst (s : AssertOnPage) (host : Host) (timeout interval : Nat) :
    ChecksFirst (Leaf.check host.wording (.assertOnPage s)) IsFromPage
      (s.perform host timeout interval) := by
  refine .demand fun criterion _ => .done ?_
  exact (FailsOnly.lift _).bind fun
    | .found _ => .pure _
    | .timedOut _ _ => .throw trivial
    | .unfinished => Page.endless_fromPage _

theorem ClickRowAction.perform_checksFirst (s : ClickRowAction) (w : Wording) (timeout : Nat) :
    ChecksFirst (Leaf.check w (.clickRowAction s)) IsFromPage (s.perform timeout) := by
  refine .demand fun table _ => .demand fun rowText hrowText => ?_
  refine .refuse (fun _ => rfl) fun _ => .done ?_
  refine (FailsOnly.lift _).bind fun _ => ?_
  refine (attachedTable_fromPage table timeout).bind fun table => ?_
  -- the text of the row is not blank, so the search does not ask for it once more
  refine (Table.findRow_fromPage _ _ (not_blank_of_required hrowText)).bind fun found => ?_
  exact Clicking.noted_fromPage _ _ _ _

theorem ClickTableCellLink.perform_checksFirst (s : ClickTableCellLink) (w : Wording)
    (timeout : Nat) :
    ChecksFirst (Leaf.check w (.clickTableCellLink s)) IsFromPage (s.perform timeout) := by
  refine .demand fun table _ => .demand fun (target, mode) htarget => .done ?_
  refine (FailsOnly.lift _).bind fun _ => ?_
  refine (attachedTable_fromPage table timeout).bind fun table => ?_
  refine (place_fromPage s mode table (text_not_blank htarget)).bind fun (scope, fallbacks) => ?_
  exact Clicking.noted_fromPage _ _ _ _

theorem EnsureSidebarOpen.perform_checksFirst (s : EnsureSidebarOpen) (host : Host)
    (timeout interval : Nat) :
    ChecksFirst (Leaf.check host.wording (.ensureSidebarOpen s)) IsFromPage
      (s.perform host timeout interval) := by
  refine .demand fun selector _ => ?_
  dsimp only
  rw [List.isEmpty_map]
  refine .refuse (fun _ => rfl) fun _ => .done ?_
  refine (FailsOnly.lift _).bind fun _ => .ite (.pure _) ?_
  refine (Clicking.clickWithFallback_fromPage _ _ _).bind fun _ => (FailsOnly.lift _).bind fun
    | .found _ => .pure _
    | .timedOut _ _ => Page.refuse_fromPage _ _
    | .unfinished => Page.endless_fromPage _

/-- A step checks first what it demands, and then fails only in the ways of pages. -/
theorem Leaf.perform_checksFirst (s : Leaf) (host : Host) (interval timeout : Nat) :
    ChecksFirst (s.check host.wording) IsFromPage (s.perform host interval timeout) := by
  cases s with
  | goto s => exact .demand fun url _ => .done (Page.goto_fromPage url)
  | click s => exact .demand fun _ _ => .done (Page.click_fromPage _ _)
  | clickAny s => exact (s.perform_checksFirst _).discard
  | fill s => exact .demand fun _ _ => .demand fun _ _ => .done (Page.fill_fromPage _ _)
  | select s => exact .demand fun _ _ => .demand fun _ _ => .done (Page.selectOption_fromPage _ _)
  | waitForSelector s => exact .demand fun _ _ => .done (Page.waitFor_fromPage _ _ _)
  | waitForUrl s => exact s.perform_checksFirst host timeout interval
  | expectText s => exact s.perform_checksFirst _
  | press s => exact .demand fun _ _ => .demand fun _ _ => .done (Page.press_fromPage _ _)
  | assertOnPage s => exact s.perform_checksFirst host timeout interval
  | clickRowAction s => exact (s.perform_checksFirst _ timeout).discard
  | clickTableCellLink s => exact (s.perform_checksFirst _ timeout).discard
  | ensureSidebarOpen s => exact s.perform_checksFirst host timeout interval

end Step

/-! ### Templates -/

/-- Failures that refuse a step as it stands: a field is missing or makes no sense, or there is no
such kind of step. -/
def Fault.blamesStep : Fault → Bool
  | missingField _ | configInvalid _ | unsupportedStep _ => true
  | _ => false

theorem Fault.IsFromPage.not_blamesStep {e : Fault} (h : e.IsFromPage) : ¬e.blamesStep = true := by
  cases e with
  | page | notFound | noTargetClickable | assertionFailed => exact Bool.false_ne_true
  | _ => exact absurd h id

namespace Runner

/-- A step of a kind that acts on the page and is refused leaves the page alone. -/
theorem runStep_untouched (host : Host) (limits : Limits) (mode : RenderMode)
    (stepsOf : String → Option (List Json)) (nested : Sequence → Act Page Unit) (s : Sequence)
    (depth index : Nat) (template : Json)
    (hleaf : ∀ filled, s.bindings.render mode template = .ok filled →
      Step.kind? filled ≠ some .trySteps ∧ Step.kind? filled ≠ some .runAction) :
    Untouched (·.blamesStep = true)
      ((onPage host limits mode stepsOf).runStep nested s depth index template) := by
  refine .idle_bind (fun _ => rfl) fun _ filled hfilled => ?_
  refine .idle_bind (fun page => after_logLine _ _ _ page) fun _ started _ => ?_
  refine .idle_bind (fun _ => rfl) fun _ step hstep => ?_
  have hkind := Step.kind?_of_ofJson hstep
  refine .bind ?_ fun _ => (logLine_failsOnly _ _ _).bind fun _ => .pure _
  cases step with
  | leaf leaf =>
    have hchecks := leaf.perform_checksFirst host limits.pollInterval (limits.timeoutOr s.timeout
      leaf.timeout)
    exact hchecks.untouched fun _ => Fault.IsFromPage.not_blamesStep
  | trySteps step => exact absurd hkind (hleaf filled hfilled).1
  | runAction step => exact absurd hkind (hleaf filled hfilled).2

/-- Where a template of a kind that acts on the page, or of none, is refused because a field is
missing or makes no sense or because there is no such kind, the page is as it was, with its record,
its interference and its clock. And what the steps look for in tables always has a normal form, so
that no search asks for a field once the page was touched. -/
theorem blamed_untouched (host : Host) (limits : Limits) (mode : RenderMode)
    (stepsOf : String → Option (List Json)) (nested : Sequence → Act Page Unit) (s : Sequence)
    (depth index : Nat) (template : Json)
    (hleaf : ∀ filled, s.bindings.render mode template = .ok filled →
      Step.kind? filled ≠ some .trySteps ∧ Step.kind? filled ≠ some .runAction) :
    let step := (onPage host limits mode stepsOf).runStep nested s depth index template
    (∀ page e, step.result page = .error e → e.blamesStep = true → step.after page = page) ∧
      (∀ (row : Step.ClickRowAction) text,
        Action.required "step.rowText" row.rowText = .ok text →
          Text.normal text ≠ "" ∧ ∀ table name page field,
            (Table.findRow table text name).result page ≠ .error (.missingField field)) ∧
      ∀ (link : Step.ClickTableCellLink) target matchMode,
        link.target = .ok (target, matchMode) →
          Text.normal target.text ≠ "" ∧ ∀ table page field,
            (link.place target matchMode table).result page ≠ .error (.missingField field) := by
  intro step
  refine ⟨runStep_untouched host limits mode stepsOf nested s depth index template hleaf, ?_, ?_⟩
  · intro row text htext
    have hblank := Step.not_blank_of_required htext
    refine ⟨Text.normal_ne_empty hblank, fun table name page field hfails => ?_⟩
    exact Table.findRow_fromPage table name hblank page _ hfails
  · intro link target matchMode htarget
    have hblank := Step.ClickTableCellLink.text_not_blank htarget
    refine ⟨Text.normal_ne_empty hblank, fun table page field hfails => ?_⟩
    exact link.place_fromPage matchMode table hblank page _ hfails

/-- A row is to be clicked in a table that is there, by a text that is filled in with blanks: the
step is refused, and the page is not even asked for the table. -/
theorem blank_row_untouched :
    let template := Json.object
      [("rowText", .text "{{row}}"), ("table", .text "#t"),
       ("type", .text "clickRowAction")]
    let s : Sequence := ⟨"open", [template], .set .empty "row" " ", 300⟩
    let page :=
      { Page.opened "" with dom := Dom.empty.add 0 { tag := "table", id := some "t" } }
    let step :=
      (onPage .brief .strict .lenient fun _ => none).runStep (fun _ => pure ()) s 0 0 template
    step.result page = .error (.missingField "step.rowText") ∧ step.after page = page := by
  intro template s page step
  have hleaf : ∀ filled, s.bindings.render .lenient template = .ok filled →
      Step.kind? filled ≠ some .trySteps ∧ Step.kind? filled ≠ some .runAction := by
    intro filled hfilled
    rw [Bindings.render_lenient] at hfilled
    obtain rfl := Except.ok.inj hfilled
    decide +kernel
  have hfails : step.result page = .error (.missingField "step.rowText") := by decide +kernel
  have huntouched := (blamed_untouched .brief .strict .lenient (fun _ => none)
    (fun _ => pure ()) s 0 0 template hleaf).1
  exact ⟨hfails, huntouched page _ hfails rfl⟩

end Runner

end FlowPilot
