import FlowPilot.Fault
import FlowPilot.Host
import FlowPilot.Step.Basic
import FlowPilot.Step.Fields

/-!
# Steps from templates

## Main definitions

* `Step.kindText?`: the kind that a template names.
* `Step.ofJson`: a step from a template that is filled in.
-/

namespace FlowPilot.Step

/-- The kind that a template names, if it names one. -/
def kindText? (template : Json) : Option String :=
  ((template.get? "type").bind Json.text?).filter fun s => !Text.isBlankText s

/-- The step of a kind from the members of its template. Of several fields of a wrong form the first
one in the order of the members is named. -/
def ofFields (kind : Kind) (m : Json.Members) : Reading Step := do
  let timeout := time m "timeout"
  match kind with
  | .goto =>
    let waitUntil ← choice LoadState.ofName? m "waitUntil"
    return .leaf (.goto ⟨anyText m "url", waitUntil, timeout⟩)
  | .click =>
    let selector ← plainText m "selector"
    return .leaf (.click ⟨selector, timeout⟩)
  | .clickAny => return .leaf (.clickAny ⟨textList m "selectors", flag m "logUrl", timeout⟩)
  | .fill =>
    let selector ← plainText m "selector"
    return .leaf (.fill ⟨selector, anyText m "text", timeout⟩)
  | .select =>
    let selector ← plainText m "selector"
    return .leaf (.select
      ⟨selector, anyText m "value", anyText m "label", anyText m "text", timeout⟩)
  | .waitForSelector =>
    let selector ← plainText m "selector"
    let state ← choice ElementState.ofName? m "state"
    return .leaf (.waitForSelector ⟨selector, state, timeout⟩)
  | .waitForUrl =>
    let pattern ← plainText m "pattern"
    return .leaf (.waitForUrl ⟨anyText m "url", pattern, timeout⟩)
  | .expectText =>
    let selector ← plainText m "selector"
    return .leaf (.expectText ⟨selector, anyText m "text", timeout⟩)
  | .press =>
    let selector ← plainText m "selector"
    return .leaf (.press ⟨selector, anyText m "key", timeout⟩)
  | .assertOnPage =>
    let selector ← plainText m "selector"
    let urlPattern ← plainText m "urlPattern"
    return .leaf (.assertOnPage ⟨urlPattern, selector, textList m "anyText", timeout⟩)
  | .clickRowAction =>
    let table ← plainText m "table"
    return .leaf (.clickRowAction
      ⟨table, anyText m "rowText", textList m "actionSelectors", flag m "fallbackClick",
       flag m "logUrl", timeout⟩)
  | .clickTableCellLink =>
    let matchMode ← plainText m "match"
    let table ← plainText m "table"
    return .leaf (.clickTableCellLink
      ⟨table, anyText m "rowText", anyText m "cellText", anyText m "cellIndex", matchMode,
       textList m "targetSelectors", textList m "linkSelectors", flag m "fallbackClick",
       flag m "logUrl", timeout⟩)
  | .ensureSidebarOpen =>
    let selector ← plainText m "selector"
    let toggleSelector ← plainText m "toggleSelector"
    return .leaf (.ensureSidebarOpen
      ⟨selector, toggleSelector, textList m "toggleSelectors", real m "minWidth", timeout⟩)
  | .trySteps =>
    let fallbackSteps ← templates m "fallbackSteps"
    let steps ← templates m "steps"
    return .trySteps ⟨steps, fallbackSteps, timeout⟩
  | .runAction =>
    let action ← plainText m "action"
    let actionName ← plainText m "actionName"
    let name ← plainText m "name"
    let vars ← objectMembers m "vars"
    return .runAction ⟨action, actionName, name, vars⟩

/-- A step from a template that is filled in. -/
def ofJson (w : Wording) (template : Json) : Except Fault Step :=
  match kindText? template with
  | none => .error (.missingField "step.type")
  | some text =>
    match Kind.ofName? text with
    | none => .error (.unsupportedStep text)
    | some kind =>
      -- A template that is no object has no kind, so the default is never used.
      match ofFields kind ((template.object?).getD []) with
      | .ok step => .ok step
      | .error field =>
        let given := (template.get? field).getD .null
        .error (.config (.malformedStep text (w.step field given)))

end FlowPilot.Step
