import FlowPilot.Flow.Category
import FlowPilot.Step.Decode

/-!
# Checking flow files

A flow file is checked before anything is clicked, so that all that is missing is reported at once.
Templates are checked as they stand: a placeholder counts as present.

## Main definitions

* `Step.Kind.required`: the fields that a step must have.
* `FlowFile.stepIssues`: what is wrong with a sequence.
* `FlowFile.sectionIssues`: what is missing for one flow.
* `FlowFile.demandFlow`: refuses a flow with issues.
* `FlowFile.issues`: what is wrong with a whole file.
-/

namespace FlowPilot

/-- The fields that a step must have. Of each list one field suffices. -/
def Step.Kind.required : Step.Kind → List (List String)
  | goto => [["url"]]
  | click => [["selector"]]
  | clickAny => [["selectors"]]
  | fill => [["selector"], ["text"]]
  | select => [["selector"], ["value", "label", "text"]]
  | waitForSelector => [["selector"]]
  | waitForUrl => [["url", "pattern"]]
  | expectText => [["selector"], ["text"]]
  | press => [["selector"], ["key"]]
  | assertOnPage => [["urlPattern", "selector", "anyText"]]
  | clickRowAction => [["table"], ["rowText"], ["actionSelectors", "fallbackClick"]]
  | clickTableCellLink => [["table"], ["rowText", "cellText"]]
  | trySteps => [["steps"], ["fallbackSteps"]]
  | ensureSidebarOpen => [["selector"], ["toggleSelector", "toggleSelectors"]]
  | runAction => [["actionName", "action", "name"]]

/-- Whether a template has a field: one that is neither null nor false nor blank nor an empty
list. -/
def Json.isPresent (j : Json) (key : String) : Bool :=
  match j.get? key with
  | none | some .null | some (.bool false) => false
  | some (.text s) => !Text.isBlankText s
  -- A list of blanks is present.
  | some (.array items) => !items.isEmpty
  | some _ => true

namespace FlowFile

/-- The fields that a template lacks. A cell that is looked for by its text needs an index too. -/
def lackingFields (kind : Step.Kind) (template : Json) : List (List String) :=
  kind.required.filter (fun alternatives => !alternatives.any template.isPresent)
    ++ (if kind = .clickTableCellLink ∧ template.isPresent "cellText"
          ∧ !template.isPresent "cellIndex" then [["cellIndex"]] else [])

def calledFlow (template : Json) : Option String :=
  (["actionName", "action", "name"].filterMap fun key => (template.get? key).bind Json.text?).find?
    fun name => !Text.isBlankText name

def hasSteps (file : FlowFile) (name : String) : Bool := (file.steps? name).any (!·.isEmpty)

/-- The nested sequences of a template with their names. -/
def nestedIn (flow : String) (index : Nat) (template : Json) : List (String × List Json) :=
  ["steps", "fallbackSteps"].filterMap fun key =>
    ((template.get? key).bind Json.array?).map fun steps =>
      (stepPlace flow index ++ "." ++ key, steps)

/-- What is wrong with a template on its own and with the flow that it runs. `nested` checks a
sequence one level deeper. -/
def templateIssues (file : FlowFile) (nested : String → List Json → List StepIssue) (flow : String)
    (index : Nat) (template : Json) : List StepIssue :=
  match Step.kindText? template with
  | none => [.noType flow index]
  | some text =>
    match Step.Kind.ofName? text with
    | none => [.unknownType flow index text]
    | some kind =>
      (lackingFields kind template).map (.noField flow index text ·)
        ++ match kind with
          | .trySteps =>
            (nestedIn flow index template).flatMap fun (name, steps) => nested name steps
          | .runAction =>
            match calledFlow template with
            -- Whether the flow can be run at all. Its own steps are not looked into.
            | some name => if file.hasSteps name then [] else [.unknownFlow flow index name]
            | none => []
          | _ => []

/-- What is wrong with a sequence at a depth. Sequences beyond the nesting limit are not looked
into. -/
def levelIssues (file : FlowFile) (limits : Limits) :
    (levels depth : Nat) → (flow : String) → List Json → List StepIssue
  -- Nested too deep, which is among the violations here.
  | 0, depth, flow, steps => (limits.violations flow steps.length depth).map .limit
  | levels + 1, depth, flow, steps =>
    (limits.violations flow steps.length depth).map .limit
      ++ steps.zipIdx.flatMap fun (template, index) =>
        file.templateIssues (levelIssues file limits levels (depth + 1)) flow index template

/-- What is wrong with a sequence. -/
def stepIssues (file : FlowFile) (limits : Limits) (flow : String) (steps : List Json) :
    List StepIssue :=
  file.levelIssues limits (limits.maxNesting + 1) 0 flow steps

/-- What is missing in the section on categories. -/
def categoryIssues (file : FlowFile) : List String :=
  let j := (file.section? applySection).getD .null
  let demand (given : Bool) (issue : String) : List String := if given then [] else [issue]
  demand (j.isPresent "category_selector") "apply.category_selector"
    ++ demand (j.isPresent "confirm_selector") "apply.confirm_selector"
    ++ (match j.get? "category_map" with
      | some (.object []) => ["apply.category_map (empty)"]
      | some (.object _) => []
      | _ => ["apply.category_map"])
    ++ (match CategoryMode.ofName? ((j.get? "category_mode").bind Json.text?) with
      | none => ["apply.category_mode"]
      | some .click =>
        demand (j.isPresent "category_option_selector") "apply.category_option_selector"
      | some _ => [])

/-- What is missing for one flow. -/
def sectionIssues (file : FlowFile) (name : String) : List String :=
  if name = applySection then file.categoryIssues
  else if file.hasSteps name then [] else [name ++ ".steps"]

/-- The steps that belong to one flow. -/
def stepsFor (file : FlowFile) (name : String) : List Json :=
  (if name = applySection then
    ((file.section? name).bind (·.get? "steps_before_confirm")).bind Json.array?
  else file.steps? name).getD []

/-- Refuses a flow for which something is missing or wrong, with all that is. -/
def demandFlow (file : FlowFile) (limits : Limits) (name : String) : Except Fault Unit :=
  match (file.sectionIssues name).map ConfigIssue.setting
      ++ (file.stepIssues limits name (file.stepsFor name)).map .step with
  | [] => .ok ()
  | issues => .error (.configInvalid issues)

/-- What is wrong with a whole file: what is missing for the three flows of the assistant, then
the steps of all sections, then those before a confirmation. -/
def issues (file : FlowFile) (limits : Limits) : List ConfigIssue :=
  (([providerFlow, invoiceFlow, applySection].flatMap file.sectionIssues).map .setting)
    ++ (file.members.flatMap fun (name, j) =>
        match (j.get? "steps").bind Json.array? with
        | some steps => (file.stepIssues limits name steps).map .step
        | none => [])
    ++ (match CategorySection.ofOptional (file.section? applySection) with
      | .ok s =>
        (file.stepIssues limits (applySection ++ ".steps_before_confirm") s.stepsBeforeConfirm).map
          .step
      | .error _ => [])

end FlowFile

end FlowPilot
