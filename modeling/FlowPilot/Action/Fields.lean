import FlowPilot.Act
import FlowPilot.Step.Basic

/-!
# What a step must give

## Main definitions

* `Action.required`: a field that must not be blank.
* `Action.requiredText`: a field that must not be empty.
* `Step.Select.option`, `Step.cellIndexOf`: fields with a meaning of their own.
-/

namespace FlowPilot

namespace Action

/-- A field that must not be blank, without the blanks around it. -/
def required (name : String) (field : Option String) : Except Fault String :=
  match field.bind Text.trimmed? with
  | some text => .ok text
  | none => .error (.missingField name)

/-- A field that must not be empty, with the blanks around it: it is typed or compared as it is. -/
def requiredText (name : String) (field : Option String) : Except Fault String :=
  match field.filter (· ≠ "") with
  | some text => .ok text
  | none => .error (.missingField name)

/-- The texts of a list that are not blank, without the blanks around them. -/
def cleaned (items : List String) : List String := items.filterMap Text.trimmed?

end Action

/-- The option that a step chooses: by its value, else by its label, else by the text as a label. -/
def Step.Select.option (s : Step.Select) : Except Fault SelectOption :=
  let given (field : Option String) : Option String := field.filter (· ≠ "")
  match given s.value, given s.label, given s.text with
  | some value, _, _ => .ok (.value value)
  | none, some label, _ => .ok (.label label)
  | none, none, some text => .ok (.label text)
  | none, none, none => .error (.missingField "step.value|step.label|step.text")

/-- The index of a cell; blank is none. -/
def Step.cellIndexOf (field : Option String) : Except Fault (Option Nat) :=
  match field.bind Text.trimmed? with
  | none => .ok none
  | some text =>
    match natural? text with
    | some n => .ok (some n)
    | none => .error (.config (.cellIndex text))

end FlowPilot
