import FlowPilot.Flow.File
import FlowPilot.Expense

/-!
# How a category is chosen

The section `apply` of a flow file says where the category is chosen and confirmed.

## Main definitions

* `CategoryMode`: from a list, by typing, or by clicking.
* `CategorySection`: the section.
* `FlowFile.category`: the section of a file.
-/

namespace FlowPilot

/-- How a category is chosen on the page. -/
inductive CategoryMode
  | select
  | fill
  | click
  deriving DecidableEq, Repr

namespace CategoryMode

def name : CategoryMode → String
  | select => "select"
  | fill => "fill"
  | click => "click"

/-- A mode from its name; none and the empty name mean a list. -/
def ofName? : Option String → Option CategoryMode
  | none | some "" | some "select" => some select
  | some "fill" => some fill
  | some "click" => some click
  | some _ => none

end CategoryMode

/-- Where a category is chosen and confirmed. -/
structure CategorySection where
  /-- the element in which the category is chosen -/
  categorySelector : Option String := none
  confirmSelector : Option String := none
  /-- the options by category -/
  categoryMap : Option Json := none
  categoryMode : Option String := none
  optionSelector : Option String := none
  stepsBeforeConfirm : List Json := []
  /-- what appears when the portal has accepted the confirmation -/
  successSelector : Option String := none
  deriving Repr

namespace CategorySection

/-- The mode; an unknown name means a list. -/
def mode (s : CategorySection) : CategoryMode := (CategoryMode.ofName? s.categoryMode).getD .select

/-- The names of the members, in the order in which an array lists them. -/
def memberNames : List String :=
  ["category_selector", "confirm_selector", "category_map", "category_mode",
   "category_option_selector", "steps_before_confirm", "confirm_success_selector"]

/-- A section from its members; the failure names a member of a wrong form. -/
def ofLookup (get : String → Option Json) : Except String CategorySection := do
  let demand {α : Type} (key : String) (read : Option Json → Option α) : Except String α :=
    match read (get key) with
    | some a => .ok a
    | none => .error key
  let text (key : String) : Except String (Option String) := demand key (Json.optional? Json.text?)
  let categorySelector ← text "category_selector"
  let confirmSelector ← text "confirm_selector"
  let categoryMap ← demand "category_map" (Json.optional? some)
  let categoryMode ← text "category_mode"
  let optionSelector ← text "category_option_selector"
  let stepsBeforeConfirm ← demand "steps_before_confirm" fun
    -- An explicit null is no list, although it stands for an absent text.
    | none => some []
    | some j => j.array?
  let successSelector ← text "confirm_success_selector"
  return ⟨categorySelector, confirmSelector, categoryMap, categoryMode, optionSelector,
    stepsBeforeConfirm, successSelector⟩

/-- A section from an object, or from an array that lists its members in order. -/
def ofJson : Json → Except String CategorySection
  | .object members => ofLookup fun key => members.lookup key
  | .array items =>
    if memberNames.length < items.length then .error "length"
    else ofLookup fun key => (memberNames.zip items).lookup key
  | _ => .error "form"

/-- A section that may be absent; an absent one says nothing. -/
def ofOptional : Option Json → Except String CategorySection
  | none | some .null => .ok {}
  | some j => ofJson j

end CategorySection

/-- The section on categories. -/
def FlowFile.category (file : FlowFile) (w : Wording) : Except Fault CategorySection :=
  let given := file.section? applySection
  (CategorySection.ofOptional given).mapError fun what =>
    .config (.malformedApply (w.category what (given.getD .null)))

end FlowPilot
