import FlowPilot.Desk.Flow

/-!
# Choosing and confirming categories

## Main definitions

* `Desk.chooseCategory`: chooses the category of the current item, unconfirmed.
* `Desk.confirmCategory`: confirms it, and goes on to the next item.
-/

namespace FlowPilot

/-- How far a plan is worked off. -/
structure PlanPosition where
  index : Nat
  item : Option PlanItem
  deriving Repr

namespace Desk

/-- A selector from a template; it must not be blank when it is filled in. -/
def demandSelector (name : String) (bindings : Bindings) (template : Option String) :
    Except Fault Locator :=
  let selector := bindings.fill (template.getD "")
  if Text.isBlankText selector then .error (.missingField name)
  else .ok (Locator.ofSelector selector).first

/-- The wanted category: the first variable that names one. -/
def wantedCategory (bindings : Bindings) : Except Fault String :=
  match (PlanItem.categoryKeys.map bindings.text).find? (· ≠ "") with
  | some key => .ok key
  | none => .error (.precondition .noCategory)

def demandChoice (key : String) (s : CategorySection) : Except Fault Expense.Choice :=
  match Expense.choice? key (s.categoryMap.getD .null) with
  | some choice => .ok choice
  | none => .error (.notFound (.category key))

def fillCategory (target : Locator) (key : String) (choice : Expense.Choice) : Act Page String := do
  let text := ((choice.text <|> choice.label) <|> choice.value).getD key
  Page.fill target text
  return text

/-- Opens the list by a click and clicks the option. -/
def clickCategory (target : Locator) (key : String) (choice : Expense.Choice)
    (bindings : Bindings) (template : Option String) : Act Page String := do
  Page.click target false
  -- The option is named by two variables of its own, which its selector may use.
  let bindings := (bindings.set "value" (choice.value.getD "")).set "label"
    ((choice.label <|> choice.text).getD "")
  let option ← Act.ofExcept (demandSelector "apply.category_option_selector" bindings template)
  Page.click option false
  return ((choice.value <|> choice.label) <|> choice.text).getD key

def selectCategory (target : Locator) (key : String) (choice : Expense.Choice) :
    Act Page String := do
  let option : SelectOption :=
    match choice.value with
    | some value => .value value
    | none => .label ((choice.label <|> choice.text).getD key)
  Page.selectOption target option
  return option.key

/-- Chooses the category of the current item and returns what was chosen. -/
def chooseCategory (setup : Setup) : Act Desk String := do
  let item ← Act.ofExcept (← get).demandItem
  let file ← Act.ofExcept ((← get).demandFlow setup FlowFile.applySection)
  let s ← Act.ofExcept (file.category setup.host.wording)
  let bindings := bindingsFor item file
  unless s.stepsBeforeConfirm.isEmpty do
    -- The steps before the confirmation run before the choice already.
    discard (runSteps setup file (FlowFile.applySection ++ ".steps_before_confirm")
      s.stepsBeforeConfirm bindings)
  let key ← Act.ofExcept (wantedCategory bindings)
  let choice ← Act.ofExcept (demandChoice key s)
  let target ← Act.ofExcept (demandSelector "apply.category_selector" bindings s.categorySelector)
  onPage (match s.mode with
    | .fill => fillCategory target key choice
    | .click => clickCategory target key choice bindings s.optionSelector
    | .select => selectCategory target key choice)

/-- Goes on to the next item, if there is one. -/
def advance (d : Desk) : Desk :=
  if d.cursor + 1 < d.itemCount then { d with cursor := d.cursor + 1 } else d

def position (d : Desk) : PlanPosition := ⟨d.cursor, d.currentItem?⟩

/-- Confirms the category of the current item, waits for the success to show if the flow file says
how, and goes on to the next item. -/
def confirmCategory (setup : Setup) : Act Desk PlanPosition := do
  let item ← Act.ofExcept (← get).demandItem
  let file ← Act.ofExcept ((← get).demandFlow setup FlowFile.applySection)
  let s ← Act.ofExcept (file.category setup.host.wording)
  let bindings := bindingsFor item file
  let target ← Act.ofExcept (demandSelector "apply.confirm_selector" bindings s.confirmSelector)
  -- Not taken back when the success never shows; the desk then stays at the item.
  onPage (Page.click target false)
  match (s.successSelector.map bindings.fill).filter (!Text.isBlankText ·) with
  | some selector =>
    onPage (Page.waitFor (Locator.ofSelector selector).first .visible setup.limits.stepTimeout)
  | none => pure ()
  modify advance
  return (← get).position

end Desk

end FlowPilot
