import FlowPilot.Action.Interaction
import FlowPilot.Page.Wait
import FlowPilot.Table.Search

/-!
# Clicks inside a table

A row is found by its text, or by the text of a cell. Inside the row or the cell the first link
that accepts a click is clicked; the cell and the row themselves are clicked only when the search
was for a cell or the step asks for it.

## Main definitions

* `Step.ClickRowAction.perform`, `Step.ClickTableCellLink.perform`.
-/

namespace FlowPilot.Step

open FlowPilot.Action (required cleaned noteUrl)
open Clicking (Fallback)

def attachedTable (selector : String) (timeout : Nat) : Act Page Locator := do
  let table := targetOf selector
  Page.waitFor table .attached timeout
  return table

/-- The row as something to click when nothing inside it accepts a click. -/
def rowFallback (asked : Bool) (row : Locator) : List Fallback :=
  if asked then [⟨"row", row⟩] else []

/-- Clicks inside the row that holds a text. -/
def ClickRowAction.perform (s : ClickRowAction) (timeout : Nat) : Act Page Clicking.Outcome := do
  let name := Kind.clickRowAction.name
  let selector ← Act.ofExcept (required "step.table" s.table)
  let rowText ← Act.ofExcept (required "step.rowText" s.rowText)
  let selectors := cleaned s.actionSelectors
  if selectors.isEmpty && !s.fallbackClick then throw (.missingField "step.actionSelectors")
  noteUrl s.logUrl
  let table ← attachedTable selector timeout
  let found ← Table.findRow table rowText name
  let outcome ← Clicking.clickWithFallback name (selectors.map found.row.within)
    (rowFallback s.fallbackClick found.row)
  noteUrl s.logUrl
  return outcome

/-- What is clicked in a table when a step does not say. -/
def usualLinks : List String := ["a[href]", "a[onclick]", "button[onclick]", "a", "button"]

def firstGiven (lists : List (List String)) : List String :=
  (lists.find? fun l => !l.isEmpty).getD []

/-- What a step looks for in a table. -/
inductive TableTarget
  | cell (text : String) (index : Nat)
  | row (text : String) (index : Option Nat)
  deriving DecidableEq, Repr

/-- What a step looks for in a table, and how. -/
def ClickTableCellLink.target (s : ClickTableCellLink) :
    Except Fault (TableTarget × MatchMode) := do
  let row := s.rowText.bind Text.trimmed?
  let cell := s.cellText.bind Text.trimmed?
  if row.isNone && cell.isNone then throw (.missingField "step.rowText|step.cellText")
  let mode ← MatchMode.ofField s.matchMode
  let index ← cellIndexOf s.cellIndex
  -- The cell goes before the row; a row is looked for only if there is no cell text.
  match cell, index with
  | some text, some index => return (.cell text index, mode)
  | some _, none => throw (.missingField "step.cellIndex")
  | none, index => return (.row (row.getD "") index, mode)

def cellAt (row : Locator) (index : Nat) : Act Page Locator := do
  let cells := row.within Table.cellSelector
  let n ← Page.count cells
  if n ≤ index then throw (.notFound (.cellIndex Kind.clickTableCellLink.name index n))
  return cells.nth index

/-- Where links are looked for, and what is clicked when there is none. -/
def ClickTableCellLink.place (s : ClickTableCellLink) (target : TableTarget) (mode : MatchMode)
    (table : Locator) : Act Page (Locator × List Fallback) := do
  let name := Kind.clickTableCellLink.name
  match target with
  | .cell text index =>
    let found ← Table.findCell table text index mode name
    return (found.cell, [⟨"cell", found.cell⟩, ⟨"row", found.row⟩])
  | .row text index =>
    let found ← Table.findRow table text name
    let fallbacks := rowFallback s.fallbackClick found.row
    match index with
    | some index => return (← cellAt found.row index, fallbacks)
    | none => return (found.row, fallbacks)

/-- Clicks a link inside a row or a cell. -/
def ClickTableCellLink.perform (s : ClickTableCellLink) (timeout : Nat) :
    Act Page Clicking.Outcome := do
  let selector ← Act.ofExcept (required "step.table" s.table)
  let (target, mode) ← Act.ofExcept s.target
  let links := firstGiven [cleaned s.targetSelectors, cleaned s.linkSelectors, usualLinks]
  noteUrl s.logUrl
  let table ← attachedTable selector timeout
  let (scope, fallbacks) ← s.place target mode table
  let outcome ← Clicking.clickWithFallback Kind.clickTableCellLink.name
    (links.map scope.within) fallbacks
  noteUrl s.logUrl
  return outcome

end FlowPilot.Step
