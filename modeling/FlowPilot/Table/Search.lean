import FlowPilot.Page.Operations
import FlowPilot.Table.MatchMode

/-!
# Rows and cells of a table

A row is found by its text, or by the text of one of its cells. Texts are compared in normal form,
and a text that cannot be read counts as empty. All rows are read before one is chosen; the first
one that fits is.

## Main definitions

* `Table.rows`: the rows of a table.
* `Table.findRow`: the first row that holds a text.
* `Table.findCell`: the first row whose cell at an index fits a text.
-/

namespace FlowPilot.Table

/-- The selector of the cells of a row. -/
def cellSelector : String := "td,th"

/-- The rows of a table and how many there are: those of its body, or else all. -/
def rows (table : Locator) : Act Page (Locator × Nat) := do
  let inBody := table.within "tbody tr"
  let n ← Page.count inBody
  if 0 < n then return (inBody, n)
  let all := table.within "tr"
  let n ← Page.count all
  return (all, n)

/-- The text of an element in normal form, empty when it cannot be read. -/
def normalTextOf (target : Locator) : StateM Page String := do
  return Text.normal (← (Page.innerText target).orUse "")

structure RowMatch where
  row : Locator
  index : Nat
  count : Nat
  deriving DecidableEq, Repr

/-- The first row that holds a text. `step` is named in the failure. -/
def findRow (table : Locator) (target step : String) : Act Page RowMatch := do
  let wanted := Text.normal target
  if wanted = "" then throw (.missingField "step.rowText")
  let (rows, n) ← rows table
  let texts ← (List.range n).mapM fun i => normalTextOf (rows.nth i)
  match texts.findIdx? (Text.contains · wanted) with
  | some i => return ⟨rows.nth i, i, n⟩
  | none => throw (.notFound (.row step target))

structure CellMatch where
  row : Locator
  cell : Locator
  rowIndex : Nat
  deriving DecidableEq, Repr

/-- The text of the cell at an index of a row, if the row has so many cells. -/
def cellText (row : Locator) (index : Nat) : StateM Page (Option String) := do
  let cells := row.within cellSelector
  let n ← (Page.count cells).orUse 0
  if n ≤ index then return none
  return some (← normalTextOf (cells.nth index))

/-- The first row whose cell at an index fits a text. `step` is named in the failure. -/
def findCell (table : Locator) (target : String) (index : Nat) (mode : MatchMode) (step : String) :
    Act Page CellMatch := do
  let wanted := Text.normal target
  if wanted = "" then throw (.missingField "step.cellText")
  let (rows, n) ← rows table
  let texts ← (List.range n).mapM fun i => cellText (rows.nth i) index
  -- A row with too few cells has no text here and fits nothing.
  match texts.findIdx? (·.any (mode.holds · wanted)) with
  | some i =>
    let row := rows.nth i
    return ⟨row, (row.within cellSelector).nth index, i⟩
  | none => throw (.notFound (.cell step target))

end FlowPilot.Table
