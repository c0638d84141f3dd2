import FlowPilot.Json.Printer
import FlowPilot.Text.BaseLetter
import FlowPilot.Text.Case
import FlowPilot.Text.Search

/-!
# Expense categories

A category is recognised by its key: the letters and numbers of its name without marks, in
capitals, with one underscore for whatever stands between them.

## Main definitions

* `Expense.key`: the key of a category name.
* `Expense.hint?`: how the portal shows a category.
* `Expense.choice?`: the option of a form that stands for a category.
-/

namespace FlowPilot.Expense

/-- The key of a category name. -/
def key (name : String) : String :=
  String.ofList (Text.joined ['_']
    ((Text.runsOf Text.isLetterOrNumber (name.toList.flatMap Text.baseLetters)).map
      (·.flatMap Text.capitalForm)))

/-- How the portal shows a category. -/
structure Hint where
  key : String
  panel : String
  label : String
  deriving DecidableEq, Repr

/-- The categories that the portal knows. -/
def hints : List Hint :=
  [⟨"VIVIENDA", "vivienda", "Vivienda"⟩,
   ⟨"EDUCACION_ARTE_Y_CULTURA", "educacion_arte_y_cultura", "Educación, Arte y Cultura"⟩,
   ⟨"SALUD", "salud", "Salud"⟩,
   ⟨"VESTIMENTA", "vestimenta", "Vestimenta"⟩,
   ⟨"ALIMENTACION", "alimentacion", "Alimentación"⟩,
   ⟨"TURISMO", "turismo", "Turismo"⟩]

def hint? (name : String) : Option Hint :=
  let k := key name
  hints.find? (·.key == k)

/-- An option of a form: what it sends, what it is called and what it shows. -/
structure Choice where
  value : Option String
  label : Option String
  /-- what is typed for it -/
  text : Option String
  deriving DecidableEq, Repr

/-- The text of a member that counts as given: not absent, null, false, empty or zero. -/
def given? (j : Option Json) : Option String :=
  match j with
  | none | some .null | some (.bool false) => none
  | some (.text s) => if s = "" then none else some s
  | some (.number n) => if n.toBinary64.isZero then none else some (Json.number n).compact
  | some other => some other.compact

/-- The option for a category in a map from names to options. A plain text is a label; an object
must give a value, a label or a text. -/
def choice? (name : String) (map : Json) : Option Choice :=
  match map.get? name with
  | some (.text s) => if s = "" then none else some ⟨none, some s, none⟩
  | some (.object members) =>
    let entry := Json.object members
    let choice : Choice :=
      ⟨given? (entry.get? "value"), given? (entry.get? "label"), given? (entry.get? "text")⟩
    if choice = ⟨none, none, none⟩ then none else some choice
  | _ => none

end FlowPilot.Expense
