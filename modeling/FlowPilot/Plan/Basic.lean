import FlowPilot.Json.Printer

/-!
# Plans

A plan lists the invoices to classify. Its items keep every member that the coordinator sent.

## Main definitions

* `PlanItem`: one invoice, with `text` and `firstText` to read its members.
* `Plan`: the plan, with `items` and the clamped access `itemAt?`.
* `Plan.ofJson?`, `Plan.toJson`: reading and writing.
-/

namespace FlowPilot

structure PlanItem where
  members : Json.Members
  deriving Repr

namespace PlanItem

/-- An item from any JSON value; only objects have members. -/
def ofJson (j : Json) : PlanItem := ⟨(j.object?).getD []⟩

def toJson (item : PlanItem) : Json := .object item.members

/-- A member as text; absent, null and false are the empty text. -/
def text (item : PlanItem) (key : String) : String :=
  match item.members.lookup key with
  | none | some .null | some (.bool false) => ""
  | some (.text s) => s
  | some other => other.compact

/-- The first of the members whose text is not empty. -/
def firstText (item : PlanItem) (keys : List String) : String :=
  ((keys.map item.text).find? (· ≠ "")).getD ""

end PlanItem

/-- A plan as the coordinator sends it. -/
structure Plan where
  importId : Option Json
  generatedAt : Option String
  /-- the greatest number of invoices -/
  invoiceLimit : Option Nat
  /-- how many items there are in all -/
  totalItems : Option Nat
  /-- the items under their first name -/
  acciones : Option (List PlanItem)
  /-- the items under their second name -/
  actions : Option (List PlanItem)
  deriving Repr

namespace Plan

/-- The items; the first name goes before the second. -/
def items (plan : Plan) : List PlanItem := (plan.acciones.orElse fun _ => plan.actions).getD []

/-- The item at an index, the last one beyond the end. -/
def itemAt? (plan : Plan) (index : Nat) : Option PlanItem :=
  plan.items[min index (plan.items.length - 1)]?

/-- A whole number of at most sixty-four bits. -/
def word? : Json → Option Nat
  | .number (.int i) => if 0 ≤ i ∧ i ≤ maxWord then some i.toNat else none
  | _ => none

def items? : Json → Option (List PlanItem)
  | .array items => items.mapM fun j => j.object?.map PlanItem.mk
  | _ => none

def ofFields? (importId generatedAt invoiceLimit totalItems acciones actions : Option Json) :
    Option Plan := do
  let importId ← Json.optional? some importId
  let generatedAt ← Json.optional? Json.text? generatedAt
  let invoiceLimit ← Json.optional? word? invoiceLimit
  let totalItems ← Json.optional? word? totalItems
  let acciones ← Json.optional? items? acciones
  let actions ← Json.optional? items? actions
  some ⟨importId, generatedAt, invoiceLimit, totalItems, acciones, actions⟩

/-- A plan from an object, or from an array that lists its members in order. -/
def ofJson? : Json → Option Plan
  | .object members =>
    ofFields? (members.lookup "importacion_id") (members.lookup "generated_at")
      (members.lookup "factura_limit") (members.lookup "total_items")
      (members.lookup "acciones") (members.lookup "actions")
  | .array fields =>
    if 6 < fields.length then none
    else ofFields? fields[0]? fields[1]? fields[2]? fields[3]? fields[4]? fields[5]?
  | _ => none

def toJson (plan : Plan) : Json :=
  let list (items : List PlanItem) : Json := .array (items.map PlanItem.toJson)
  .ofMembers
    [("importacion_id", plan.importId.getD .null),
     ("generated_at", Json.orNull .text plan.generatedAt),
     ("factura_limit", Json.orNull .nat plan.invoiceLimit),
     ("total_items", Json.orNull .nat plan.totalItems),
     ("acciones", Json.orNull list plan.acciones),
     ("actions", Json.orNull list plan.actions)]

end Plan

end FlowPilot
