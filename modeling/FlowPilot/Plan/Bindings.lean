import FlowPilot.Expense
import FlowPilot.Invoice
import FlowPilot.Plan.Basic
import FlowPilot.Template.Bindings

/-!
# Variables of a plan item

## Main definitions

* `PlanItem.bindings`: the variables that the steps of a flow see while an item is worked on.
-/

namespace FlowPilot.PlanItem

/-- The members that become variables as they are. -/
def plainKeys : List String :=
  ["proveedor_id", "proveedor_ruc", "factura_id", "clave_acceso", "categoria_id",
   "categoria_nombre", "confianza"]

/-- The members that name the wanted category, the most telling first. -/
def categoryKeys : List String := ["categoria_objetivo", "categoria_nombre", "categoria_id"]

/-- The spellings of the period, in order of preference. -/
def periodKeys : List String := ["periodoTarget", "periodo_target", "periodo"]

/-- The variables of an item, overridden by `extras`. -/
def bindings (item : PlanItem) (extras : Json.Members) : Bindings :=
  let category := item.firstText categoryKeys
  let number := Invoice.number (item.text "numero_factura") (item.text "clave_acceso")
  let hint := Expense.hint? category
  let plain := plainKeys.foldl (fun b key => b.set key (item.text key)) Bindings.empty
  let derived :=
    [("categoria_objetivo", category),
     ("periodoTarget", item.firstText periodKeys),
     ("numero_factura_compacto", Invoice.compact number),
     ("numero_factura", number),
     ("categoria_panel", (hint.map (·.panel)).getD ""),
     ("categoria_label", (hint.map (·.label)).getD category)]
  (derived.foldl (fun b (key, value) => b.set key value) plain).overlay extras

end FlowPilot.PlanItem
