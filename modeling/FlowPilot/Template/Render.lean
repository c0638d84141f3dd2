import FlowPilot.Fault
import FlowPilot.Template.Bindings

/-!
# Rendering

## Main definitions

* `Bindings.render`: a template filled in, where strict rendering refuses unset variables.
-/

namespace FlowPilot.Bindings

/-- A template with every placeholder filled. Strict rendering fails with one issue per unset
variable. -/
def render (b : Bindings) (mode : RenderMode) (template : Json) : Except Fault Json :=
  match mode, b.unbound template with
  | .strict, key :: keys => .error (.configInvalid ((key :: keys).map .unsetVariable))
  | _, _ => .ok (b.fillJson template)

end FlowPilot.Bindings
