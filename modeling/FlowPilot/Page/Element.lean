import FlowPilot.Number.Binary64
import FlowPilot.Page.Vocabulary

/-!
# Elements

## Main definitions

* `Element`: what is known of one element of a page.
* `Element.Effect`: what happens when an element accepts a click.
-/

namespace FlowPilot

/-- What happens when an element accepts a click. Elements are named by their numbers. -/
inductive Element.Effect
  | navigate (url : String)
  | uncover (node : Nat)
  | cover (node : Nat)
  | setWidth (node : Nat) (width : Binary64)
  | setText (node : Nat) (text : String)
  deriving DecidableEq, Repr

structure Element where
  tag : String
  id : Option String := none
  classes : List String := []
  /-- the other attributes -/
  attributes : List (String × String) := []
  text : String := ""
  /-- selectors that match the element whatever they mean -/
  labels : List String := []
  /-- the options of a list, each with its value and its label -/
  options : List (String × String) := []
  /-- what was typed or chosen -/
  value : String := ""
  hidden : Bool := false
  disabled : Bool := false
  width : Binary64 := .ofNat 100
  display : String := "block"
  /-- the kinds of clicks that the element refuses -/
  refused : List ClickKind := []
  /-- whether the element cannot be scrolled to -/
  offLayout : Bool := false
  /-- whether the text of the element cannot be read -/
  unreadable : Bool := false
  onClick : List Element.Effect := []
  deriving DecidableEq, Repr

namespace Element

/-- Whether the element itself is shown, whatever is around it. -/
def isShown (e : Element) : Bool := !e.hidden && e.display != "none"

/-- The value of the option that is asked for. -/
def optionValue? (e : Element) (wanted : SelectOption) : Option String :=
  (e.options.find? fun (value, label) =>
    match wanted with
    | .value v => value == v
    | .label l => label == l).map (·.1)

end Element

end FlowPilot
