import FlowPilot.Page.Dom
import FlowPilot.Text.Blank

/-!
# Selectors

A selector is a list of alternatives between commas. An alternative is a chain of compounds between
blanks, of which the last one describes the element and the others its ancestors; the child sign
`>` counts as a blank. A compound is a tag followed by conditions on the number sign, on classes
and on attributes. A label of an element stands for itself.

## Main definitions

* `Selector.Compound`: conditions on one element.
* `Selector.ofText`: reading a selector.
* `Selector.climbs`: the search for ancestors.
* `Selector.matchesNode`: whether a selector matches a node.
-/

namespace FlowPilot

namespace Selector

inductive Condition
  | hasTag (name : String)
  | hasId (name : String)
  | hasClass (name : String)
  | hasAttribute (name : String)
  | attributeIs (name value : String)
  deriving DecidableEq, Repr

def Condition.holds (e : Element) : Condition → Bool
  | hasTag name => name == "" || name == "*" || e.tag == name
  | hasId name => e.id == some name
  | hasClass name => e.classes.contains name
  | hasAttribute name => (e.attributes.lookup name).isSome
  | attributeIs name value => e.attributes.lookup name == some value

/-- The characters that end a name inside a compound. -/
def isNameEnd (c : Char) : Bool := c == '#' || c == '.' || c == '['

def trimmed (cs : List Char) : String := Text.trim (String.ofList cs)

/-- The condition between brackets. A value may stand between quotes. -/
def bracketCondition (inner : List Char) : Condition :=
  match Text.cutAt (· == '=') inner with
  | some (name, value) =>
    .attributeIs (trimmed name)
      (String.ofList (Text.dropEndsWhile (fun c => c == '"' || c == '\'') value))
  | none => .hasAttribute (trimmed inner)

/-- The conditions of a compound after its tag, in at most `fuel` steps. -/
def conditionsFrom : (fuel : Nat) → List Char → Option (List Condition)
  | _, [] => some []
  | 0, _ :: _ => none
  | fuel + 1, c :: cs =>
    let name := String.ofList (cs.takeWhile fun c => !isNameEnd c)
    let rest := cs.dropWhile fun c => !isNameEnd c
    match c with
    | '#' => (conditionsFrom fuel rest).map (.hasId name :: ·)
    | '.' => (conditionsFrom fuel rest).map (.hasClass name :: ·)
    | '[' =>
      match Text.cutAt (· == ']') cs with
      | some (inner, rest) => (conditionsFrom fuel rest).map (bracketCondition inner :: ·)
      | none => none
    | _ => none

/-- The conditions on one element. -/
abbrev Compound := List Condition

/-- A compound from its text, if it is well formed. -/
def compound? (cs : List Char) : Option Compound :=
  let rest := cs.dropWhile fun c => !isNameEnd c
  (conditionsFrom rest.length rest).map
    (.hasTag (String.ofList (cs.takeWhile fun c => !isNameEnd c)) :: ·)

/-- Whether an element meets all conditions of a compound; one that is not well formed is met by no
element. -/
def compoundHolds (compound : Option Compound) (e : Element) : Bool :=
  match compound with
  | some conditions => conditions.all (·.holds e)
  | none => false

structure Alternative where
  text : String
  /-- its compounds, the one for the element itself first -/
  compounds : List (Option Compound)
  deriving DecidableEq, Repr

def alternativeOf (cs : List Char) : Alternative :=
  let cs := Text.dropEndsWhile Text.isBlank cs
  ⟨String.ofList cs, (((Text.words cs).filter (· ≠ ['>'])).map compound?).reverse⟩

end Selector

structure Selector where
  text : String
  alternatives : List Selector.Alternative
  deriving DecidableEq, Repr

namespace Selector

def ofText (s : String) : Selector := ⟨s, (Text.fields ',' s.toList).map alternativeOf⟩

/-- Whether ancestors for the compounds are found one above the other: each compound takes the
nearest ancestor that meets it. -/
def climbs : List (Option Compound) → List Element → Bool
  | [], _ => true
  | c :: cs, ancestors =>
    match ancestors.dropWhile fun e => !compoundHolds c e with
    | [] => false
    | _ :: above => climbs cs above

/-- The ancestors of a node below the root, nearest first. -/
def ancestorsBelowRoot (d : Dom) (n : Dom.Node) : List Element :=
  (n.lineage.filter (· ≠ Dom.root)).filterMap d.element?

/-- Whether an alternative matches a node of a page. -/
def Alternative.matchesNode (a : Alternative) (d : Dom) (n : Dom.Node) : Bool :=
  n.element.labels.contains a.text ||
    match a.compounds with
    | [] => false
    | own :: above => compoundHolds own n.element && climbs above (ancestorsBelowRoot d n)

/-- Whether a selector matches a node of a page. -/
def matchesNode (s : Selector) (d : Dom) (n : Dom.Node) : Bool :=
  n.element.labels.contains s.text || s.alternatives.any (·.matchesNode d n)

end Selector

end FlowPilot
