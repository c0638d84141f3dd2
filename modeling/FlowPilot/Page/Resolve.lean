import FlowPilot.Page.Locator
import FlowPilot.Page.Selector

/-!
# Resolving locators

## Main definitions

* `Dom.resolve`: the nodes that a locator names, in document order.
-/

namespace FlowPilot.Dom

/-- The nodes below some nodes that a selector matches. -/
def below (d : Dom) (scopes : List Nat) (selector : String) : List Nat :=
  let s := Selector.ofText selector
  (d.nodes.filter fun n => n.lineage.any scopes.contains && s.matchesNode d n).map (·.id)

/-- The nodes that one part of a locator names, inside those that the parts before it name. -/
def resolvePart (d : Dom) (scopes : List Nat) (part : Locator.Part) : List Nat :=
  let found := if part.selector = Locator.scope then scopes else d.below scopes part.selector
  match part.index with
  -- The index is among all nodes found, not among those inside each scope.
  | some i => found[i]?.toList
  | none => found

/-- The nodes that a locator names, in document order. -/
def resolve (d : Dom) (l : Locator) : List Nat := l.parts.foldl d.resolvePart [root]

/-- The first node that a locator names. -/
def first? (d : Dom) (l : Locator) : Option Nat := (d.resolve l).head?

end FlowPilot.Dom
