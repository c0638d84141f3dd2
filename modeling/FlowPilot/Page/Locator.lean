import FlowPilot.Text.Blank

/-!
# Locators

A locator is a chain of selectors, each with an optional index. It names elements and is resolved
anew at every use.

## Main definitions

* `Locator.ofSelector`, `Locator.within`, `Locator.nth`, `Locator.first`: building chains.
* `Locator.toText`: the chain as it is shown.
-/

namespace FlowPilot

/-- A selector and the index of the element to keep, if not all. -/
structure Locator.Part where
  selector : String
  /-- the index of the element to keep -/
  index : Option Nat
  deriving DecidableEq, Repr

/-- A chain of selectors, outermost first. -/
structure Locator where
  parts : List Locator.Part
  deriving DecidableEq, Repr

namespace Locator

/-- The selector that keeps the elements found so far. -/
def scope : String := ":scope"

/-- A selector without blanks around it and without a leading `css=`. -/
def cleanSelector (selector : String) : String :=
  let trimmed := Text.trim selector
  match Text.dropStart? ['c', 's', 's', '='] trimmed.toList with
  | some rest => Text.trim (String.ofList rest)
  | none => trimmed

/-- All elements that a selector matches. -/
def ofSelector (selector : String) : Locator := ⟨[⟨cleanSelector selector, none⟩]⟩

/-- The elements inside this locator that a selector matches. -/
def within (l : Locator) (selector : String) : Locator :=
  ⟨l.parts ++ [⟨cleanSelector selector, none⟩]⟩

/-- The element at an index. A locator that ends in an index gets a part of its own. -/
def nth (l : Locator) (index : Nat) : Locator :=
  match l.parts.getLast? with
  | some ⟨selector, none⟩ => ⟨l.parts.dropLast ++ [⟨selector, some index⟩]⟩
  | _ => ⟨l.parts ++ [⟨scope, some index⟩]⟩

def first (l : Locator) : Locator := l.nth 0

def Part.toText (p : Part) : String :=
  match p.index with
  | some n => p.selector ++ " >> nth=" ++ toString n
  | none => p.selector

def toText (l : Locator) : String := " >> ".intercalate (l.parts.map Part.toText)

end Locator

end FlowPilot
