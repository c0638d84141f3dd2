import FlowPilot.Page.Vocabulary

/-!
# Interference

Any operation of a page or a browser may fail from outside, at any of its calls. What is said of
such a call is not up to the program.

## Main definitions

* `Interference`: which calls fail, in which words, and how many calls there were.
* `Interference.counted`: one more call.
-/

namespace FlowPilot

/-- Which calls of which operations fail. -/
structure Interference where
  /-- whether the call with a number fails; calls of one operation are counted from zero -/
  strikes : Operation → Nat → Bool
  /-- what is said of the call with a number if it fails -/
  words : Operation → Nat → String
  calls : List (Operation × Nat)

namespace Interference

def none : Interference := ⟨fun _ _ => false, fun _ _ => "", []⟩

/-- Interference of a single word, before any call. -/
def striking (strikes : Operation → Nat → Bool) : Interference :=
  ⟨strikes, fun _ _ => "injected", []⟩

def callsOf (i : Interference) (op : Operation) : Nat := (i.calls.lookup op).getD 0

/-- One more call of an operation. -/
def counted (i : Interference) (op : Operation) : Interference :=
  { i with calls := (op, i.callsOf op + 1) :: i.calls.filter (·.1 != op) }

/-- Whether the next call of an operation fails. -/
def strikesNext (i : Interference) (op : Operation) : Bool := i.strikes op (i.callsOf op)

/-- What is said of the next call of an operation if it fails. -/
def wordsNext (i : Interference) (op : Operation) : String := i.words op (i.callsOf op)

end Interference

end FlowPilot
