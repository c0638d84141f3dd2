import FlowPilot.Pattern.CharSet

/-!
# Patterns

A pattern describes pieces of a text. It is matched by following all its ways through the text at
once: from a set of places to the set of places that it can lead to.

## Main definitions

* `Pattern`: the patterns.
* `Pattern.ends`: the places that a pattern leads to.
* `Pattern.occursIn`: whether a pattern matches somewhere in a text.
-/

namespace FlowPilot

/-- A condition on a place between two characters. -/
inductive Look
  | textStart
  | textEnd
  | lineStart
  | lineEnd
  /-- the start of a line that may also end with a carriage return -/
  | looseLineStart
  /-- the end of a line that may also end with a carriage return -/
  | looseLineEnd
  | wordEdge (unicode : Bool)
  | noWordEdge (unicode : Bool)
  | wordStart (unicode : Bool)
  | wordEnd (unicode : Bool)
  | noWordBefore (unicode : Bool)
  | noWordAfter (unicode : Bool)
  deriving DecidableEq, Repr

namespace Look

def isWordChar (unicode : Bool) (c : Option Char) : Bool :=
  c.any (if unicode then CharSet.word else CharSet.asciiWord).contains

/-- Whether a condition holds between two characters, of which either may be missing. -/
def holds (before after : Option Char) : Look → Bool
  | textStart => before.isNone
  | textEnd => after.isNone
  | lineStart => before.isNone || before == some '\n'
  | lineEnd => after.isNone || after == some '\n'
  | looseLineStart =>
    before.isNone || before == some '\n' || (before == some '\r' && after != some '\n')
  | looseLineEnd =>
    after.isNone || after == some '\r' || (after == some '\n' && before != some '\r')
  | wordEdge u => isWordChar u before != isWordChar u after
  | noWordEdge u => isWordChar u before == isWordChar u after
  | wordStart u => !isWordChar u before && isWordChar u after
  | wordEnd u => isWordChar u before && !isWordChar u after
  | noWordBefore u => !isWordChar u before
  | noWordAfter u => !isWordChar u after

end Look

inductive Pattern
  | empty
  | char (set : CharSet)
  | look (condition : Look)
  | seq (first second : Pattern)
  | alt (first second : Pattern)
  /-- at least so often, and at most so often if there is a limit -/
  | times (p : Pattern) (least : Nat) (most : Option Nat)
  deriving DecidableEq, Repr

namespace Pattern

/-- Adds the places that are not there yet. -/
def join (places more : List Nat) : List Nat := places ++ more.filter (!places.contains ·)

/-- What a step leads to when it is taken so often. -/
def repeated (step : List Nat → List Nat) : Nat → List Nat → List Nat
  | 0, places => places
  | n + 1, places => if places.isEmpty then [] else repeated step n (step places)

/-- What a step leads to when it is taken at most so often. -/
def upTo (step : List Nat → List Nat) : Nat → List Nat → List Nat
  | 0, places => places
  | n + 1, places =>
    let more := join places (step places)
    -- Nothing new: further steps lead nowhere else.
    if more.length = places.length then places else upTo step n more

/-- The places that a pattern leads to from some places of a text. -/
def ends (text : Array Char) : Pattern → List Nat → List Nat
  | empty, places => places
  | char set, places => (places.filter fun i => text[i]?.any set.contains).map (· + 1)
  | look condition, places =>
    places.filter fun i => condition.holds (if i = 0 then none else text[i - 1]?) text[i]?
  | seq first second, places => ends text second (ends text first places)
  | alt first second, places => join (ends text first places) (ends text second places)
  | times p least most, places =>
    -- Without a limit, every further step must find a new place, of which there are so many.
    upTo (ends text p) ((most.map (· - least)).getD (text.size + 1))
      (repeated (ends text p) least places)

/-- Whether a pattern matches somewhere in a text. -/
def occursIn (p : Pattern) (text : String) : Bool :=
  let chars := text.toList.toArray
  !(p.ends chars (List.range (chars.size + 1))).isEmpty

end Pattern

end FlowPilot
