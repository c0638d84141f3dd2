import FlowPilot.Json.Printer
import FlowPilot.Page.Vocabulary
import FlowPilot.Text.Blank

/-!
# Fields of a step template

Selectors and names must be texts. Texts to type, flags, times and lists are read from whatever
stands there, because a placeholder leaves a text where a number or a flag is meant.

## Main definitions

* `Step.plainText`: a field that must be a text.
* `Step.anyText`, `Step.textList`, `Step.flag`, `Step.real`, `Step.time`: fields that are read from
  any value.
* `Step.choice`, `Step.templates`, `Step.objectMembers`: fields of other fixed forms.
-/

namespace FlowPilot

/-- A load state from its name in flow files. -/
def LoadState.ofJson? (j : Json) : Option LoadState :=
  match j.tag? with
  | some (name, .null) => ofName? name
  | _ => none

namespace Step

/-- What reading a field gives; a field of a wrong form is named. -/
abbrev Reading := Except String

/-- The error for a field of a wrong form. -/
def demand {α : Type} (key : String) : Option α → Reading α
  | some a => .ok a
  | none => .error key

/-- A field that must be a text. -/
def plainText (fields : Json.Members) (key : String) : Reading (Option String) :=
  demand key (Json.optional? Json.text? (fields.lookup key))

/-- A name from a fixed list, alone or as the key of an object that holds nothing. -/
def tagged? {α : Type} (ofName? : String → Option α) (j : Json) : Option α :=
  match j.tag? with
  | some (name, .null) | some (name, .object []) => ofName? name
  | _ => none

/-- A field that must name one of a fixed list. -/
def choice {α : Type} (ofName? : String → Option α) (fields : Json.Members) (key : String) :
    Reading (Option α) :=
  demand key (Json.optional? (tagged? ofName?) (fields.lookup key))

/-- A field that must be a list of step templates; none when it is absent. -/
def templates (fields : Json.Members) (key : String) : Reading (List Json) :=
  match fields.lookup key with
  | none => .ok []
  | some j => demand key j.array?

/-- A field that must be an object; empty when it is absent. -/
def objectMembers (fields : Json.Members) (key : String) : Reading Json.Members :=
  match fields.lookup key with
  | none => .ok []
  | some j => demand key j.object?

/-- A value as text: a text as it is, anything else in compact form. -/
def valueText? : Json → Option String
  | .null => none
  | .text s => some s
  | j => some j.compact

/-- A field as text, whatever it is. -/
def anyText (fields : Json.Members) (key : String) : Option String :=
  (fields.lookup key).bind valueText?

/-- A field as a list of texts: a list gives its items, a single value a list of one. -/
def textList (fields : Json.Members) (key : String) : List String :=
  match fields.lookup key with
  | none => []
  | some (.array items) => items.filterMap valueText?
  -- A lone text is a list of one; null is the empty list.
  | some j => (valueText? j).toList

/-- The texts that mean no, besides blank ones. -/
def negations : List String := ["", "false", "0", "no", "off"]

/-- A field as a flag: null, zero and the texts that mean no are false. -/
def flag (fields : Json.Members) (key : String) : Bool :=
  match fields.lookup key with
  | none | some .null => false
  | some (.bool b) => b
  | some (.number n) => !n.toBinary64.isZero
  | some (.text s) => !negations.contains (Text.asciiLower (Text.trim s))
  | some _ => true

/-- A field as a finite number, written as a number or as a text; anything else is nothing. -/
def real (fields : Json.Members) (key : String) : Option Binary64 :=
  (match fields.lookup key with
    | some (.number n) => some n.toBinary64
    | some (.text s) => binary64? (Text.trim s)
    | _ => none).filter Binary64.isFinite

/-- A field as a time: the whole part of a number that is not negative. -/
def time (fields : Json.Members) (key : String) : Option Nat :=
  ((real fields key).filter (Binary64.le (.zero false))).map (Binary64.floorUpTo maxWord)

end Step

end FlowPilot
