import FlowPilot.Json.Printer
import FlowPilot.Template.Placeholder

/-!
# Variables and rendering

## Main definitions

* `Bindings`: variables and their texts.
* `Bindings.fill`: a template with each placeholder replaced by the text of its variable.
* `Bindings.fillJson`: the same in every text of a JSON value.
* `Bindings.unbound`: the variables that a JSON value names and that have no text.
-/

namespace FlowPilot

/-- Variables and their texts; a variable occurs once. -/
structure Bindings where
  /-- the variables, the one set last first -/
  entries : List (String × String)
  deriving DecidableEq, Repr

namespace Bindings

def empty : Bindings := ⟨[]⟩

def get? (b : Bindings) (key : String) : Option String := b.entries.lookup key

/-- The text of a variable, empty when it has none. -/
def text (b : Bindings) (key : String) : String := (b.get? key).getD ""

def unset (b : Bindings) (key : String) : Bindings := ⟨b.entries.filter (·.1 != key)⟩

def set (b : Bindings) (key value : String) : Bindings := ⟨(key, value) :: (b.unset key).entries⟩

def size (b : Bindings) : Nat := b.entries.length

/-- A JSON value as the text of a variable: a text as it is, anything else in compact form. Null
forgets the variable. -/
def setJson (b : Bindings) (key : String) : Json → Bindings
  | .null => b.unset key
  | .text s => b.set key s
  | j => b.set key j.compact

def overlay (b : Bindings) (vars : Json.Members) : Bindings :=
  -- Later variables go over earlier ones, and null takes one away.
  vars.foldl (fun b (key, value) => b.setJson key value) b

/-- What a piece of a template becomes. -/
def fillPiece (b : Bindings) : Template.Piece → List Char
  | .literal c => [c]
  | .hole key => (b.text key).toList

/-- A template with each placeholder replaced by the text of its variable. Texts are inserted as
they are: placeholders inside them stay. -/
def fill (b : Bindings) (template : String) : String :=
  String.ofList ((Template.pieces template).flatMap b.fillPiece)

mutual

/-- Fills every text inside a JSON value; keys and all other values stay. -/
def fillJson (b : Bindings) : Json → Json
  | .text s => .text (b.fill s)
  | .array items => .array (b.fillItems items)
  | .object members => .object (b.fillMembers members)
  | .null => .null
  | .bool v => .bool v
  | .number n => .number n

def fillItems (b : Bindings) : List Json → List Json
  | [] => []
  | item :: rest => b.fillJson item :: b.fillItems rest

def fillMembers (b : Bindings) : List (String × Json) → List (String × Json)
  | [] => []
  | (key, value) :: rest => (key, b.fillJson value) :: b.fillMembers rest

end

end Bindings

namespace Template

mutual

/-- The keys of all placeholders inside a JSON value, in reading order. -/
def keysIn : Json → List String
  | .text s => keys s
  | .array items => keysInItems items
  | .object members => keysInMembers members
  | .null | .bool _ | .number _ => []

/-- The keys inside the items of an array. -/
def keysInItems : List Json → List String
  | [] => []
  | item :: rest => keysIn item ++ keysInItems rest

/-- The keys inside the members of an object. -/
def keysInMembers : List (String × Json) → List String
  | [] => []
  | (_, value) :: rest => keysIn value ++ keysInMembers rest

end

end Template

namespace Bindings

/-- The variables that a JSON value names and that have no text, each once, in reading order. -/
def unbound (b : Bindings) (j : Json) : List String :=
  (((Template.keysIn j).filter fun key => (b.get? key).isNone)).eraseDups

end Bindings

/-- What happens to a placeholder whose variable has no text: it becomes the empty text, or
rendering fails. -/
inductive RenderMode
  | lenient
  | strict
  deriving DecidableEq, Repr

end FlowPilot
