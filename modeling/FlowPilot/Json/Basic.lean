import FlowPilot.Number.Reading

/-!
# JSON values

## Main definitions

* `Json.Number`: integers are kept apart from doubles.
* `Json`: the values. The members of an object are sorted by key.
* `Json.get?`: the member of an object.
* `Json.ofMembers`: an object from members in any order, the last of equal keys winning.
-/

namespace FlowPilot

/-- A number of a JSON text: an integer of at most sixty-four bits, or a double. -/
inductive Json.Number
  | int (value : Int)
  | real (value : Binary64)
  deriving DecidableEq, Repr

inductive Json
  | null
  | bool (value : Bool)
  | number (value : Json.Number)
  | text (value : String)
  | array (items : List Json)
  | object (members : List (String × Json))
  deriving Repr

namespace Json

/-- The members of an object in key order. -/
abbrev Members := List (String × Json)

/-- The double nearest to a number. -/
def Number.toBinary64 : Number → Binary64
  | int i => .ofInt i
  | real x => x

def nat (n : Nat) : Json := number (.int n)

def get? (key : String) : Json → Option Json
  | object members => members.lookup key
  | _ => none

def text? : Json → Option String
  | text s => some s
  | _ => none

def array? : Json → Option (List Json)
  | array items => some items
  | _ => none

def object? : Json → Option Members
  | object members => some members
  | _ => none

/-- The name of a choice and what belongs to it: a text is a name with nothing, an object with one
member is the key with the value. -/
def tag? : Json → Option (String × Json)
  | text s => some (s, null)
  | object [(key, value)] => some (key, value)
  | _ => none

/-- An optional member of a given form: absent and null are nothing, another form is refused. -/
def optional? {α : Type} (read : Json → Option α) : Option Json → Option (Option α)
  | none | some null => some none
  | some j => (read j).map some

/-- An optional value, absent as null. -/
def orNull {α : Type} (write : α → Json) : Option α → Json
  | none => null
  | some a => write a

def texts (items : List String) : Json := array (items.map text)

/-- Sets one member, keeping the key order. -/
def insertMember (key : String) (value : Json) : Members → Members
  | [] => [(key, value)]
  | (k, v) :: rest =>
    if key < k then (key, value) :: (k, v) :: rest
    else if key = k then (key, value) :: rest
    else (k, v) :: insertMember key value rest

/-- Members in key order; of equal keys the last one counts. -/
def sortMembers (members : Members) : Members :=
  members.foldl (fun sorted (k, v) => insertMember k v sorted) []

/-- An object from its members in any order. -/
def ofMembers (members : Members) : Json := object (sortMembers members)

end Json

end FlowPilot
