import FlowPilot.Text.Case
import FlowPilot.Text.Search

/-!
# Well-formed addresses

An address has an optional scheme, an authority (a host, perhaps with a user and a port) and, after
a scheme, a path with a query. Only its form is checked.

## Main definitions

* `Uri.Authority`: what must be remembered while an authority is read.
* `Uri.isWellFormed`: whether a text is an address.
-/

namespace FlowPilot.Uri

/-- Whether the code of a character is in a range. -/
def inRange (c : Char) (low high : Nat) : Bool := decide (low ≤ c.toNat ∧ c.toNat ≤ high)

def isAlphanumeric (c : Char) : Bool :=
  inRange c 0x30 0x39 || inRange c 0x41 0x5A || inRange c 0x61 0x7A

def isSchemeChar (c : Char) : Bool := isAlphanumeric c || ['+', '-', '.', '~'].contains c

/-- What an authority is made of, colons and the signs around hosts and users apart. -/
def isAuthorityChar (c : Char) : Bool :=
  isAlphanumeric c
    || ['!', '$', '&', '\'', '(', ')', '*', '+', ',', '-', '.', ';', '=', '_', '~'].contains c

def isPathChar (c : Char) : Bool :=
  inRange c 0x21 0x22 || inRange c 0x24 0x3B || c == '=' || inRange c 0x40 0x5F
    || inRange c 0x61 0x7E

def isQueryChar (c : Char) : Bool :=
  c == '!' || inRange c 0x24 0x3B || c == '=' || inRange c 0x3F 0x7E

/-- A query; what follows a hash sign does not matter. -/
def isQuery : List Char → Bool
  | [] => true
  | '#' :: _ => true
  | c :: rest => isQueryChar c && isQuery rest

/-- A path and perhaps a query. -/
def isPath : List Char → Bool
  | [] => true
  | '?' :: rest => isQuery rest
  | '#' :: _ => true
  | c :: rest => isPathChar c && isPath rest

/-- What must be remembered while an authority is read. -/
structure Authority where
  /-- how many colons were read since the user or the bracketed host -/
  colons : Nat := 0
  opened : Bool := false
  closed : Bool := false
  /-- whether a percent sign was read since the user or the bracketed host -/
  percent : Bool := false
  /-- whether an at sign was read last -/
  atSign : Bool := false
  deriving DecidableEq, Repr

namespace Authority

/-- The greatest number of colons, which a bracketed host has. -/
def maxColons : Nat := 8

def step (a : Authority) (c : Char) : Option Authority :=
  let a := { a with atSign := c == '@' }
  match c with
  | ':' => if maxColons ≤ a.colons then none else some { a with colons := a.colons + 1 }
  | '[' => if a.percent || a.opened then none else some { a with opened := true }
  | ']' =>
    if !a.opened || a.closed then none
    else some { a with closed := true, colons := 0, percent := false }
  | '@' => some { a with colons := 0, percent := false }
  | '%' => some { a with percent := true }
  | c => if isAuthorityChar c then some a else none

/-- Whether an authority may end here: brackets match, at most one colon stands before a port, a
host follows the user, and percent signs stand only in users and brackets. -/
def mayEnd (a : Authority) : Bool :=
  a.opened == a.closed && decide (a.colons ≤ 1) && !a.atSign && !a.percent

end Authority

def isDelimiter (c : Char) : Bool := ['/', '?', '#'].contains c

/-- Reads an authority and returns what follows it. -/
def afterAuthority (a : Authority) : List Char → Option (List Char)
  | [] => if a.mayEnd then some [] else none
  | c :: rest =>
    if isDelimiter c then if a.mayEnd then some (c :: rest) else none
    else (a.step c).bind fun a => afterAuthority a rest

def isAuthority (cs : List Char) : Bool := afterAuthority {} cs == some []

def maxSchemeLength : Nat := 64

/-- A scheme with the signs behind it, and the rest. -/
def cutScheme (cs : List Char) : Option (List Char × List Char) :=
  let scheme := cs.takeWhile isSchemeChar
  (Text.dropStart? [':', '/', '/'] (cs.drop scheme.length)).map (scheme, ·)

/-- An authority that is not empty, then a path. -/
def isHierarchy (cs : List Char) : Bool :=
  match cs with
  | [] => false
  | c :: _ => !isDelimiter c && (afterAuthority {} cs).any isPath

/-- The greatest size of an address in bytes. -/
def maxSize : Nat := 65534

def isWellFormed (s : String) : Bool :=
  decide (s.utf8ByteSize ≤ maxSize) &&
    match s.toList with
    | [] => false
    | ['*'] => true
    | '/' :: path => isPath path
    | cs =>
      match cutScheme cs with
      -- An address with a scheme is not tried as a mere authority again.
      | some (scheme, rest) => decide (scheme.length ≤ maxSchemeLength) && isHierarchy rest
      | none => isAuthority cs

end FlowPilot.Uri
