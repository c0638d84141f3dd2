import FlowPilot.Json.Basic
import FlowPilot.Number.Shortest

/-!
# JSON texts

## Main definitions

* `Json.compact`: a value on one line without blanks.
* `Json.pretty`: a value over several lines, two blanks deeper for each level.
-/

namespace FlowPilot.Json

/-- The two base-sixteen digits of a small code point. -/
def hexPair (n : Nat) : List Char := [Nat.digitChar (n / 16), Nat.digitChar (n % 16)]

/-- A character inside a JSON string: quotes, backslashes and control characters are escaped. -/
def escapedChar (c : Char) : List Char :=
  match c with
  | '"' => ['\\', '"']
  | '\\' => ['\\', '\\']
  | '\x08' => ['\\', 'b']
  | '\x0c' => ['\\', 'f']
  | '\n' => ['\\', 'n']
  | '\r' => ['\\', 'r']
  | '\t' => ['\\', 't']
  | c => if c.toNat < 32 then ['\\', 'u', '0', '0'] ++ hexPair c.toNat else [c]

def stringText (s : String) : List Char := '"' :: s.toList.flatMap escapedChar ++ ['"']

def Number.toText : Number → String
  | .int i => toString i
  | .real x => x.toText

def commaSeparated : List (List Char) → List Char
  | [] => []
  | [piece] => piece
  | piece :: rest => piece ++ ',' :: commaSeparated rest

mutual

/-- The characters of a value without blanks. -/
def compactChars : Json → List Char
  | null => ['n', 'u', 'l', 'l']
  | bool true => ['t', 'r', 'u', 'e']
  | bool false => ['f', 'a', 'l', 's', 'e']
  | number n => n.toText.toList
  | text s => stringText s
  | array items => '[' :: commaSeparated (compactItems items) ++ [']']
  | object members => '\x7b' :: commaSeparated (compactMembers members) ++ ['\x7d']

/-- The items of an array, each without blanks. -/
def compactItems : List Json → List (List Char)
  | [] => []
  | item :: rest => compactChars item :: compactItems rest

/-- The members of an object, each without blanks. -/
def compactMembers : List (String × Json) → List (List Char)
  | [] => []
  | (key, value) :: rest => (stringText key ++ ':' :: compactChars value) :: compactMembers rest

end

/-- A value on one line without blanks. -/
def compact (j : Json) : String := String.ofList (compactChars j)

/-- A line break followed by the blanks of a level. -/
def newLine (level : Nat) : List Char := '\n' :: List.replicate (2 * level) ' '

/-- Pieces on lines of their own inside brackets; nothing between the brackets if there is none. -/
def bracketed (opening closing : Char) (level : Nat) : List (List Char) → List Char
  | [] => [opening, closing]
  | pieces =>
    opening :: commaSeparated (pieces.map (newLine (level + 1) ++ ·)) ++ newLine level ++ [closing]

mutual

/-- The characters of a value that starts on a line of the given level. -/
def prettyChars (level : Nat) : Json → List Char
  | array items => bracketed '[' ']' level (prettyItems (level + 1) items)
  | object members => bracketed '\x7b' '\x7d' level (prettyMembers (level + 1) members)
  | null => compactChars null
  | bool b => compactChars (bool b)
  | number n => compactChars (number n)
  | text s => compactChars (text s)

def prettyItems (level : Nat) : List Json → List (List Char)
  | [] => []
  | item :: rest => prettyChars level item :: prettyItems level rest

def prettyMembers (level : Nat) : List (String × Json) → List (List Char)
  | [] => []
  | (key, value) :: rest =>
    (stringText key ++ ':' :: ' ' :: prettyChars level value) :: prettyMembers level rest

end

/-- A value over several lines. -/
def pretty (j : Json) : String := String.ofList (prettyChars 0 j)

end FlowPilot.Json
