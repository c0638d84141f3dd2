import FlowPilot.Text.Blank
import FlowPilot.Text.Category

/-!
# Placeholders

A placeholder is two opening braces, a key of word characters, points and hyphens with blanks
around it, and two closing braces. There is no escape: every such text is a placeholder.

## Main definitions

* `Template.Piece`: a character that stays, or a placeholder.
* `Template.pieces`: a template read from left to right.
-/

namespace FlowPilot.Template

inductive Piece
  | literal (c : Char)
  | hole (key : String)
  deriving DecidableEq, Repr

def isKeyChar (c : Char) : Bool := Text.isWord c || c == '.' || c == '-'

/-- The placeholder that a text starts with: its key and what follows it. -/
def hole? (cs : List Char) : Option (String × List Char) :=
  match cs with
  | '\x7b' :: '\x7b' :: rest =>
    let rest := rest.dropWhile Text.isBlank
    let key := rest.takeWhile isKeyChar
    -- The key ends where its characters end; what follows must be the closing braces.
    match (rest.dropWhile isKeyChar).dropWhile Text.isBlank with
    | '\x7d' :: '\x7d' :: rest => if key.isEmpty then none else some (String.ofList key, rest)
    | _ => none
  | _ => none

/-- The pieces of a text without its first `skip` characters. -/
def piecesAfter : (skip : Nat) → List Char → List Piece
  | _, [] => []
  | skip + 1, _ :: cs => piecesAfter skip cs
  -- The recursion is on the text: what a placeholder takes is skipped one by one.
  | 0, c :: cs =>
    match hole? (c :: cs) with
    | some (key, rest) => .hole key :: piecesAfter (cs.length - rest.length) cs
    | none => .literal c :: piecesAfter 0 cs

def pieces (template : String) : List Piece := piecesAfter 0 template.toList

/-- The keys of a template in the order of their placeholders. -/
def keys (template : String) : List String :=
  (pieces template).filterMap fun
    | .hole key => some key
    | .literal _ => none

end FlowPilot.Template
