/-!
# Globs

In a glob two stars stand for any text without a line break, one star for any text without a slash,
and every other character for itself. A glob matches a text as a whole.

## Main definitions

* `Glob.ofText`: reading a glob.
* `Glob.matchesText`: whether it matches.
-/

namespace FlowPilot

inductive Glob.Piece
  | anything
  | segment
  | literal (c : Char)
  deriving DecidableEq, Repr

/-- The pieces of a glob in order. -/
abbrev Glob := List Glob.Piece

namespace Glob

def piecesOf : List Char → Glob
  | '*' :: '*' :: cs => .anything :: piecesOf cs
  | '*' :: cs => .segment :: piecesOf cs
  | c :: cs => .literal c :: piecesOf cs
  | [] => []

def ofText (s : String) : Glob := piecesOf s.toList

/-- Whether a piece can stand for a character among others. -/
def Piece.spans : Piece → Char → Bool
  | anything, c => c != '\n'
  | segment, c => c != '/'
  | literal _, _ => false

/-- The rests of a text after what a piece can stand for. -/
def Piece.rests (p : Piece) : List Char → List (List Char)
  | [] =>
    match p with
    | literal _ => []
    | _ => [[]]
  | c :: cs =>
    match p with
    | literal d => if c = d then [cs] else []
    | p => (c :: cs) :: if p.spans c then p.rests cs else []

/-- Whether a glob matches a list of characters, where each rest of it is tried once. -/
def matchesAny : Glob → List (List Char) → Bool
  | [], rests => rests.any (·.isEmpty)
  -- Equal rests are merged, so many stars do not multiply the work.
  | p :: g, rests => matchesAny g (rests.flatMap p.rests).eraseDups

/-- Whether a glob matches a text as a whole. -/
def matchesText (g : Glob) (s : String) : Bool := matchesAny g [s.toList]

end Glob

end FlowPilot
