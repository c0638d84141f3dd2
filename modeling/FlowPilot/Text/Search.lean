/-!
# Searching and cutting texts

## Main definitions

* `contains`: one text occurs in another.
* `fields`: the pieces of a text between separators.
* `cutAt`: what stands before and after the first separator.
* `runsOf`: the longest runs of characters of a class.
* `joined`: texts with a separator between them.
-/

namespace FlowPilot.Text

/-- Whether `needle` occurs in the list of characters. -/
def occursIn (needle : List Char) : List Char → Bool
  | [] => needle.isEmpty
  | c :: cs => needle.isPrefixOf (c :: cs) || occursIn needle cs

/-- Whether `needle` occurs in `text`. The empty text occurs in every text. -/
def contains (text needle : String) : Bool := occursIn needle.toList text.toList

def startsWith (text start : String) : Bool := start.toList.isPrefixOf text.toList

/-- The pieces between separators; one more than there are separators. -/
def fields (sep : Char) : List Char → List (List Char)
  | [] => [[]]
  | c :: cs =>
    match fields sep cs with
    | [] => [[c]]
    | piece :: rest => if c = sep then [] :: piece :: rest else (c :: piece) :: rest

/-- What stands before and after the first character of a class. -/
def cutAt (p : Char → Bool) : List Char → Option (List Char × List Char)
  | [] => none
  | c :: cs =>
    if p c then some ([], cs)
    else (cutAt p cs).map fun (before, after) => (c :: before, after)

/-- The longest runs of characters of a class, `pending` being the one that is being read, last
character first. -/
def runsFrom (keep : Char → Bool) (pending : List Char) : List Char → List (List Char)
  | [] => if pending.isEmpty then [] else [pending.reverse]
  | c :: cs =>
    if keep c then runsFrom keep (c :: pending) cs
    else if pending.isEmpty then runsFrom keep [] cs
    else pending.reverse :: runsFrom keep [] cs

/-- The longest runs of characters of a class. -/
def runsOf (keep : Char → Bool) (cs : List Char) : List (List Char) := runsFrom keep [] cs

def joined (sep : List Char) : List (List Char) → List Char
  | [] => []
  | [piece] => piece
  | piece :: rest => piece ++ sep ++ joined sep rest

/-- The rest of `text` after `start`, if it begins so. -/
def dropStart? : (start text : List Char) → Option (List Char)
  | [], text => some text
  | _ :: _, [] => none
  | a :: start, b :: text => if a = b then dropStart? start text else none

end FlowPilot.Text
