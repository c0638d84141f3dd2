import FlowPilot.Text.Search

/-!
# Blanks

White space, and the two ways a text loses it: at its ends (`trim`) and everywhere (`words`).

## Main definitions

* `isBlank`: white space of every kind.
* `trim`: a text without the blanks at its ends.
* `words`: the runs of characters between blanks.
-/

namespace FlowPilot.Text

def isBlank (c : Char) : Bool :=
  let n := c.toNat
  (0x9 ≤ n && n ≤ 0xD) || n == 0x20 || n == 0x85 || n == 0xA0 || n == 0x1680
    || (0x2000 ≤ n && n ≤ 0x200A) || n == 0x2028 || n == 0x2029 || n == 0x202F || n == 0x205F
    || n == 0x3000

/-- Without the characters of a class at the end. -/
def dropEndWhile (p : Char → Bool) (cs : List Char) : List Char :=
  (cs.reverse.dropWhile p).reverse

/-- Without the characters of a class at both ends. -/
def dropEndsWhile (p : Char → Bool) (cs : List Char) : List Char :=
  dropEndWhile p (cs.dropWhile p)

/-- A text without the blanks at its ends. -/
def trim (s : String) : String := String.ofList (dropEndsWhile isBlank s.toList)

/-- Whether nothing but blanks is in a text. -/
def isBlankText (s : String) : Bool := s.toList.all isBlank

/-- The trimmed text, unless nothing is left of it. -/
def trimmed? (s : String) : Option String := if isBlankText s then none else some (trim s)

/-- The runs of characters between blanks. -/
def words (cs : List Char) : List (List Char) := runsOf (fun c => !isBlank c) cs

end FlowPilot.Text
