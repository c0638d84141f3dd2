import FlowPilot.Text.Blank
import FlowPilot.Text.Case

/-!
# Sets of characters

## Main definitions

* `CharSet`: the sets that a pattern can name.
* `CharSet.contains`: membership.
* `CharSet.ofAsciiName?`, `CharSet.ofPropertyName?`: sets with a name.
-/

namespace FlowPilot

inductive CharSet
  | ranges (items : List (Nat × Nat))
  | categories (items : List Text.Category)
  | blank
  | word
  | small
  | capital
  | union (a b : CharSet)
  | inter (a b : CharSet)
  | without (a b : CharSet)
  | differing (a b : CharSet)
  | complement (a : CharSet)
  /-- with all letters that differ in case only -/
  | folded (a : CharSet)
  /-- with the letters `A` to `Z` that differ in case only -/
  | asciiFolded (a : CharSet)
  deriving DecidableEq, Repr

namespace CharSet

def none : CharSet := ranges []

def all : CharSet := complement none

def only (c : Char) : CharSet := ranges [(c.toNat, c.toNat)]

def between (first last : Char) : CharSet := ranges [(first.toNat, last.toNat)]

/-- The set, or what is not in it. -/
def negatedIf (negated : Bool) (s : CharSet) : CharSet := if negated then complement s else s

/-- Whether a character is in a set. -/
def contains : CharSet → Char → Bool
  | ranges items, c => Text.inRanges items c.toNat
  | categories items, c => items.contains (Text.categoryOf c)
  | blank, c => Text.isBlank c
  | word, c => Text.isWord c
  | small, c => Text.isSmall c
  | capital, c => Text.isCapital c
  | union a b, c => a.contains c || b.contains c
  | inter a b, c => a.contains c && b.contains c
  | without a b, c => a.contains c && !b.contains c
  | differing a b, c => a.contains c != b.contains c
  | complement a, c => !a.contains c
  | folded a, c => (Text.caseOrbit c).any a.contains
  | asciiFolded a, c =>
    a.contains c || a.contains (Text.asciiSmall c) || a.contains (Text.asciiCapital c)

/-- Whether no code point from 128 to 255 is in a set. A set of bytes with this property holds
ASCII characters only. -/
def isAscii (s : CharSet) : Bool :=
  (List.range 128).all fun i => !s.contains (Char.ofNat (128 + i))

def ofChars (items : List (Char × Char)) : CharSet :=
  ranges (items.map fun (a, b) => (a.toNat, b.toNat))

def asciiDigits : CharSet := ofChars [('0', '9')]

def asciiBlanks : CharSet := ofChars [('\t', '\r'), (' ', ' ')]

/-- The letters, the digits and the underscore. -/
def asciiWord : CharSet := ofChars [('0', '9'), ('A', 'Z'), ('a', 'z'), ('_', '_')]

/-- The classes of ASCII characters that have a name. -/
def asciiNames : List (String × CharSet) :=
  [("alnum", ofChars [('0', '9'), ('A', 'Z'), ('a', 'z')]),
   ("alpha", ofChars [('A', 'Z'), ('a', 'z')]),
   ("ascii", ranges [(0, 0x7F)]),
   ("blank", ofChars [('\t', '\t'), (' ', ' ')]),
   ("cntrl", ranges [(0, 0x1F), (0x7F, 0x7F)]),
   ("digit", asciiDigits),
   ("graph", ranges [(0x21, 0x7E)]),
   ("lower", ofChars [('a', 'z')]),
   ("print", ranges [(0x20, 0x7E)]),
   ("punct", ranges [(0x21, 0x2F), (0x3A, 0x40), (0x5B, 0x60), (0x7B, 0x7E)]),
   ("space", asciiBlanks),
   ("upper", ofChars [('A', 'Z')]),
   ("word", asciiWord),
   ("xdigit", ofChars [('0', '9'), ('A', 'F'), ('a', 'f')])]

/-- A class of ASCII characters by its name. -/
def ofAsciiName? (name : String) : Option CharSet := asciiNames.lookup name

end CharSet

end FlowPilot
