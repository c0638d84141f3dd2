import FlowPilot.Text.Category.Runs

/-!
# General categories

The general category of a character and the character classes that are built from it.

## Main definitions

* `categoryOf`: the category of a character, read from the table of runs.
* `isMark`, `isLetterOrNumber`, `isWord`: the classes that names and keys are made of.
* `isGraphic`, `extendsGrapheme`: which characters a quoted text shows as they are.
* `isCased`, `isCaseIgnorable`: the context of a word-final sigma.
-/

namespace FlowPilot.Text

/-- The thirty general categories, in the order of their table codes. -/
inductive Category
  | capital | small | titlecase | modifierLetter | otherLetter
  | nonspacingMark | spacingMark | enclosingMark
  | decimalDigit | letterNumber | otherNumber
  | connector | dash | openBracket | closeBracket | initialQuote | finalQuote | otherPunctuation
  | mathSymbol | currency | modifierSymbol | otherSymbol
  | space | lineSeparator | paragraphSeparator
  | control | format | surrogate | privateUse | unassigned
  deriving DecidableEq, Repr

namespace Category

def all : List Category :=
  [capital, small, titlecase, modifierLetter, otherLetter,
   nonspacingMark, spacingMark, enclosingMark,
   decimalDigit, letterNumber, otherNumber,
   connector, dash, openBracket, closeBracket, initialQuote, finalQuote, otherPunctuation,
   mathSymbol, currency, modifierSymbol, otherSymbol,
   space, lineSeparator, paragraphSeparator,
   control, format, surrogate, privateUse, unassigned]

/-- The category of the code point `offset` places into a run with this code. -/
def ofCode (code offset : Nat) : Category :=
  if code = 30 then (if offset % 2 = 0 then capital else small)
  else all.getD code unassigned

/-- The last entry of an ascending table that starts at or below `n`. -/
def runAt (n : Nat) : Nat → List Nat → Nat
  | entry, [] => entry
  | entry, next :: rest => if next / 256 ≤ n then runAt n next rest else entry

def ofCodePoint (n : Nat) : Category :=
  let entry := runAt n 0 runs
  ofCode (entry % 256) (n - entry / 256)

def isLetter : Category → Bool
  | capital | small | titlecase | modifierLetter | otherLetter => true
  | _ => false

def isMark : Category → Bool
  | nonspacingMark | spacingMark | enclosingMark => true
  | _ => false

def isNumber : Category → Bool
  | decimalDigit | letterNumber | otherNumber => true
  | _ => false

def isPunctuation : Category → Bool
  | connector | dash | openBracket | closeBracket | initialQuote | finalQuote
  | otherPunctuation => true
  | _ => false

def isSymbol : Category → Bool
  | mathSymbol | currency | modifierSymbol | otherSymbol => true
  | _ => false

def isSeparator : Category → Bool
  | space | lineSeparator | paragraphSeparator => true
  | _ => false

/-- Controls, formats, surrogates, private use and unassigned code points. -/
def isOther : Category → Bool
  | control | format | surrogate | privateUse | unassigned => true
  | _ => false

end Category

def categoryOf (c : Char) : Category := Category.ofCodePoint c.toNat

/-- Whether a code point lies in one of the closed ranges. -/
def inRanges (ranges : List (Nat × Nat)) (n : Nat) : Bool :=
  ranges.any fun r => decide (r.1 ≤ n) && decide (n ≤ r.2)

/-- Letters in circles and squares, which count as letters although they are symbols. -/
def enclosedLetters : List (Nat × Nat) :=
  [(0x24B6, 0x24E9), (0x1F130, 0x1F149), (0x1F150, 0x1F169), (0x1F170, 0x1F189)]

/-- A combining mark. -/
def isMark (c : Char) : Bool := (categoryOf c).isMark

/-- A letter or number that is not a mark. -/
def isLetterOrNumber (c : Char) : Bool :=
  (categoryOf c).isLetter || (categoryOf c).isNumber || inRanges enclosedLetters c.toNat

/-- A word character: a letter, a mark, a decimal digit, a connector or a joiner. -/
def isWord (c : Char) : Bool :=
  let category := categoryOf c
  category.isLetter || category.isMark || category == .decimalDigit || category == .letterNumber
    || category == .connector
    || inRanges ((0x200C, 0x200D) :: enclosedLetters) c.toNat

/-- A character with a shape of its own: neither a separator other than the blank, nor a
control, a format character or an unassigned code point. -/
def isGraphic (c : Char) : Bool :=
  c == ' ' || !((categoryOf c).isSeparator || (categoryOf c).isOther)

/-- Spacing marks and joiners that nevertheless continue the character before them. -/
def graphemeTails : List (Nat × Nat) :=
  [(0x9BE, 0x9BE), (0x9D7, 0x9D7), (0xB3E, 0xB3E), (0xB57, 0xB57), (0xBBE, 0xBBE),
   (0xBD7, 0xBD7), (0xCC2, 0xCC2), (0xCD5, 0xCD6), (0xD3E, 0xD3E), (0xD57, 0xD57),
   (0xDCF, 0xDCF), (0xDDF, 0xDDF), (0x1B35, 0x1B35), (0x200C, 0x200C), (0x302E, 0x302F),
   (0xFF9E, 0xFF9F), (0x1133E, 0x1133E), (0x11357, 0x11357), (0x114B0, 0x114B0),
   (0x114BD, 0x114BD), (0x115AF, 0x115AF), (0x11930, 0x11930), (0x1D165, 0x1D165),
   (0x1D16E, 0x1D172), (0xE0020, 0xE007F)]

/-- A character that continues the one before it. -/
def extendsGrapheme (c : Char) : Bool :=
  categoryOf c == .nonspacingMark || categoryOf c == .enclosingMark
    || inRanges graphemeTails c.toNat

/-- Small letters that are no `small` by category. -/
def otherSmall : List (Nat × Nat) :=
  [(0xAA, 0xAA), (0xBA, 0xBA), (0x2B0, 0x2B8), (0x2C0, 0x2C1), (0x2E0, 0x2E4), (0x345, 0x345),
   (0x37A, 0x37A), (0x10FC, 0x10FC), (0x1D2C, 0x1D6A), (0x1D78, 0x1D78), (0x1D9B, 0x1DBF),
   (0x2071, 0x2071), (0x207F, 0x207F), (0x2090, 0x209C), (0x2170, 0x217F), (0x24D0, 0x24E9),
   (0x2C7C, 0x2C7D), (0xA69C, 0xA69D), (0xA770, 0xA770), (0xA7F2, 0xA7F4), (0xA7F8, 0xA7F9),
   (0xAB5C, 0xAB5F), (0xAB69, 0xAB69), (0x10780, 0x10780), (0x10783, 0x10785),
   (0x10787, 0x107B0), (0x107B2, 0x107BA), (0x1E030, 0x1E06D)]

/-- Capital letters that are no `capital` by category. -/
def otherCapital : List (Nat × Nat) :=
  [(0x2160, 0x216F), (0x24B6, 0x24CF), (0x1F130, 0x1F149), (0x1F150, 0x1F169),
   (0x1F170, 0x1F189)]

/-- A small letter in the wide sense. -/
def isSmall (c : Char) : Bool := categoryOf c == .small || inRanges otherSmall c.toNat

/-- A capital letter in the wide sense. -/
def isCapital (c : Char) : Bool := categoryOf c == .capital || inRanges otherCapital c.toNat

def isCased (c : Char) : Bool := isSmall c || isCapital c || categoryOf c == .titlecase

/-- Punctuation inside words, which case rules look through. -/
def midWord : List Nat :=
  [0x27, 0x2E, 0x3A, 0xB7, 0x387, 0x55F, 0x5F4, 0x2018, 0x2019, 0x2024, 0x2027, 0xFE13, 0xFE52,
   0xFE55, 0xFF07, 0xFF0E, 0xFF1A]

/-- A character that case rules look through. -/
def isCaseIgnorable (c : Char) : Bool :=
  match categoryOf c with
  | .nonspacingMark | .enclosingMark | .format | .modifierLetter | .modifierSymbol => true
  | _ => midWord.contains c.toNat

end FlowPilot.Text
