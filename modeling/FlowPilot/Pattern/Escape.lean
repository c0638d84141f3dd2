import FlowPilot.Number.Reading
import FlowPilot.Pattern.Basic
import FlowPilot.Pattern.Property
import FlowPilot.Text.Blank

/-!
# Escapes in patterns

## Main definitions

* `Pattern.Flags`: how the rest of a pattern is read.
* `Pattern.escape?`: what stands behind a backslash.
-/

namespace FlowPilot.Pattern

/-- How a pattern is read. -/
structure Flags where
  /-- case does not count -/
  ignoreCase : Bool := false
  /-- lines have starts and ends -/
  multiLine : Bool := false
  /-- a point stands for a line break too -/
  dotAll : Bool := false
  /-- lines may end with a carriage return -/
  looseLines : Bool := false
  /-- classes hold more than ASCII characters -/
  unicode : Bool := true
  /-- blanks and comments do not count -/
  spaced : Bool := false
  deriving DecidableEq, Repr

/-- Without blanks and comments at the start; a comment goes from a number sign to the end of its
line. -/
def skipSpaces (inComment : Bool) : List Char → List Char
  | [] => []
  | c :: cs =>
    if inComment then skipSpaces (c != '\n') cs
    else if Text.isBlank c then skipSpaces false cs
    else if c == '#' then skipSpaces true cs
    else c :: cs

/-- Without what does not count at the start. -/
def Flags.skip (f : Flags) (cs : List Char) : List Char :=
  if f.spaced then skipSpaces false cs else cs

/-- What an escape stands for. -/
inductive Escaped
  /-- a character; `byte` if it was written as two digits of base sixteen -/
  | literal (c : Char) (byte : Bool)
  | class (set : CharSet)
  | look (condition : Look)

/-- The value of a digit of base sixteen. -/
def hexValue? (c : Char) : Option Nat :=
  if isDigit c then some (digitValue c)
  else if 'a' ≤ c ∧ c ≤ 'f' then some (c.toNat - 87)
  else if 'A' ≤ c ∧ c ≤ 'F' then some (c.toNat - 55)
  else none

/-- The number that digits of base sixteen write. -/
def hexNumber? (cs : List Char) : Option Nat :=
  cs.foldlM (fun n c => (hexValue? c).map (16 * n + ·)) 0

def charOf? (n : Nat) : Option Char := if n.isValidChar then some (Char.ofNat n) else none

/-- So many characters, where what does not count may stand between them. -/
def Flags.takeMany (f : Flags) : Nat → List Char → Option (List Char × List Char)
  | 0, cs => some ([], f.skip cs)
  | n + 1, cs =>
    match f.skip cs with
    | [] => none
    | c :: rest => (f.takeMany n rest).map fun (taken, rest) => (c :: taken, rest)

/-- The characters before a closing brace, in at most `fuel` steps. -/
def Flags.takeBraced (f : Flags) : (fuel : Nat) → List Char → Option (List Char × List Char)
  | 0, _ => none
  | fuel + 1, cs =>
    match f.skip cs with
    | [] => none
    | '\x7d' :: rest => some ([], rest)
    | c :: rest => (f.takeBraced fuel rest).map fun (taken, rest) => (c :: taken, rest)

/-- A character by its number, of so many digits or in braces. -/
def hexEscape? (f : Flags) (digits : Nat) (cs : List Char) : Option (Escaped × List Char) :=
  match f.skip cs with
  | '\x7b' :: rest => do
    let (inner, rest) ← f.takeBraced (rest.length + 1) rest
    if inner.isEmpty then none
    else
      let c ← (hexNumber? inner).bind charOf?
      some (.literal c false, rest)
  | cs => do
    let (inner, rest) ← f.takeMany digits cs
    let c ← (hexNumber? inner).bind charOf?
    some (.literal c (digits == 2), rest)

/-- The place of a piece inside a list, as what is before and after it. -/
def splitAtPiece? (piece : List Char) : List Char → Option (List Char × List Char)
  | [] => none
  | c :: cs =>
    match Text.dropStart? piece (c :: cs) with
    | some rest => some ([], rest)
    | none => (splitAtPiece? piece cs).map fun (before, after) => (c :: before, after)

/-- The set that the text between the braces of a property names. -/
def propertySet? (inner : List Char) : Option CharSet :=
  match splitAtPiece? ['!', '='] inner with
  | some (name, value) => (CharSet.ofPropertyValue? name value).map .complement
  | none =>
    match splitAtPiece? [':'] inner with
    | some (name, value) => CharSet.ofPropertyValue? name value
    | none =>
      match splitAtPiece? ['='] inner with
      | some (name, value) => CharSet.ofPropertyValue? name value
      | none => CharSet.ofPropertyName? inner

/-- A set with the letters that case makes of it, if case does not count. -/
def Flags.foldSet (f : Flags) (s : CharSet) : CharSet :=
  if f.ignoreCase then (if f.unicode then .folded s else .asciiFolded s) else s

/-- A set of characters by a property. -/
def propertyEscape? (f : Flags) (negated : Bool) (cs : List Char) :
    Option (Escaped × List Char) := do
  if !f.unicode then none
  else
    let (set, rest) ← match f.skip cs with
      | [] => none
      | '\x7b' :: rest => do
        let (inner, rest) ← f.takeBraced (rest.length + 1) rest
        let set ← propertySet? inner
        some (set, rest)
      | '\\' :: _ => none
      | c :: rest => do
        let set ← CharSet.ofPropertyName? [c]
        some (set, rest)
    some (.class ((f.foldSet set).negatedIf negated), rest)

/-- The sets of digits, blanks and word characters. Without Unicode they cannot be negated, since
then they would hold pieces of characters. -/
def shortClass? (f : Flags) (negated : Bool) (unicode ascii : CharSet) : Option Escaped :=
  if f.unicode then some (.class (unicode.negatedIf negated))
  else if negated then none
  else some (.class ascii)

/-- A condition on words that is named in braces behind `\b`. If no name starts there, the braces
belong to something else. -/
def namedWordEdge? (f : Flags) (cs : List Char) : Option (Escaped × List Char) :=
  let usual := some (Escaped.look (.wordEdge f.unicode), cs)
  match cs with
  | '\x7b' :: inner =>
    match f.skip inner with
    | [] => none
    | c :: _ =>
      let isNameChar (c : Char) : Bool := c == '-' || CharSet.contains
        (CharSet.ofChars [('A', 'Z'), ('a', 'z')]) c
      if !isNameChar c then usual
      else do
        let (name, rest) ← f.takeBraced (inner.length + 1) inner
        let condition ← match String.ofList name with
          | "start" => some (Look.wordStart f.unicode)
          | "end" => some (Look.wordEnd f.unicode)
          | "start-half" => some (Look.noWordBefore f.unicode)
          | "end-half" => some (Look.noWordAfter f.unicode)
          | _ => none
        some (.look condition, rest)
  | _ => usual

/-- Whether a character may stand behind a backslash for itself. -/
def isEscapable (c : Char) : Bool :=
  0x80 > c.toNat && c != '<' && c != '>' &&
    !(CharSet.ofChars [('0', '9'), ('A', 'Z'), ('a', 'z')]).contains c

/-- What stands behind a backslash, and what follows it. -/
def escape? (f : Flags) : List Char → Option (Escaped × List Char)
  | [] => none
  | c :: rest =>
    let literal (c : Char) : Option (Escaped × List Char) := some (.literal c false, rest)
    let condition (l : Look) : Option (Escaped × List Char) := some (.look l, rest)
    let short (negated : Bool) (unicode ascii : CharSet) : Option (Escaped × List Char) :=
      (shortClass? f negated unicode ascii).map (·, rest)
    match c with
    | 'x' => hexEscape? f 2 rest
    | 'u' => hexEscape? f 4 rest
    | 'U' => hexEscape? f 8 rest
    | 'p' => propertyEscape? f false rest
    | 'P' => propertyEscape? f true rest
    | 'd' => short false (.categories [.decimalDigit]) .asciiDigits
    | 'D' => short true (.categories [.decimalDigit]) .asciiDigits
    | 's' => short false .blank .asciiBlanks
    | 'S' => short true .blank .asciiBlanks
    | 'w' => short false .word .asciiWord
    | 'W' => short true .word .asciiWord
    | 'a' => literal '\x07'
    | 'f' => literal '\x0c'
    | 't' => literal '\t'
    | 'n' => literal '\n'
    | 'r' => literal '\r'
    | 'v' => literal '\x0b'
    | 'A' => condition .textStart
    | 'z' => condition .textEnd
    | 'b' => namedWordEdge? f rest
    | 'B' => condition (.noWordEdge f.unicode)
    | '<' => condition (.wordStart f.unicode)
    | '>' => condition (.wordEnd f.unicode)
    | c => if isEscapable c then literal c else none

end FlowPilot.Pattern
