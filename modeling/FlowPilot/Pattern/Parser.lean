import FlowPilot.Pattern.Brackets

/-!
# Reading patterns

A pattern is read from left to right with the open groups on a stack. It has no look-around and no
reference to an earlier group.

## Main definitions

* `Pattern.Reader`: what was read so far.
* `Pattern.ofText?`: a pattern from its text.
-/

namespace FlowPilot.Pattern

/-- A group that is open. -/
structure Group where
  /-- how the text after the group is read -/
  flags : Flags
  /-- the alternatives before the group's one, last first -/
  alternatives : List Pattern
  /-- the items before the group, last first; a setting of flags is no pattern -/
  items : List (Option Pattern)

/-- What was read of a pattern. -/
structure Reader where
  /-- how the rest of the current group is read -/
  flags : Flags
  /-- the finished alternatives of the current group, last first -/
  alternatives : List Pattern
  /-- the items of the current alternative, last first; a setting of flags is no pattern -/
  items : List (Option Pattern)
  /-- the groups around the current one, innermost first -/
  enclosing : List Group
  /-- the names of the groups so far -/
  names : List String

/-- A reader and what is left to read. -/
abbrev Read := Option (Reader × List Char)

namespace Reader

def start : Reader := ⟨{}, [], [], [], []⟩

def push (r : Reader) (p : Pattern) : Reader := { r with items := some p :: r.items }

/-- The items of an alternative one after the other. -/
def sequence (items : List (Option Pattern)) : Pattern :=
  (items.filterMap id).foldl (fun rest item => match rest with
    | .empty => item
    -- The items come last first, so the fold builds the sequence from its end.
    | rest => .seq item rest) .empty

def group (r : Reader) : Pattern :=
  r.alternatives.foldl (fun rest a => .alt a rest) (sequence r.items)

/-- The next alternative of the current group. -/
def nextAlternative (r : Reader) : Reader :=
  { r with alternatives := sequence r.items :: r.alternatives, items := [] }

def openGroup (r : Reader) (flags : Flags) : Reader :=
  { r with
    flags := flags
    alternatives := []
    items := []
    enclosing := ⟨r.flags, r.alternatives, r.items⟩ :: r.enclosing }

def closeGroup (r : Reader) : Option Reader :=
  match r.enclosing with
  | [] => none
  | g :: rest =>
    some { r with
      flags := g.flags
      alternatives := g.alternatives
      items := some r.group :: g.items
      enclosing := rest }

/-- Repeats the last item; a setting of flags cannot be repeated. -/
def repeatLast (r : Reader) (least : Nat) (most : Option Nat) : Option Reader :=
  match r.items with
  | some p :: rest => some { r with items := some (.times p least most) :: rest }
  | _ => none

end Reader

/-- A literal character. Case may not count; without Unicode it must be an ASCII character. -/
def literal? (f : Flags) (c : Char) : Option Pattern :=
  if !f.unicode && 128 ≤ c.toNat then none
  else some (.char (f.foldSet (.only c)))

/-- The set that a point stands for, if it holds whole characters. -/
def dot? (f : Flags) : Option CharSet :=
  if !f.unicode then none
  else if f.dotAll then some .all
  else if f.looseLines then some (.complement (.ofChars [('\n', '\n'), ('\r', '\r')]))
  else some (.complement (.only '\n'))

/-- The condition that a circumflex stands for. -/
def Flags.startSign (f : Flags) : Look :=
  if !f.multiLine then .textStart
  else if f.looseLines then .looseLineStart else .lineStart

/-- The condition that a dollar sign stands for. -/
def Flags.endSign (f : Flags) : Look :=
  if !f.multiLine then .textEnd
  else if f.looseLines then .looseLineEnd else .lineEnd

/-- Sets or clears one flag by its letter. Greed changes nothing about where a pattern matches. -/
def Flags.with? (f : Flags) (value : Bool) (c : Char) : Option Flags :=
  match c with
  | 'i' => some { f with ignoreCase := value }
  | 'm' => some { f with multiLine := value }
  | 's' => some { f with dotAll := value }
  | 'R' => some { f with looseLines := value }
  | 'u' => some { f with unicode := value }
  | 'x' => some { f with spaced := value }
  | 'U' => some f
  | _ => none

/-- Flags up to a colon or a closing parenthesis. Each letter occurs once, and so does the sign that
clears the flags behind it, which must not be the last. -/
def flagLetters? : (seen : List Char) → (value : Bool) → Flags → List Char →
    Option (List Char × Flags × List Char)
  | _, _, _, [] => none
  | seen, value, f, c :: cs =>
    if c == ':' || c == ')' then
      if seen.head? == some '-' then none else some (seen, f, c :: cs)
    else if seen.contains c then none
    else if c == '-' then flagLetters? (c :: seen) false f cs
    else (f.with? value c).bind fun f => flagLetters? (c :: seen) value f cs

/-- Whether a character may be in the name of a group. -/
def isNameChar (first : Bool) (c : Char) : Bool :=
  let isLetter := CharSet.letters.contains c
  if first then c == '_' || isLetter
  else c == '_' || c == '.' || c == '[' || c == ']' || isLetter || (Text.categoryOf c).isNumber

/-- The name of a group up to its closing angle bracket, and what follows it. -/
def groupName? (names : List String) (cs : List Char) : Option (String × List Char) :=
  match Text.cutAt (· == '>') cs with
  | some (c :: name, rest) =>
    let text := String.ofList (c :: name)
    if isNameChar true c && name.all (isNameChar false) && !names.contains text then
      some (text, rest)
    else none
  | _ => none

/-- What an opening parenthesis starts: a group, or a setting of flags for the rest of the group
around it. -/
def openParen (r : Reader) (cs : List Char) : Read :=
  let named (rest : List Char) : Read :=
    (groupName? r.names rest).map fun (name, rest) =>
      ({ r.openGroup r.flags with names := name :: r.names }, rest)
  match r.flags.skip cs with
  | '?' :: 'P' :: '<' :: rest => named rest
  | '?' :: '=' :: _ | '?' :: '!' :: _ | '?' :: '<' :: '=' :: _ | '?' :: '<' :: '!' :: _ => none
  | '?' :: '<' :: rest => named rest
  | '?' :: rest => do
    let (seen, flags, rest) ← flagLetters? [] true r.flags rest
    match rest with
    | ')' :: rest =>
      if seen.isEmpty then none
      -- The flags hold for the rest of the group around; the mark keeps them from being repeated.
      else some ({ r with flags := flags, items := none :: r.items }, rest)
    | _ :: rest => some (r.openGroup flags, rest)
    | [] => none
  | rest => some (r.openGroup r.flags, rest)

/-- Without a question mark, which makes a repetition reluctant and changes nothing about where a
pattern matches. -/
def dropReluctance (cs : List Char) : List Char :=
  match cs with
  | '?' :: rest => rest
  | cs => cs

/-- Digits, where what does not count may stand between them. -/
def Flags.digits (f : Flags) : (fuel : Nat) → List Char → List Char × List Char
  | 0, cs => ([], cs)
  | fuel + 1, cs =>
    match cs with
    | c :: rest =>
      if isDigit c then
        let (ds, rest) := f.digits fuel (f.skip rest)
        (c :: ds, rest)
      else ([], cs)
    | [] => ([], [])

def maxCount : Nat := Nat.pow 2 32 - 1

/-- A count, if there is one, with blanks around it. -/
def count? (f : Flags) (cs : List Char) : Option (Option Nat) × List Char :=
  let (ds, rest) := f.digits cs.length (cs.dropWhile Text.isBlank)
  let rest := f.skip (rest.dropWhile Text.isBlank)
  let n := digitsValue ds
  (if ds.isEmpty then some none else if n ≤ maxCount then some (some n) else none, rest)

/-- A repetition with counts in braces, from what follows the opening brace. -/
def counted (r : Reader) (cs : List Char) : Read := do
  let f := r.flags
  let (least, rest) := count? f (f.skip cs)
  let least ← least
  let least ← least
  let (most, rest) ← match rest with
    -- A single count is both the least and the most.
    | '\x7d' :: _ => some (some least, rest)
    | ',' :: rest =>
      match f.skip rest with
      | '\x7d' :: rest => some (none, '\x7d' :: rest)
      | rest =>
        match count? f rest with
        | (some (some most), rest) => if least ≤ most then some (some most, rest) else none
        | _ => none
    | _ => none
  match rest with
  | '\x7d' :: rest =>
    let r ← r.repeatLast least most
    some (r, dropReluctance (f.skip rest))
  | _ => none

def step (r : Reader) (c : Char) (cs : List Char) : Read :=
  let item (p : Option Pattern) (rest : List Char) : Read := p.map fun p => (r.push p, rest)
  let again (least : Nat) (most : Option Nat) : Read :=
    (r.repeatLast least most).map (·, dropReluctance cs)
  match c with
  | '(' => openParen r cs
  | ')' => r.closeGroup.map (·, cs)
  | '|' => some (r.nextAlternative, cs)
  | '[' => (bracketed? r.flags cs).map fun (set, rest) => (r.push (.char set), rest)
  | '?' => again 0 (some 1)
  | '*' => again 0 none
  | '+' => again 1 none
  | '\x7b' => counted r cs
  | '.' => item ((dot? r.flags).map .char) cs
  | '^' => item (some (.look r.flags.startSign)) cs
  | '$' => item (some (.look r.flags.endSign)) cs
  | '\\' =>
    match escape? r.flags cs with
    | some (.literal c byte, rest) =>
      if !r.flags.unicode && byte && 128 ≤ c.toNat then none
      else item (literal? r.flags c) rest
    | some (.class set, rest) => item (some (.char set)) rest
    | some (.look condition, rest) => item (some (.look condition)) rest
    | none => none
  | c => item (literal? r.flags c) cs

/-- Reads everything, in at most `fuel` steps; each step reads at least one character. -/
def readAll : (fuel : Nat) → Reader → List Char → Option Reader
  | 0, _, _ => none
  | fuel + 1, r, cs =>
    match r.flags.skip cs with
    | [] => some r
    | c :: cs => (step r c cs).bind fun (r, rest) => readAll fuel r rest

/-- The bytes that a set takes up when a pattern is prepared for matching. -/
def setWeight : CharSet → Nat
  | .ranges items => 32 * (items.foldl (fun n (a, b) => n + if a = b then 1 else 3) 0)
  | .word | .categories _ => 46000
  | .union a b | .inter a b | .without a b | .differing a b => setWeight a + setWeight b
  | .complement a | .folded a | .asciiFolded a => 96 + setWeight a
  | .blank | .small | .capital => 1000

/-- The bytes that a pattern takes up when it is prepared for matching: what is repeated is written
out. -/
def weight : Pattern → Nat
  | .empty => 0
  | .char set => setWeight set
  | .look _ => 32
  | .seq a b => weight a + weight b
  | .alt a b => weight a + weight b + 32
  | .times p least most => weight p * (most.getD (least + 1)) + 32

/-- The greatest weight of a pattern. -/
def maxWeight : Nat := 10485760

/-- A pattern from its text, if it is well formed and not too big. -/
def ofText? (s : String) : Option Pattern := do
  let cs := s.toList
  let r ← readAll (cs.length + 1) Reader.start cs
  if r.enclosing.isEmpty && weight r.group ≤ maxWeight then some r.group else none

end FlowPilot.Pattern
