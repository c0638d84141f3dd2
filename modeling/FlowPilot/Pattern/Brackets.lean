import FlowPilot.Pattern.Escape

/-!
# Bracketed sets

A set of characters between brackets: characters, ranges, classes and further brackets, combined by
`&&`, `--` and `~~` from left to right.

## Main definitions

* `Pattern.bracketed?`: a set from what follows its opening bracket.
-/

namespace FlowPilot.Pattern

/-- The signs that combine sets. -/
inductive SetSign
  | inter
  | without
  | differing
  deriving DecidableEq, Repr

def SetSign.apply (sign : SetSign) (a b : CharSet) : CharSet :=
  match sign with
  | inter => .inter a b
  | without => .without a b
  | differing => .differing a b

/-- The set before a sign, waiting for the one behind it. -/
abbrev Waiting := Option (CharSet × SetSign)

/-- The set behind a sign combined with the waiting one. -/
def Flags.combine (f : Flags) (waiting : Waiting) (s : CharSet) : CharSet :=
  match waiting with
  | none => s
  | some (left, sign) => sign.apply (f.foldSet left) (f.foldSet s)

/-- A class of ASCII characters by its name, from what follows its opening bracket. -/
def asciiClass? (f : Flags) (cs : List Char) : Option (CharSet × List Char) :=
  match cs with
  | ':' :: cs =>
    let (negated, cs) := match cs with
      | '^' :: rest => (true, rest)
      | _ => (false, cs)
    match cs.dropWhile (· != ':') with
    | ':' :: ']' :: rest =>
      (CharSet.ofAsciiName? (String.ofList (cs.takeWhile (· != ':')))).map fun set =>
        ((f.foldSet set).negatedIf negated, rest)
    | _ => none
  | _ => none

/-- Hyphens at the start, which stand for themselves. -/
def Flags.hyphens (f : Flags) : (fuel : Nat) → Bool → List Char → Bool × List Char
  | 0, found, cs => (found, cs)
  | fuel + 1, found, cs =>
    match f.skip cs with
    | '-' :: rest => f.hyphens fuel true rest
    | cs => (found, cs)

/-- What follows an opening bracket before the items: whether the set is negated, and the
characters that stand for themselves there. -/
def opening (f : Flags) (cs : List Char) : Bool × CharSet × List Char :=
  let (negated, cs) := match f.skip cs with
    | '^' :: rest => (true, rest)
    | cs => (false, cs)
  let (found, cs) := f.hyphens (cs.length + 1) false cs
  if found then (negated, .only '-', cs)
  else
    match cs with
    | ']' :: rest => (negated, .only ']', rest)
    | cs => (negated, .none, cs)

/-- A single character or class inside brackets. -/
def setItem? (f : Flags) : List Char → Option (Escaped × List Char)
  | [] => none
  | '\\' :: rest => escape? f rest
  | c :: rest => some (.literal c false, rest)

/-- A character as an item of a set. Without Unicode only ASCII characters and bytes are allowed. -/
def setLiteral? (f : Flags) (c : Char) (byte : Bool) : Option Char :=
  if f.unicode || byte || c.toNat < 128 then some c else none

def setRange? (f : Flags) (cs : List Char) : Option (CharSet × List Char) := do
  let (item, rest) ← setItem? f cs
  let rest := f.skip rest
  let single : Option (CharSet × List Char) :=
    match item with
    | .literal c byte => (setLiteral? f c byte).map fun c => (CharSet.only c, rest)
    | .class set => some (set, rest)
    | .look _ => none
  match rest with
  | '-' :: after =>
    match f.skip after with
    | [] => none
    | next :: _ =>
      -- A hyphen before the closing bracket, or before a sign of two hyphens, makes no range.
      if next == ']' || next == '-' then single
      else do
        let (last, rest) ← setItem? f (f.skip after)
        match item, last with
        | .literal a byteA, .literal b byteB => do
          let a ← setLiteral? f a byteA
          let b ← setLiteral? f b byteB
          if a ≤ b then some (CharSet.between a b, rest) else none
        | _, _ => none
  | [] => none
  | _ => single

/-- The items of a set up to its closing bracket. -/
def setItems? (f : Flags) : (fuel : Nat) → Waiting → CharSet → List Char →
    Option (CharSet × List Char)
  | 0, _, _, _ => none
  | fuel + 1, waiting, set, cs =>
    match f.skip cs with
    | [] => none
    | ']' :: rest => some (f.combine waiting set, rest)
    | '[' :: rest =>
      match asciiClass? f rest with
      | some (named, rest) => setItems? f fuel waiting (.union set named) rest
      | none => do
        let (negated, start, rest) := opening f rest
        let (inner, rest) ← setItems? f fuel none start rest
        setItems? f fuel waiting (.union set ((f.foldSet inner).negatedIf negated)) rest
    | '&' :: '&' :: rest => setItems? f fuel (some (f.combine waiting set, .inter)) .none rest
    | '-' :: '-' :: rest => setItems? f fuel (some (f.combine waiting set, .without)) .none rest
    | '~' :: '~' :: rest => setItems? f fuel (some (f.combine waiting set, .differing)) .none rest
    | cs => do
      let (item, rest) ← setRange? f cs
      setItems? f fuel waiting (.union set item) rest

/-- A set from what follows its opening bracket. Without Unicode it must hold ASCII characters
only. -/
def bracketed? (f : Flags) (cs : List Char) : Option (CharSet × List Char) := do
  let (negated, start, rest) := opening f cs
  let (inner, rest) ← setItems? f (cs.length + 1) none start rest
  let set := (f.foldSet inner).negatedIf negated
  if f.unicode || set.isAscii then some (set, rest) else none

end FlowPilot.Pattern
