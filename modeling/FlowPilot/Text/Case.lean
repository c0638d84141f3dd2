import FlowPilot.Text.Category
import FlowPilot.Text.Case.Tables

/-!
# Case mapping

Full case mapping, in which one letter may become several, and a capital sigma at the end of a word
becomes the final small sigma.

## Main definitions

* `smallForm`, `capitalForm`: the forms of one character.
* `lower`: a whole text in small letters.
* `asciiLower`: the same for the letters `A` to `Z` alone.
* `foldCase`: one representative per class of letters that differ in case only.
* `caseOrbit`: all letters of such a class.
-/

namespace FlowPilot.Text

namespace Case

/-- The form of a code point according to a table of several-letter forms and one of shifts. -/
def formOf (several : List (Nat × List Nat)) (shifts : List Shift) (n : Nat) : List Nat :=
  match several.lookup n with
  | some form => form
  | none =>
    match shifts.findSome? (·.image? n) with
    | some m => [m]
    | none => [n]

end Case

/-- The small letter for `A` to `Z`, and every other character itself. -/
def asciiSmall (c : Char) : Char :=
  if 'A' ≤ c ∧ c ≤ 'Z' then Char.ofNat (c.toNat + 32) else c

/-- The capital letter for `a` to `z`, and every other character itself. -/
def asciiCapital (c : Char) : Char :=
  if 'a' ≤ c ∧ c ≤ 'z' then Char.ofNat (c.toNat - 32) else c

/-- A text with `A` to `Z` in small letters. -/
def asciiLower (s : String) : String := String.ofList (s.toList.map asciiSmall)

def smallForm (c : Char) : List Char :=
  if c.toNat < 128 then [asciiSmall c]
  else (Case.formOf Case.toSmallSeveral Case.toSmall c.toNat).map Char.ofNat

def capitalForm (c : Char) : List Char :=
  if c.toNat < 128 then [asciiCapital c]
  else (Case.formOf Case.toCapitalSeveral Case.toCapital c.toNat).map Char.ofNat

/-- The capital sigma, whose small form depends on its place. -/
def capitalSigma : Char := Char.ofNat 0x3A3

/-- Whether the first character that case rules do not look through has case. -/
def casedFirst (cs : List Char) : Bool :=
  match cs.dropWhile isCaseIgnorable with
  | [] => false
  | c :: _ => isCased c

/-- Small forms of a list of characters; `before` holds what precedes it, nearest first. -/
def lowerFrom (before : List Char) : List Char → List Char
  | [] => []
  | c :: cs =>
    (if c = capitalSigma then
      -- Final: a cased letter before it and none after it, case-ignorable characters apart.
      [Char.ofNat (if casedFirst before && !casedFirst cs then 0x3C2 else 0x3C3)]
    else smallForm c) ++ lowerFrom (c :: before) cs

def lower (s : String) : String := String.ofList (lowerFrom [] s.toList)

/-- One representative for all letters that differ in case only. The dotless i has no partner. -/
def foldCase (c : Char) : Char :=
  if c.toNat = 0x131 then c
  else match smallForm c with
    | [s] =>
      -- A small letter may have another small letter as its partner, through their capital.
      if s ≠ c then s
      else match capitalForm c with
        | [u] =>
          match smallForm u with
          | [t] => t
          | _ => c
        | _ => c
    | _ => c

/-- The code points that a table takes to `n`. -/
def Case.sources (shifts : List Shift) (n : Nat) : List Nat := shifts.filterMap (·.source? n)

/-- All letters that differ from a letter in case only, and the letter itself. They have the same
small form as its representative, or a capital form that has. -/
def caseOrbit (c : Char) : List Char :=
  let fold := foldCase c
  let near := fold.toNat :: Case.sources Case.toSmall fold.toNat
  let candidates := near ++ near.flatMap (Case.sources Case.toCapital)
  (candidates.map Char.ofNat).filter fun d => foldCase d == fold

end FlowPilot.Text
