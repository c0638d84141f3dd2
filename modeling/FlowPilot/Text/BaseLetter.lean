import FlowPilot.Text.Category
import FlowPilot.Text.BaseLetter.Table

/-!
# Letters without their marks

## Main definitions

* `baseLetters`: what is left of a character when it is decomposed canonically and every mark of
  the result is dropped. Marks leave nothing, a Hangul syllable leaves its letters, and all other
  characters leave one.
-/

namespace FlowPilot.Text

namespace BaseLetter

/-- The entry for a code point in a table of runs. -/
def lookup (n : Nat) : List (Nat × List Nat) → Option Nat
  | [] => none
  | (first, bases) :: rest =>
    if n < first then none
    else if h : n - first < bases.length then some bases[n - first]
    else lookup n rest

/-- The two or three letters of a Hangul syllable. -/
def hangulLetters (n : Nat) : List Nat :=
  let i := n - 0xAC00
  let initial := 0x1100 + i / 588
  let vowel := 0x1161 + i % 588 / 28
  if i % 28 = 0 then [initial, vowel] else [initial, vowel, 0x11A7 + i % 28]

end BaseLetter

/-- What is left of a character without its marks. -/
def baseLetters (c : Char) : List Char :=
  let n := c.toNat
  if n < 0xC0 then [c]
  else if isMark c then []
  else if 0xAC00 ≤ n ∧ n ≤ 0xD7A3 then (BaseLetter.hangulLetters n).map Char.ofNat
  else
    let table := if n < 0xF900 then BaseLetter.letterRuns else BaseLetter.ideographRuns
    match BaseLetter.lookup n table with
    | some base => [Char.ofNat base]
    | none => [c]

end FlowPilot.Text
