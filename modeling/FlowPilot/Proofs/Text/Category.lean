import FlowPilot.Text.Category
import Mathlib.Tactic.MkIffOfInductiveProp

/-!
# Classes of code points as sets of bits

A class of code points is one number: the code point belongs to it if the bit at its place is set.
Whole tables are compared in this form, since what holds of all code points at once is one
equation between numbers.

## Main definitions

* `Text.span`: the code points from one to before another.
* `Text.points`: the code points of a list.
* `Text.Category.members`: the code points whose category is of some class.
* `Text.letters`, `Text.marks`: the letters and numbers, and the marks.
* `Text.ClassesApart`: what these two classes have in common with others.

## Main statements

* `Text.Category.testBit_members`: such a set against the table of runs.
* `Text.isLetterOrNumber_eq`, `Text.isMark_eq`: the classes of characters are these sets.
* `Text.isMark_of_isLetterOrNumber`: no letter or number is a mark.
-/

namespace FlowPilot.Text

/-- The code points from `first` to before `next`. -/
def span (first next : Nat) : Nat := (Nat.pow 2 (next - first) - 1) <<< first

theorem testBit_span (first next n : Nat) :
    (span first next).testBit n = (decide (first ≤ n) && decide (n < next)) := by
  rw [span, Nat.pow_eq, Nat.testBit_shiftLeft, Nat.testBit_two_pow_sub_one, Bool.eq_iff_iff]
  simp only [Bool.and_eq_true, decide_eq_true_eq]
  omega

/-- The code points of closed ranges. -/
def spans (ranges : List (Nat × Nat)) : Nat :=
  ranges.foldr (fun r found => span r.1 (r.2 + 1) ||| found) 0

theorem testBit_spans (ranges : List (Nat × Nat)) (n : Nat) :
    (spans ranges).testBit n = inRanges ranges n := by
  induction ranges with
  | nil => exact Nat.zero_testBit n
  | cons r ranges ih =>
    have hspans : spans (r :: ranges) = span r.1 (r.2 + 1) ||| spans ranges := rfl
    rw [hspans, Nat.testBit_or, testBit_span, ih, inRanges, inRanges, List.any_cons]
    simp only [Nat.lt_add_one_iff]

/-- The code points of a list. -/
def points (ns : List Nat) : Nat := spans (ns.map fun n => (n, n))

theorem testBit_points_iff {ns : List Nat} {n : Nat} : (points ns).testBit n = true ↔ n ∈ ns := by
  rw [points, testBit_spans, inRanges, List.any_map, List.any_eq_true]
  constructor
  · rintro ⟨m, hm, hn⟩
    simp only [Function.comp_apply, Bool.and_eq_true, decide_eq_true_eq] at hn
    exact Nat.le_antisymm hn.1 hn.2 ▸ hm
  · exact fun hn => ⟨n, hn, by simp⟩

/-- Sets without common members. -/
theorem testBit_eq_false_of_land {s t n : Nat} (h : s &&& t = 0) (hs : s.testBit n = true) :
    t.testBit n = false := by
  have hboth : (s &&& t).testBit n = false := h ▸ Nat.zero_testBit n
  rwa [Nat.testBit_and, hs, Bool.true_and] at hboth

namespace Category

/-! ### Reading a class from runs -/

section Runs

variable (counts : Nat → Bool)

/-- The code points from a run on whose run has a code that counts, in an ascending table. -/
def membersFrom : Nat → List Nat → Nat
  | _, [] => 0
  | entry, next :: rest =>
    if counts (entry % 256) then span (entry / 256) (next / 256) ||| membersFrom next rest
    else membersFrom next rest

/-- Runs in ascending order, the last of which is unassigned. -/
def ascends : Nat → List Nat → Bool
  | entry, [] => ofCode (entry % 256) 0 == unassigned
  | entry, next :: rest => Nat.ble (entry / 256) (next / 256) && ascends next rest

variable {counts}

/-- Nothing is found before the first run. -/
theorem testBit_membersFrom_of_lt {entry n : Nat} {rest : List Nat}
    (hascends : ascends entry rest = true) (hn : n < entry / 256) :
    (membersFrom counts entry rest).testBit n = false := by
  induction rest generalizing entry with
  | nil => exact Nat.zero_testBit n
  | cons next rest ih =>
    obtain ⟨hle, hrest⟩ := Bool.and_eq_true_iff.mp hascends
    have hlater := ih hrest (Nat.lt_of_lt_of_le hn (Nat.le_of_ble_eq_true hle))
    rw [membersFrom]
    split
    · rw [Nat.testBit_or, testBit_span, hlater, Bool.or_false, Bool.and_eq_false_iff]
      exact .inl (decide_eq_false (by omega))
    · exact hlater

/-- A code point is a member if the run in which it lies counts. -/
theorem testBit_membersFrom
    (hunassigned : ∀ code, ofCode code 0 = unassigned → counts code = false)
    {entry n : Nat} {rest : List Nat} (hascends : ascends entry rest = true)
    (hn : entry / 256 ≤ n) :
    (membersFrom counts entry rest).testBit n = counts (runAt n entry rest % 256) := by
  induction rest generalizing entry with
  | nil =>
    rw [membersFrom, runAt, Nat.zero_testBit]
    exact (hunassigned _ (eq_of_beq hascends)).symm
  | cons next rest ih =>
    obtain ⟨-, hrest⟩ := Bool.and_eq_true_iff.mp hascends
    rw [membersFrom, runAt]
    by_cases hnext : next / 256 ≤ n
    · -- The code point lies behind the first run.
      have hout : (span (entry / 256) (next / 256)).testBit n = false := by
        rw [testBit_span, Bool.and_eq_false_iff]
        exact .inr (decide_eq_false (by omega))
      rw [if_pos hnext]
      split
      · rw [Nat.testBit_or, hout, Bool.false_or, ih hrest hnext]
      · exact ih hrest hnext
    · have hlater : (membersFrom counts next rest).testBit n = false :=
        testBit_membersFrom_of_lt hrest (Nat.lt_of_not_le hnext)
      have hin : (span (entry / 256) (next / 256)).testBit n = true := by
        rw [testBit_span, decide_eq_true hn, decide_eq_true (Nat.lt_of_not_le hnext)]
        rfl
      rw [if_neg hnext]
      split
      next hcounts => rw [Nat.testBit_or, hin, hcounts, Bool.true_or]
      next hcounts => rw [hlater, Bool.eq_false_iff.mpr hcounts]

end Runs

section Kinds

variable {kind : Category → Bool}

/-- The codes of the categories of a class. -/
def codes (kind : Category → Bool) : Nat :=
  points ((List.range 31).filter fun code => kind (ofCode code 0))

theorem testBit_codes (hunassigned : kind unassigned = false) (code : Nat) :
    (codes kind).testBit code = kind (ofCode code 0) := by
  rw [codes, Bool.eq_iff_iff, testBit_points_iff, List.mem_filter, List.mem_range]
  refine ⟨fun h => h.2, fun h => ⟨Nat.lt_of_not_le fun hlarge => ?_, h⟩⟩
  have hnone : ofCode code 0 = unassigned := by
    have hout : all[code]? = none := List.getElem?_eq_none (Nat.le_trans (by decide) hlarge)
    rw [ofCode, if_neg (by omega), List.getD_eq_getElem?_getD, hout, Option.getD_none]
  rw [hnone, hunassigned] at h
  cases h

/-- The code points whose category is of a class. -/
def members (kind : Category → Bool) : Nat := membersFrom (codes kind).testBit 0 runs

/-- Where a class does not tell capital letters from small ones, the place inside a run does not
matter. -/
theorem kind_ofCode (hcase : kind capital = kind small) (code offset : Nat) :
    kind (ofCode code offset) = kind (ofCode code 0) := by
  unfold ofCode
  split
  · split
    · rfl
    · exact hcase.symm
  · rfl

theorem runs_ascend : ascends 0 runs = true := by decide +kernel

theorem testBit_members (hcase : kind capital = kind small) (hunassigned : kind unassigned = false)
    (n : Nat) : (members kind).testBit n = kind (ofCodePoint n) := by
  have hcodes : ∀ code, ofCode code 0 = unassigned → (codes kind).testBit code = false :=
    fun code hcode => by rw [testBit_codes hunassigned, hcode, hunassigned]
  rw [members, testBit_membersFrom hcodes runs_ascend (Nat.zero_le n), testBit_codes hunassigned,
    ofCodePoint]
  exact (kind_ofCode hcase _ _).symm

end Kinds

end Category

/-! ### Letters, numbers and marks -/

/-- The code points of letters and numbers. -/
def letters : Nat :=
  Category.members (fun k => k.isLetter || k.isNumber) ||| spans enclosedLetters

/-- The code points of marks. -/
def marks : Nat := Category.members Category.isMark

theorem isLetterOrNumber_eq (c : Char) : isLetterOrNumber c = letters.testBit c.toNat := by
  rw [letters, Nat.testBit_or, Category.testBit_members rfl rfl, testBit_spans]
  rfl

theorem isMark_eq (c : Char) : isMark c = marks.testBit c.toNat :=
  (Category.testBit_members rfl rfl c.toNat).symm

/-- What the table of categories says about these classes. -/
@[mk_iff]
structure ClassesApart : Prop where
  /-- no letter or number is a mark -/
  unmarked : letters &&& marks = 0
  /-- letters and numbers are characters -/
  assigned : letters &&& span 0xD800 0xE000 = 0
  inRange : letters >>> 0x110000 = 0
  /-- the first characters are no marks -/
  latin : marks &&& span 0 0xC0 = 0

theorem classesApart : ClassesApart := by
  -- The parts are decided together, so that the sets are computed once.
  rw [classesApart_iff]
  decide +kernel

/-- No letter or number is a mark. -/
theorem isMark_of_isLetterOrNumber {c : Char} (h : isLetterOrNumber c = true) :
    isMark c = false := by
  rw [isLetterOrNumber_eq] at h
  rw [isMark_eq]
  exact testBit_eq_false_of_land classesApart.unmarked h

/-- Letters and numbers are code points that characters have. -/
theorem isValidChar_of_letters {n : Nat} (h : letters.testBit n = true) : n.isValidChar := by
  have hgap := testBit_eq_false_of_land classesApart.assigned h
  rw [testBit_span, Bool.and_eq_false_iff, decide_eq_false_iff_not, decide_eq_false_iff_not] at hgap
  have hsmall : n < 0x110000 := by
    refine Nat.lt_of_not_le fun hlarge => ?_
    have hnone : (letters >>> 0x110000).testBit (n - 0x110000) = false :=
      classesApart.inRange ▸ Nat.zero_testBit _
    rw [Nat.testBit_shiftRight, Nat.add_sub_cancel' hlarge, h] at hnone
    cases hnone
  rcases hgap with hbelow | habove
  · exact .inl (Nat.lt_of_not_le hbelow)
  · exact .inr ⟨by omega, hsmall⟩

end FlowPilot.Text
