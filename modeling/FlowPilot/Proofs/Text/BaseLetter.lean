import FlowPilot.Proofs.Text.Case
import FlowPilot.Proofs.Text.Category
import FlowPilot.Text.BaseLetter

/-!
# Base letters are decomposed once

What is left of a character without its marks is left alone by the same decomposition, and it is a
letter or number if the character was one. Capital letters keep this: what is the capital of a
letter that has no marks has none itself.

## Main definitions

* `Text.BaseLetter.keys`: the code points that a table lists.
* `Text.decomposed`: the code points that are taken apart.
* `Text.plainLetters`: the letters and numbers that are not.
* `Text.TablesAgree`: what the tables say about each other.

## Main statements

* `Text.BaseLetter.isSome_lookup`: a table finds what it lists.
* `Text.of_mem_baseLetters`: base letters are of the class of their character and are not taken
  apart.
* `Text.isPlain_of_mem_capitalForm`: capitals of plain letters are plain.
-/

namespace FlowPilot.Text

namespace BaseLetter

/-! ### Tables of runs -/

/-- The code points that a table lists. -/
def keys (rows : List (Nat × List Nat)) : Nat :=
  rows.foldr (fun r found => span r.1 (r.1 + r.2.length) ||| found) 0

/-- What holds of all consecutive entries of a row, the first of which is for the code point `n`. -/
def rowHolds (p : Nat → Nat → Bool) : Nat → List Nat → Bool
  | _, [] => true
  | n, base :: bases => p n base && rowHolds p (n + 1) bases

/-- What holds of all entries of a table. -/
def holds (p : Nat → Nat → Bool) (rows : List (Nat × List Nat)) : Bool :=
  rows.all fun r => rowHolds p r.1 r.2

/-- Rows in ascending order, from a code point on. -/
def ascendsFrom : Nat → List (Nat × List Nat) → Bool
  | _, [] => true
  | low, r :: rows => Nat.ble low r.1 && ascendsFrom r.1 rows

section Tables

variable {p : Nat → Nat → Bool} {rows : List (Nat × List Nat)} {n base : Nat}

theorem of_rowHolds {first : Nat} {bases : List Nat} (h : rowHolds p first bases = true) (i : Nat)
    (hi : i < bases.length) : p (first + i) bases[i] = true := by
  induction bases generalizing first i with
  | nil => exact absurd hi (Nat.not_lt_zero i)
  | cons base bases ih =>
    obtain ⟨hbase, hbases⟩ := Bool.and_eq_true_iff.mp h
    cases i with
    | zero => exact hbase
    | succ i =>
      have hlater := ih hbases i (Nat.lt_of_succ_lt_succ hi)
      rwa [Nat.succ_add_eq_add_succ] at hlater

theorem of_lookup (h : holds p rows = true) (hbase : lookup n rows = some base) :
    p n base = true := by
  induction rows with
  | nil => cases hbase
  | cons r rows ih =>
    obtain ⟨hrow, hrows⟩ := Bool.and_eq_true_iff.mp (by simpa only [holds, List.all_cons] using h)
    unfold lookup at hbase
    split at hbase
    next => cases hbase
    next hfirst =>
      split at hbase
      next hin =>
        have hentry := of_rowHolds hrow (n - r.1) hin
        rwa [Nat.add_sub_cancel' (Nat.le_of_not_lt hfirst), Option.some.inj hbase] at hentry
      next => exact ih hrows hbase

theorem keys_cons (r : Nat × List Nat) :
    (keys (r :: rows)).testBit n =
      ((decide (r.1 ≤ n) && decide (n < r.1 + r.2.length)) || (keys rows).testBit n) := by
  rw [← testBit_span, ← Nat.testBit_or]
  rfl

/-- An ascending table lists nothing below its first row. -/
theorem testBit_keys_of_lt {low : Nat} (h : ascendsFrom low rows = true) (hn : n < low) :
    (keys rows).testBit n = false := by
  induction rows generalizing low with
  | nil => exact Nat.zero_testBit n
  | cons r rows ih =>
    obtain ⟨hlow, hrows⟩ := Bool.and_eq_true_iff.mp h
    have hfirst := Nat.lt_of_lt_of_le hn (Nat.le_of_ble_eq_true hlow)
    rw [keys_cons, ih hrows hfirst, Bool.or_false, Bool.and_eq_false_iff]
    exact .inl (decide_eq_false (Nat.not_le_of_lt hfirst))

/-- An ascending table has an entry for what it lists, and for nothing else. -/
theorem isSome_lookup {low : Nat} (h : ascendsFrom low rows = true) :
    (lookup n rows).isSome = (keys rows).testBit n := by
  induction rows generalizing low with
  | nil => exact (Nat.zero_testBit n).symm
  | cons r rows ih =>
    obtain ⟨-, hrows⟩ := Bool.and_eq_true_iff.mp h
    rw [keys_cons]
    unfold lookup
    split
    -- Below this row and thus below all later ones.
    next hfirst =>
      rw [testBit_keys_of_lt hrows hfirst, decide_eq_false (Nat.not_le_of_lt hfirst)]
      rfl
    next hfirst =>
      have hle := Nat.le_of_not_lt hfirst
      split
      next hin =>
        rw [decide_eq_true hle, decide_eq_true (by omega)]
        rfl
      next hin =>
        have hout : ¬n < r.1 + r.2.length := by omega
        rw [ih hrows, decide_eq_false hout, Bool.and_false, Bool.false_or]

end Tables

theorem letterRuns_ascends : ascendsFrom 0 letterRuns = true := by decide +kernel

theorem ideographRuns_ascends : ascendsFrom 0xF900 ideographRuns = true := by decide +kernel

theorem letterRuns_below : keys letterRuns >>> 0xF900 = 0 := by decide +kernel

/-- Hangul letters lie in one block. -/
theorem of_mem_hangulLetters {n m : Nat} (hn : 0xAC00 ≤ n ∧ n ≤ 0xD7A3) (h : m ∈ hangulLetters n) :
    0x1100 ≤ m ∧ m < 0x11C3 := by
  unfold hangulLetters at h
  dsimp only at h
  split at h
  all_goals
    simp only [List.mem_cons, List.not_mem_nil, or_false] at h
    omega

end BaseLetter

/-! ### What is taken apart -/

/-- The code points of Hangul syllables. -/
def syllables : Nat := span 0xAC00 0xD7A4

/-- The code points that are taken apart. -/
def decomposed : Nat :=
  BaseLetter.keys BaseLetter.letterRuns ||| (BaseLetter.keys BaseLetter.ideographRuns ||| syllables)

/-- The letters and numbers that are not taken apart. -/
def plainLetters : Nat := letters ^^^ (letters &&& decomposed)

theorem testBit_plainLetters (n : Nat) :
    plainLetters.testBit n = (letters.testBit n && !decomposed.testBit n) := by
  rw [plainLetters, Nat.testBit_xor, Nat.testBit_and]
  cases letters.testBit n <;> cases decomposed.testBit n <;> rfl

/-! ### What the tables say about each other -/

/-- An entry of a table: its base is a character of the same class, which is not taken apart. -/
def isProper (n base : Nat) : Bool :=
  (letters.testBit base == letters.testBit n) && !decomposed.testBit base &&
    decide base.isValidChar

/-- What the tables of classes, base letters and capitals say about each other. -/
@[mk_iff]
structure TablesAgree : Prop where
  /-- the first characters are not taken apart -/
  latin : decomposed &&& span 0 0xC0 = 0
  /-- all entries are proper -/
  letters_proper : BaseLetter.holds isProper BaseLetter.letterRuns = true
  ideographs_proper : BaseLetter.holds isProper BaseLetter.ideographRuns = true
  /-- syllables are letters, and so is what they are made of -/
  syllables_letters : syllables &&& letters = syllables
  parts_plain : span 0x1100 0x11C3 &&& plainLetters = span 0x1100 0x11C3
  /-- capitals of plain letters are plain -/
  capitals_plain : (Case.toCapital.all fun s => s.sources.all fun n =>
    !plainLetters.testBit n || plainLetters.testBit (s.target + (n - s.first))) = true
  several_plain : (Case.toCapitalSeveral.all fun entry =>
    !plainLetters.testBit entry.1 || entry.2.all plainLetters.testBit) = true

theorem tablesAgree : TablesAgree := by
  -- The parts are decided together, so that the sets are computed once.
  rw [tablesAgree_iff]
  decide +kernel

/-! ### What is left of a character -/

/-- The entry of a code point, in the table for its block. -/
def baseOf? (n : Nat) : Option Nat :=
  BaseLetter.lookup n (if n < 0xF900 then BaseLetter.letterRuns else BaseLetter.ideographRuns)

theorem testBit_decomposed (n : Nat) :
    decomposed.testBit n =
      ((baseOf? n).isSome || (decide (0xAC00 ≤ n) && decide (n ≤ 0xD7A3))) := by
  rw [decomposed, syllables, Nat.testBit_or, Nat.testBit_or, testBit_span, baseOf?]
  have hsyllable : decide (n < 0xD7A4) = decide (n ≤ 0xD7A3) := decide_eq_decide.mpr (by omega)
  rw [hsyllable, ← Bool.or_assoc]
  congr 1
  split
  next hlow =>
    rw [BaseLetter.isSome_lookup BaseLetter.letterRuns_ascends,
      BaseLetter.testBit_keys_of_lt BaseLetter.ideographRuns_ascends hlow, Bool.or_false]
  next hhigh =>
    have hnone : (BaseLetter.keys BaseLetter.letterRuns).testBit n = false := by
      have hbits : (BaseLetter.keys BaseLetter.letterRuns >>> 0xF900).testBit (n - 0xF900) =
          false := BaseLetter.letterRuns_below ▸ Nat.zero_testBit _
      rwa [Nat.testBit_shiftRight, Nat.add_sub_cancel' (Nat.le_of_not_lt hhigh)] at hbits
    rw [BaseLetter.isSome_lookup BaseLetter.ideographRuns_ascends, hnone, Bool.false_or]

/-- What is not taken apart stays as it is, unless it is a mark. -/
theorem baseLetters_of_not_decomposed {c : Char} (hmark : isMark c = false)
    (h : decomposed.testBit c.toNat = false) : baseLetters c = [c] := by
  rw [testBit_decomposed, Bool.or_eq_false_iff, Option.isSome_eq_false_iff,
    Option.isNone_iff_eq_none] at h
  obtain ⟨hbase, hsyllable⟩ := h
  rw [baseOf?] at hbase
  have hrange : ¬(0xAC00 ≤ c.toNat ∧ c.toNat ≤ 0xD7A3) := by simpa using hsyllable
  simp only [baseLetters, hmark, hrange, hbase, Bool.false_eq_true, if_false, ite_self]

/-- What is left of a character: a letter of a syllable, the entry of a table, or the character
itself. -/
theorem mem_baseLetters {c d : Char} (h : d ∈ baseLetters c) :
    (d = c ∧ decomposed.testBit c.toNat = false) ∨
      (∃ base, baseOf? c.toNat = some base ∧ d = Char.ofNat base) ∨
      (0xAC00 ≤ c.toNat ∧ c.toNat ≤ 0xD7A3) ∧
        ∃ m ∈ BaseLetter.hangulLetters c.toNat, d = Char.ofNat m := by
  unfold baseLetters at h
  dsimp only at h
  split at h
  -- The tables have no entry for a character before the first letter with a mark.
  next hlatin =>
    refine .inl ⟨List.mem_singleton.mp h, ?_⟩
    cases hbit : decomposed.testBit c.toNat with
    | false => rfl
    | true =>
      have hout := testBit_eq_false_of_land tablesAgree.latin hbit
      rw [testBit_span, decide_eq_true hlatin] at hout
      cases hout
  next =>
    split at h
    next => exact absurd h List.not_mem_nil
    next =>
      split at h
      next hsyllable =>
        obtain ⟨m, hm, rfl⟩ := List.mem_map.mp h
        exact .inr (.inr ⟨hsyllable, m, hm, rfl⟩)
      next hsyllable =>
        split at h
        next base hbase => exact .inr (.inl ⟨base, hbase, List.mem_singleton.mp h⟩)
        next hbase =>
          refine .inl ⟨List.mem_singleton.mp h, ?_⟩
          rw [testBit_decomposed, baseOf?, hbase]
          simpa using hsyllable

theorem baseLetters_of_isMark {c : Char} (hmark : isMark c = true) : baseLetters c = [] := by
  have hlarge : ¬c.toNat < 0xC0 := by
    intro hsmall
    have hout := testBit_eq_false_of_land classesApart.latin (isMark_eq c ▸ hmark)
    rw [testBit_span, decide_eq_true hsmall] at hout
    cases hout
  simp only [baseLetters, hlarge, hmark, if_true, if_false]

/-- Of a character that is no mark something is left. -/
theorem baseLetters_ne_nil {c : Char} (hmark : isMark c = false) : baseLetters c ≠ [] := by
  simp only [baseLetters, hmark, Bool.false_eq_true, if_false]
  split
  · exact List.cons_ne_nil c []
  · split
    · simp only [BaseLetter.hangulLetters]
      split <;> exact List.cons_ne_nil _ _
    · split <;> exact List.cons_ne_nil _ _

theorem isProper_of_baseOf? {n base : Nat} (h : baseOf? n = some base) :
    isProper n base = true := by
  unfold baseOf? at h
  split at h
  · exact BaseLetter.of_lookup tablesAgree.letters_proper h
  · exact BaseLetter.of_lookup tablesAgree.ideographs_proper h

theorem testBit_of_land_eq {s t n : Nat} (h : s &&& t = s) (hs : s.testBit n = true) :
    t.testBit n = true := by
  rw [← h, Nat.testBit_and, Bool.and_eq_true] at hs
  exact hs.2

/-- Base letters are of the class of their character, and they are not taken apart. -/
theorem of_mem_baseLetters {c d : Char} (h : d ∈ baseLetters c) :
    isLetterOrNumber d = isLetterOrNumber c ∧ decomposed.testBit d.toNat = false := by
  rcases mem_baseLetters h with ⟨rfl, hnot⟩ | ⟨base, hbase, rfl⟩ | ⟨hsyllable, m, hm, rfl⟩
  · exact ⟨rfl, hnot⟩
  · have hproper := isProper_of_baseOf? hbase
    simp only [isProper, Bool.and_eq_true, beq_iff_eq, Bool.not_eq_true', decide_eq_true_eq]
      at hproper
    obtain ⟨⟨hclass, hnot⟩, hvalid⟩ := hproper
    rw [isLetterOrNumber_eq, isLetterOrNumber_eq, toNat_ofNat hvalid]
    exact ⟨hclass, hnot⟩
  -- The letters of syllables are a block of their own, which the tables do not list.
  · have hblock := BaseLetter.of_mem_hangulLetters hsyllable hm
    have hplain := testBit_of_land_eq (n := m) tablesAgree.parts_plain
      (by simp [testBit_span, hblock])
    have hwhole := testBit_of_land_eq (n := c.toNat) tablesAgree.syllables_letters
      (by rw [syllables, testBit_span]; simp; omega)
    rw [testBit_plainLetters, Bool.and_eq_true, Bool.not_eq_true'] at hplain
    rw [isLetterOrNumber_eq, isLetterOrNumber_eq,
      toNat_ofNat (isValidChar_of_letters hplain.1), hwhole]
    exact hplain

/-! ### Capitals -/

/-- A letter or number that is not taken apart. -/
def IsPlain (c : Char) : Prop := plainLetters.testBit c.toNat = true

theorem isPlain_iff {c : Char} :
    IsPlain c ↔ isLetterOrNumber c = true ∧ decomposed.testBit c.toNat = false := by
  rw [IsPlain, testBit_plainLetters, isLetterOrNumber_eq, Bool.and_eq_true, Bool.not_eq_true']

theorem IsPlain.baseLetters_eq {c : Char} (h : IsPlain c) : baseLetters c = [c] := by
  obtain ⟨hletter, hnot⟩ := isPlain_iff.mp h
  exact baseLetters_of_not_decomposed (isMark_of_isLetterOrNumber hletter) hnot

theorem isPlain_of_mem_capitalForm {c d : Char} (hc : IsPlain c) (h : d ∈ capitalForm c) :
    IsPlain d := by
  rw [capitalForm_eq] at h
  obtain ⟨m, hm, rfl⟩ := List.mem_map.mp h
  have hplain : plainLetters.testBit m = true := by
    rcases Case.mem_formOf hm with ⟨entry, hentry, hkey, hm⟩ | ⟨s, hs, himage⟩ | ⟨rfl, -⟩
    · have hform := List.all_eq_true.mp tablesAgree.several_plain entry hentry
      rw [hkey, hc, Bool.not_true, Bool.false_or] at hform
      exact List.all_eq_true.mp hform m hm
    · obtain ⟨hsource, rfl⟩ := Case.Shift.mem_sources himage
      have hmoved :=
        List.all_eq_true.mp (List.all_eq_true.mp tablesAgree.capitals_plain s hs) _ hsource
      rwa [hc, Bool.not_true, Bool.false_or] at hmoved
    · exact hc
  have hletter : letters.testBit m = true := by
    rw [testBit_plainLetters, Bool.and_eq_true] at hplain
    exact hplain.1
  rw [IsPlain, toNat_ofNat (isValidChar_of_letters hletter)]
  exact hplain

end FlowPilot.Text
