import FlowPilot.Text.Normal
import Mathlib.Data.List.TakeWhile

/-!
# Texts that are not blank

A text that holds more than blanks still does so without the blanks at its ends, and its normal
form is not empty. So a text that was found once cannot get lost on the way to a comparison. Of
blanks nothing is left.

## Main statements

* `Text.isBlankText_trim`: cutting off blanks leaves a text that is not blank.
* `Text.normal_ne_empty`: the normal form of a text that is not blank is not empty.
-/

namespace FlowPilot.Text

theorem isBlankText_eq_false_iff {s : String} :
    isBlankText s = false ↔ ∃ c ∈ s.toList, isBlank c = false := by
  simp [isBlankText]

theorem ne_empty_of_not_blank {s : String} (h : isBlankText s = false) : s ≠ "" := by
  rintro rfl
  exact absurd h (by decide)

/-! ### Blanks at the ends -/

/-- Where no character of a class comes next, a run of the class ends. -/
theorem split_at_end {keep : Char → Bool} {cs : List Char}
    (hend : ∀ c ∈ cs.head?, keep c = false) :
    cs.takeWhile keep = [] ∧ cs.dropWhile keep = cs := by
  cases cs with
  | nil => exact ⟨rfl, rfl⟩
  | cons c cs =>
    have hc : keep c = false := hend c rfl
    simp [hc]

theorem mem_dropWhile {p : Char → Bool} {c : Char} {cs : List Char} (hc : c ∈ cs)
    (hp : p c = false) : c ∈ cs.dropWhile p := by
  rw [← List.takeWhile_append_dropWhile (p := p) (l := cs), List.mem_append] at hc
  refine hc.resolve_left fun htaken => ?_
  rw [List.mem_takeWhile_imp htaken] at hp
  exact Bool.noConfusion hp

theorem mem_dropEndsWhile {p : Char → Bool} {c : Char} {cs : List Char} (hc : c ∈ cs)
    (hp : p c = false) : c ∈ dropEndsWhile p cs :=
  List.mem_reverse.mpr (mem_dropWhile (List.mem_reverse.mpr (mem_dropWhile hc hp)) hp)

theorem mem_of_mem_dropEndsWhile {p : Char → Bool} {c : Char} {cs : List Char}
    (hc : c ∈ dropEndsWhile p cs) : c ∈ cs :=
  (List.dropWhile_sublist p).mem
    (List.mem_reverse.mp ((List.dropWhile_sublist p).mem (List.mem_reverse.mp hc)))

theorem isBlankText_trim {s : String} (h : isBlankText s = false) :
    isBlankText (trim s) = false := by
  obtain ⟨c, hc, hblank⟩ := isBlankText_eq_false_iff.mp h
  refine isBlankText_eq_false_iff.mpr ⟨c, ?_, hblank⟩
  rw [trim, String.toList_ofList]
  exact mem_dropEndsWhile hc hblank

theorem trim_of_blank {s : String} (h : isBlankText s = true) : trim s = "" := by
  have hall : s.toList.dropWhile isBlank = [] :=
    List.dropWhile_eq_nil_iff.mpr (List.all_eq_true.mp h)
  rw [trim, dropEndsWhile, hall]
  rfl

/-- Without blanks there is nothing to cut off. -/
theorem trim_of_not_blank {s : String} (h : ∀ c ∈ s.toList, isBlank c = false) : trim s = s := by
  have hstart := (split_at_end fun c hc => h c (List.mem_of_mem_head? hc)).2
  have hend := (split_at_end fun c hc =>
    h c (List.mem_reverse.mp (List.mem_of_mem_head? hc))).2
  rw [trim, dropEndsWhile, dropEndWhile, hstart, hend, List.reverse_reverse, String.ofList_toList]

theorem trimmed?_of_not_blank {s : String} (h : isBlankText s = false) :
    trimmed? s = some (trim s) := by
  rw [trimmed?, h]
  rfl

/-! ### Normal forms -/

/-- A gap at the start does not matter. -/
theorem runsOf_gap {keep : Char → Bool} {gap : List Char} (hgap : ∀ c ∈ gap, keep c = false)
    (rest : List Char) : runsOf keep (gap ++ rest) = runsOf keep rest := by
  induction gap with
  | nil => rfl
  | cons c gap ih =>
    have hc : keep c = false := hgap c List.mem_cons_self
    simpa [runsOf, runsFrom, hc] using ih fun d hd => hgap d (List.mem_cons_of_mem c hd)

/-- A character of a class belongs to a run, and so does a run that was begun. -/
theorem exists_run_ne_nil (keep : Char → Bool) (cs : List Char) :
    ∀ pending : List Char, pending ≠ [] ∨ (∃ c ∈ cs, keep c = true) →
      ∃ run ∈ runsFrom keep pending cs, run ≠ [] := by
  induction cs with
  | nil =>
    rintro pending (hpending | ⟨c, hc, -⟩)
    · refine ⟨pending.reverse, ?_, by simpa using hpending⟩
      simp [runsFrom, hpending]
    · exact absurd hc List.not_mem_nil
  | cons c cs ih =>
    intro pending h
    rw [runsFrom]
    by_cases hkeep : keep c = true
    · rw [if_pos hkeep]
      exact ih _ (.inl (List.cons_ne_nil c pending))
    rw [if_neg hkeep]
    cases pending with
    | nil =>
      obtain ⟨d, hd, hkept⟩ := h.resolve_left fun hne => hne rfl
      have hrest : d ∈ cs := by
        refine (List.mem_cons.mp hd).resolve_left ?_
        rintro rfl
        exact hkeep hkept
      exact ih [] (.inr ⟨d, hrest, hkept⟩)
    | cons d pending => exact ⟨_, List.mem_cons_self, by simp⟩

theorem joined_ne_nil {sep piece : List Char} {pieces : List (List Char)} (hmem : piece ∈ pieces)
    (hne : piece ≠ []) : joined sep pieces ≠ [] := by
  induction pieces with
  | nil => exact absurd hmem List.not_mem_nil
  | cons first rest ih =>
    cases rest with
    | nil => rwa [joined, ← List.mem_singleton.mp hmem]
    | cons second rest =>
      show first ++ sep ++ joined sep (second :: rest) ≠ []
      rcases List.mem_cons.mp hmem with rfl | hmem
      · simp [hne]
      · simp [ih hmem]

theorem formOf_ne_nil {several : List (Nat × List Nat)} (h : ∀ form ∈ several, form.2 ≠ [])
    (shifts : List Case.Shift) (n : Nat) : Case.formOf several shifts n ≠ [] := by
  unfold Case.formOf
  cases hform : several.lookup n with
  | some form =>
    obtain ⟨before, after, hsplit, -⟩ := List.lookup_eq_some_iff.mp hform
    exact h (n, form) (by simp [hsplit])
  | none => cases shifts.findSome? (·.image? n) <;> simp

theorem smallForm_ne_nil (c : Char) : smallForm c ≠ [] := by
  unfold smallForm
  split
  · exact List.cons_ne_nil _ _
  · rw [ne_eq, List.map_eq_nil_iff]
    exact formOf_ne_nil (by decide) _ _

theorem capitalForm_ne_nil (c : Char) : capitalForm c ≠ [] := by
  unfold capitalForm
  split
  · exact List.cons_ne_nil _ _
  · rw [ne_eq, List.map_eq_nil_iff]
    exact formOf_ne_nil (by decide +kernel) _ _

theorem lower_ne_empty {s : String} (h : s ≠ "") : lower s ≠ "" := by
  have hchars : ∀ cs : List Char, cs ≠ [] → lowerFrom [] cs ≠ [] := by
    intro cs hcs
    obtain ⟨c, rest, rfl⟩ := List.exists_cons_of_ne_nil hcs
    rw [lowerFrom]
    split <;> simp [smallForm_ne_nil]
  have hne : lowerFrom [] s.toList ≠ [] := hchars _ (by simpa using h)
  simpa [lower] using hne

/-- The normal form of blanks is empty: they are one gap. -/
theorem normal_of_blank {s : String} (h : isBlankText s = true) : normal s = "" := by
  have hgap : ∀ c ∈ s.toList, (!isBlank c) = false := fun c hc => by
    simp [List.all_eq_true.mp h c hc]
  have hwords : words s.toList = [] := by
    have hruns := runsOf_gap hgap []
    rwa [List.append_nil] at hruns
  rw [normal, singleSpaced, hwords]
  rfl

theorem normal_ne_empty {s : String} (h : isBlankText s = false) : normal s ≠ "" := by
  obtain ⟨c, hc, hblank⟩ := isBlankText_eq_false_iff.mp h
  obtain ⟨run, hrun, hne⟩ := exists_run_ne_nil (fun c => !isBlank c) s.toList []
    (.inr ⟨c, hc, by simp [hblank]⟩)
  have hjoined : joined [' '] (words s.toList) ≠ [] := joined_ne_nil hrun hne
  exact lower_ne_empty (by simpa [singleSpaced] using hjoined)

end FlowPilot.Text
