import FlowPilot.Proofs.Text.Blank
import Mathlib.Data.List.TakeWhile

/-!
# Runs of characters

A text is read as runs of the characters of a class with gaps between them. The gaps only separate:
how long they are and what they hold does not matter, and at the ends of a text they do not matter
at all. So runs that are put together with a separator of the other class are found again, and a
part of a text keeps its runs inside the whole text, where the outer ones may be longer.

## Main definitions

* `Text.HasRuns`: a text consists of some runs and gaps.

## Main statements

* `Text.hasRuns_iff`: the runs that a text consists of are those that are read.
* `Text.runsOf_joined`: runs that were put together are read again.
* `Text.joined_runsOf_part`: the runs of a part are found inside the runs of the whole.
-/

namespace FlowPilot.Text

/-- A text consists of some runs, with gaps before, between and after them. No character of the
class follows a run. -/
inductive HasRuns (keep : Char → Bool) : List (List Char) → List Char → Prop
  | gap {gap : List Char} (hgap : ∀ c ∈ gap, keep c = false) : HasRuns keep [] gap
  | run {gap run rest : List Char} {runs : List (List Char)} (hgap : ∀ c ∈ gap, keep c = false)
      (hne : run ≠ []) (hrun : ∀ c ∈ run, keep c = true) (hend : ∀ c ∈ rest.head?, keep c = false)
      (hrest : HasRuns keep runs rest) : HasRuns keep (run :: runs) (gap ++ (run ++ rest))

variable {keep : Char → Bool}

/-! ### Reading runs -/

/-- A run that was begun takes what follows of its class, and reading starts afresh behind it. -/
theorem runsFrom_begun (pending : List Char) (hpending : pending ≠ []) (cs : List Char) :
    runsFrom keep pending cs =
      (pending.reverse ++ cs.takeWhile keep) :: runsOf keep (cs.dropWhile keep) := by
  induction cs generalizing pending with
  | nil => simp [runsFrom, runsOf, hpending]
  | cons c cs ih =>
    by_cases hc : keep c = true
    · simp [runsFrom, hc, ih (c :: pending) (List.cons_ne_nil c pending)]
    · simp [runsFrom, runsOf, hc, hpending]

theorem runsOf_cons {c : Char} (hc : keep c = true) (cs : List Char) :
    runsOf keep (c :: cs) = (c :: cs.takeWhile keep) :: runsOf keep (cs.dropWhile keep) := by
  have hbegun := @runsFrom_begun keep [c] (List.cons_ne_nil c []) cs
  simpa [runsOf, runsFrom, hc] using hbegun

/-- A run is read as a whole, together with what follows of its class. -/
theorem runsOf_run {run : List Char} (hne : run ≠ []) (hrun : ∀ c ∈ run, keep c = true)
    (rest : List Char) :
    runsOf keep (run ++ rest) =
      (run ++ rest.takeWhile keep) :: runsOf keep (rest.dropWhile keep) := by
  obtain ⟨c, cs, rfl⟩ := List.exists_cons_of_ne_nil hne
  have hcs : ∀ d ∈ cs, keep d = true := fun d hd => hrun d (List.mem_cons_of_mem c hd)
  rw [List.cons_append, runsOf_cons (hrun c List.mem_cons_self),
    List.takeWhile_append_of_pos hcs, List.dropWhile_append_of_pos hcs, List.cons_append]

/-- What follows a character of a gap is read on its own. -/
theorem runsFrom_append_cons {c : Char} (hc : keep c = false) (pending cs rest : List Char) :
    runsFrom keep pending (cs ++ c :: rest) = runsFrom keep pending cs ++ runsOf keep rest := by
  induction cs generalizing pending with
  | nil => cases pending <;> simp [runsFrom, runsOf, hc]
  | cons d cs ih =>
    rw [List.cons_append, runsFrom, runsFrom, ih, ih]
    split
    · rfl
    · split <;> rfl

/-- A gap at the end does not matter. -/
theorem runsOf_append_gap (cs : List Char) {gap : List Char} (hgap : ∀ c ∈ gap, keep c = false) :
    runsOf keep (cs ++ gap) = runsOf keep cs := by
  cases gap with
  | nil => rw [List.append_nil]
  | cons c gap =>
    obtain ⟨hc, hgap⟩ := List.forall_mem_cons.mp hgap
    have hnone := runsOf_gap hgap []
    rw [List.append_nil] at hnone
    rw [runsOf, runsFrom_append_cons hc, hnone]
    exact List.append_nil _

/-- What is cut off at the ends holds no run. -/
theorem runsOf_dropEndsWhile (cs : List Char) :
    runsOf keep (dropEndsWhile (!keep ·) cs) = runsOf keep cs := by
  have hgap : ∀ ds : List Char, ∀ c ∈ ds.takeWhile (!keep ·), keep c = false := fun ds c hc => by
    simpa using List.mem_takeWhile_imp hc
  have hend : ∀ ds : List Char, runsOf keep (dropEndWhile (!keep ·) ds) = runsOf keep ds := by
    intro ds
    have hsplit : dropEndWhile (!keep ·) ds ++ (ds.reverse.takeWhile (!keep ·)).reverse = ds := by
      rw [dropEndWhile, ← List.reverse_append, List.takeWhile_append_dropWhile,
        List.reverse_reverse]
    have hsame := runsOf_append_gap (dropEndWhile (!keep ·) ds)
      fun c hc => hgap ds.reverse c (List.mem_reverse.mp hc)
    rw [← hsame, hsplit]
  have hstart := runsOf_gap (hgap cs) (cs.dropWhile (!keep ·))
  rw [List.takeWhile_append_dropWhile] at hstart
  rw [dropEndsWhile, hend, hstart]

theorem HasRuns.runsOf_eq {runs : List (List Char)} {cs : List Char} (h : HasRuns keep runs cs) :
    runsOf keep cs = runs := by
  induction h with
  | @gap gap hgap =>
    have hnone := runsOf_gap hgap []
    rwa [List.append_nil] at hnone
  | run hgap hne hrun hend _ ih =>
    obtain ⟨htake, hdrop⟩ := split_at_end hend
    rw [runsOf_gap hgap, runsOf_run hne hrun, htake, hdrop, List.append_nil, ih]

/-- A text consists of the runs that are read from it. -/
theorem hasRuns_runsOf (cs : List Char) : HasRuns keep (runsOf keep cs) cs := by
  -- A gap and a run of the class are cut off; what is left is shorter.
  induction hn : cs.length using Nat.strong_induction_on generalizing cs with
  | _ n ih =>
    have hgap : ∀ c ∈ cs.takeWhile (!keep ·), keep c = false := fun c hc => by
      simpa using List.mem_takeWhile_imp hc
    have hcs : cs.takeWhile (!keep ·) ++ cs.dropWhile (!keep ·) = cs :=
      List.takeWhile_append_dropWhile
    have hruns := runsOf_gap hgap (cs.dropWhile (!keep ·))
    rw [hcs] at hruns
    cases hrest : cs.dropWhile (!keep ·) with
    | nil =>
      rw [hrest, List.append_nil] at hcs
      rw [hruns, hrest]
      exact .gap (hcs ▸ hgap)
    | cons c after =>
      have hc : keep c = true := by
        have hhead := List.head?_dropWhile_not (!keep ·) cs
        rw [hrest] at hhead
        simpa using hhead
      have hafter : c :: after.takeWhile keep ++ after.dropWhile keep = c :: after := by
        rw [List.cons_append, List.takeWhile_append_dropWhile]
      have hshorter : (after.dropWhile keep).length < n := by
        have hdrop := (List.dropWhile_sublist (l := after) keep).length_le
        have htotal := congrArg List.length hcs
        rw [hrest, List.length_append, List.length_cons] at htotal
        omega
      have hrun : ∀ d ∈ c :: after.takeWhile keep, keep d = true :=
        List.forall_mem_cons.mpr ⟨hc, fun d hd => List.mem_takeWhile_imp hd⟩
      have hend : ∀ d ∈ (after.dropWhile keep).head?, keep d = false := by
        intro d hd
        have hhead := List.head?_dropWhile_not keep after
        rw [Option.mem_def.mp hd] at hhead
        simpa using hhead
      have htext := HasRuns.run hgap (List.cons_ne_nil c _) hrun hend (ih _ hshorter _ rfl)
      rw [hafter, ← hrest, hcs] at htext
      rwa [hruns, hrest, runsOf_cons hc]

/-- The runs that a text consists of are those that are read from it. -/
theorem hasRuns_iff {runs : List (List Char)} {cs : List Char} :
    HasRuns keep runs cs ↔ runsOf keep cs = runs :=
  ⟨HasRuns.runsOf_eq, fun h => h ▸ hasRuns_runsOf cs⟩

/-- A run holds characters of its class, at least one. -/
theorem of_mem_runsOf {run cs : List Char} (h : run ∈ runsOf keep cs) :
    run ≠ [] ∧ ∀ c ∈ run, keep c = true := by
  have hruns : HasRuns keep (runsOf keep cs) cs := hasRuns_runsOf cs
  generalize runsOf keep cs = runs at h hruns
  induction hruns with
  | gap => exact absurd h List.not_mem_nil
  | run _ hne hrun _ _ ih =>
    rcases List.mem_cons.mp h with rfl | h
    · exact ⟨hne, hrun⟩
    · exact ih h

/-- The characters of a run are characters of the text. -/
theorem subset_of_mem_runsOf {run cs : List Char} (h : run ∈ runsOf keep cs) : run ⊆ cs := by
  have hruns : HasRuns keep (runsOf keep cs) cs := hasRuns_runsOf cs
  generalize runsOf keep cs = runs at h hruns
  induction hruns with
  | gap => exact absurd h List.not_mem_nil
  | @run gap first rest runs _ _ _ _ _ ih =>
    intro c hc
    rcases List.mem_cons.mp h with rfl | h
    · simp [hc]
    · simp [ih h hc]

/-! ### Putting runs together -/

theorem joined_cons (sep piece : List Char) {rest : List (List Char)} (h : rest ≠ []) :
    joined sep (piece :: rest) = piece ++ sep ++ joined sep rest := by
  obtain ⟨second, others, rfl⟩ := List.exists_cons_of_ne_nil h
  rfl

/-- What is put together consists of the characters of the pieces and of the separator. -/
theorem mem_joined {sep : List Char} {pieces : List (List Char)} {c : Char}
    (h : c ∈ joined sep pieces) : c ∈ sep ∨ ∃ piece ∈ pieces, c ∈ piece := by
  induction pieces with
  | nil => exact absurd h List.not_mem_nil
  | cons piece rest ih =>
    by_cases hrest : rest = []
    · subst hrest
      exact .inr ⟨piece, List.mem_cons_self, h⟩
    · rw [joined_cons sep piece hrest, List.mem_append, List.mem_append] at h
      rcases h with (h | h) | h
      · exact .inr ⟨piece, List.mem_cons_self, h⟩
      · exact .inl h
      · exact (ih h).imp_right fun ⟨p, hp, hc⟩ => ⟨p, List.mem_cons_of_mem piece hp, hc⟩

/-- Runs with a separator between them are the runs of the whole. -/
theorem hasRuns_joined {sep : List Char} (hne : sep ≠ []) (hsep : ∀ c ∈ sep, keep c = false)
    {pieces : List (List Char)} (hpieces : ∀ p ∈ pieces, p ≠ [] ∧ ∀ c ∈ p, keep c = true) :
    HasRuns keep pieces (joined sep pieces) := by
  have hnone : ∀ c ∈ ([] : List Char), keep c = false := fun c hc => absurd hc List.not_mem_nil
  induction pieces with
  | nil => exact .gap hnone
  | cons piece rest ih =>
    obtain ⟨hpiece, hkept⟩ := hpieces piece List.mem_cons_self
    have hrest := ih fun p hp => hpieces p (List.mem_cons_of_mem piece hp)
    cases rest with
    | nil =>
      have hlast : HasRuns keep [piece] ([] ++ piece ++ []) :=
        .run hnone hpiece hkept (by simp) (.gap hnone)
      simpa [joined] using hlast
    | cons second others =>
      -- The separator is the gap before the second run.
      have hgapped : HasRuns keep (second :: others) (sep ++ joined sep (second :: others)) := by
        rw [hasRuns_iff, runsOf_gap hsep]
        exact hasRuns_iff.mp hrest
      have hend : ∀ c ∈ (sep ++ joined sep (second :: others)).head?, keep c = false := by
        obtain ⟨c, cs, rfl⟩ := List.exists_cons_of_ne_nil hne
        simpa using hsep c List.mem_cons_self
      have hfirst := HasRuns.run hnone hpiece hkept hend hgapped
      rwa [List.nil_append, ← List.append_assoc] at hfirst

theorem runsOf_joined {sep : List Char} (hne : sep ≠ []) (hsep : ∀ c ∈ sep, keep c = false)
    {pieces : List (List Char)} (hpieces : ∀ p ∈ pieces, p ≠ [] ∧ ∀ c ∈ p, keep c = true) :
    runsOf keep (joined sep pieces) = pieces :=
  (hasRuns_joined hne hsep hpieces).runsOf_eq

/-! ### Parts of a text -/

section Parts

variable (sep : List Char)

theorem joined_suffix_cons (piece : List Char) (rest : List (List Char)) :
    joined sep rest <:+ joined sep (piece :: rest) := by
  cases rest with
  | nil => exact List.nil_suffix
  | cons second others => exact ⟨piece ++ sep, rfl⟩

theorem joined_longer (c : Char) (piece : List Char) (rest : List (List Char)) :
    joined sep ((c :: piece) :: rest) = c :: joined sep (piece :: rest) := by
  cases rest <;> rfl

/-- What precedes a text does not change its runs, except that the first one may begin earlier. -/
theorem joined_runsOf_suffix (before cs : List Char) :
    joined sep (runsOf keep cs) <:+ joined sep (runsOf keep (before ++ cs)) := by
  induction before with
  | nil => exact List.suffix_rfl
  | cons c before ih =>
    refine ih.trans ?_
    rw [List.cons_append]
    generalize before ++ cs = rest
    -- One more character in front makes the first run longer, is a run of its own, or adds nothing.
    by_cases hc : keep c = true
    · rw [runsOf_cons hc]
      cases rest with
      | nil => exact List.nil_suffix
      | cons d rest =>
        by_cases hd : keep d = true
        · rw [runsOf_cons hd, List.takeWhile_cons_of_pos hd, List.dropWhile_cons_of_pos hd,
            joined_longer sep c]
          exact List.suffix_cons c _
        · rw [List.takeWhile_cons_of_neg hd, List.dropWhile_cons_of_neg hd]
          exact joined_suffix_cons sep [c] _
    · have hgap : ∀ d ∈ [c], keep d = false := by simpa using hc
      have hskip : runsOf keep (c :: rest) = runsOf keep rest := runsOf_gap hgap rest
      exact hskip ▸ List.suffix_rfl

theorem joined_prefix_cons (piece : List Char) {rest others : List (List Char)}
    (h : joined sep rest <+: joined sep others) (hne : rest ≠ [] → others ≠ []) :
    joined sep (piece :: rest) <+: joined sep (piece :: others) := by
  by_cases hrest : rest = []
  · rw [hrest]
    cases others with
    | nil => exact List.prefix_rfl
    | cons second others => exact ⟨sep ++ joined sep (second :: others), by simp [joined]⟩
  · rw [joined_cons sep piece hrest, joined_cons sep piece (hne hrest)]
    exact (List.prefix_append_right_inj _).mpr h

/-- What follows a text does not change its runs, except that the last one may go on. -/
theorem joined_runsOf_append (cs after : List Char) :
    joined sep (runsOf keep cs) <+: joined sep (runsOf keep (cs ++ after)) := by
  have hruns : HasRuns keep (runsOf keep cs) cs := hasRuns_runsOf cs
  generalize runsOf keep cs = runs at hruns
  induction hruns with
  | gap => exact List.nil_prefix
  | @run gap run rest runs hgap hne hrun hend hrest ih =>
    rw [List.append_assoc, List.append_assoc, runsOf_gap hgap, runsOf_run hne hrun]
    cases rest with
    | nil =>
      obtain rfl : runs = [] := hrest.runsOf_eq.symm
      rw [List.nil_append]
      cases hlater : runsOf keep (after.dropWhile keep) with
      | nil => exact List.prefix_append run _
      | cons second others =>
        rw [joined_cons sep _ (List.cons_ne_nil second others), List.append_assoc,
          List.append_assoc]
        exact List.prefix_append run _
    | cons c rest =>
      have hends : ∀ d ∈ (c :: rest ++ after).head?, keep d = false := by simpa using hend
      obtain ⟨htake, hdrop⟩ := split_at_end hends
      rw [htake, hdrop, List.append_nil]
      refine joined_prefix_cons sep run ih fun hmore hnone => ?_
      -- A further run is a part of the text that is left.
      obtain ⟨first, others, rfl⟩ := List.exists_cons_of_ne_nil hmore
      rw [hnone] at ih
      have hfirst := of_mem_runsOf (hrest.runsOf_eq ▸ List.mem_cons_self (a := first) (l := others))
      exact joined_ne_nil List.mem_cons_self hfirst.1 (List.prefix_nil.mp ih)

/-- The runs of a part are found in the runs of the whole, in one piece. -/
theorem joined_runsOf_part {part cs : List Char} (h : part <:+: cs) :
    joined sep (runsOf keep part) <:+: joined sep (runsOf keep cs) := by
  obtain ⟨before, after, rfl⟩ := h
  rw [List.append_assoc]
  exact (joined_runsOf_append sep part after).isInfix.trans
    (joined_runsOf_suffix sep before (part ++ after)).isInfix

end Parts

end FlowPilot.Text
