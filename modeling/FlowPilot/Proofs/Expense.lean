import FlowPilot.Expense
import FlowPilot.Proofs.Text.BaseLetter
import FlowPilot.Proofs.Text.Runs

/-!
# Keys of expense categories

A key is made of runs of letters and numbers with one underscore between them. Its letters are
capitals without marks, so it is its own key. Marks never matter, and what stands between the runs
of a name only separates them: names of the same runs have the same key, and with it the same hint.

## Main statements

* `Expense.exists_runs_key`: the runs of a key.
* `Expense.key_key`: a key is its own key.
* `Expense.runsOf_baseLetters`: the runs of a name, and those of its letters without marks.
* `Expense.key_canonical`: the form of keys, and what they do not depend on.
-/

namespace FlowPilot.Expense

open Text

/-- A character of keys: a letter or number without marks that is its own capital. -/
def IsKeyLetter (c : Char) : Prop := IsPlain c ∧ capitalForm c = [c]

/-- The letters and numbers that are left of a name become characters of keys. -/
theorem isKeyLetter_of_mem {c d e : Char} (hd : d ∈ baseLetters c)
    (hletter : isLetterOrNumber d = true) (he : e ∈ capitalForm d) : IsKeyLetter e :=
  ⟨isPlain_of_mem_capitalForm (isPlain_iff.mpr ⟨hletter, (of_mem_baseLetters hd).2⟩) he,
    capitalForm_of_mem he⟩

/-- The runs of letters and numbers of a name. -/
def nameRuns (name : String) : List (List Char) :=
  runsOf isLetterOrNumber (name.toList.flatMap baseLetters)

/-- The runs of a key: those of the name in capitals. -/
def keyRuns (name : String) : List (List Char) := (nameRuns name).map (·.flatMap capitalForm)

theorem toList_key (name : String) : (key name).toList = joined ['_'] (keyRuns name) := by
  rw [key, String.toList_ofList]
  rfl

/-- The runs of a key are not empty, and they consist of characters of keys. -/
theorem of_mem_keyRuns {name : String} {run : List Char} (h : run ∈ keyRuns name) :
    run ≠ [] ∧ ∀ e ∈ run, IsKeyLetter e := by
  obtain ⟨found, hfound, rfl⟩ := List.mem_map.mp h
  obtain ⟨hne, hletters⟩ := of_mem_runsOf hfound
  constructor
  · obtain ⟨d, rest, rfl⟩ := List.exists_cons_of_ne_nil hne
    rw [List.flatMap_cons]
    exact List.append_ne_nil_of_left_ne_nil (capitalForm_ne_nil d) _
  · intro e he
    obtain ⟨d, hd, he⟩ := List.mem_flatMap.mp he
    obtain ⟨c, -, hbase⟩ := List.mem_flatMap.mp (subset_of_mem_runsOf hfound hd)
    exact isKeyLetter_of_mem hbase (hletters d hd) he

theorem IsKeyLetter.isLetterOrNumber {c : Char} (h : IsKeyLetter c) : isLetterOrNumber c = true :=
  (isPlain_iff.mp h.1).1

theorem exists_runs_key (name : String) :
    ∃ runs : List (List Char), (∀ run ∈ runs, run ≠ [] ∧ ∀ c ∈ run, isLetterOrNumber c = true) ∧
      (key name).toList = joined ['_'] runs :=
  ⟨keyRuns name, fun _ h => ⟨(of_mem_keyRuns h).1,
    fun c hc => ((of_mem_keyRuns h).2 c hc).isLetterOrNumber⟩, toList_key name⟩

/-! ### Keys of keys -/

theorem flatMap_eq_self {f : Char → List Char} {cs : List Char} (h : ∀ c ∈ cs, f c = [c]) :
    cs.flatMap f = cs := by
  induction cs with
  | nil => rfl
  | cons c cs ih =>
    rw [List.flatMap_cons, h c List.mem_cons_self, ih fun d hd => h d (List.mem_cons_of_mem c hd)]
    rfl

/-- The runs that are found in a key are those that it is made of. -/
theorem nameRuns_key (name : String) : nameRuns (key name) = keyRuns name := by
  have hself : (joined ['_'] (keyRuns name)).flatMap baseLetters = joined ['_'] (keyRuns name) := by
    refine flatMap_eq_self fun c hc => ?_
    rcases mem_joined hc with hc | ⟨run, hrun, hc⟩
    · rw [List.mem_singleton.mp hc]
      decide +kernel
    · exact ((of_mem_keyRuns hrun).2 c hc).1.baseLetters_eq
  rw [nameRuns, toList_key, hself]
  refine runsOf_joined (List.cons_ne_nil '_' []) (List.forall_mem_singleton.mpr ?_) fun run hrun =>
    ⟨(of_mem_keyRuns hrun).1, fun c hc => ((of_mem_keyRuns hrun).2 c hc).isLetterOrNumber⟩
  decide +kernel

theorem keyRuns_key (name : String) : keyRuns (key name) = keyRuns name := by
  rw [keyRuns, nameRuns_key]
  refine (List.map_congr_left fun run hrun => ?_).trans (List.map_id _)
  exact flatMap_eq_self fun c hc => ((of_mem_keyRuns hrun).2 c hc).2

theorem key_eq (name : String) : key name = String.ofList (joined ['_'] (keyRuns name)) := rfl

theorem key_key (name : String) : key (key name) = key name := by
  rw [key_eq (key name), keyRuns_key, ← key_eq]

/-! ### What keys depend on -/

/-- Names of the same runs have the same key. -/
theorem key_congr {s t : String} (h : nameRuns s = nameRuns t) : key s = key t := by
  rw [key_eq, key_eq, keyRuns, keyRuns, h]

theorem hint?_congr {s t : String} (h : key s = key t) : hint? s = hint? t := by
  rw [hint?, hint?, h]

/-- What belongs to a run of a name: letters, numbers and the marks on them. -/
def belongs (c : Char) : Bool := isLetterOrNumber c || isMark c

/-- What is left of letters, numbers and marks are letters and numbers. -/
theorem isLetterOrNumber_of_belongs {c d : Char} (hc : belongs c = true)
    (hd : d ∈ baseLetters c) : isLetterOrNumber d = true := by
  rcases Bool.or_eq_true_iff.mp hc with hletter | hmark
  · rw [(of_mem_baseLetters hd).1, hletter]
  · have hnone : baseLetters c = [] := baseLetters_of_isMark hmark
    rw [hnone] at hd
    exact absurd hd List.not_mem_nil

/-- Of what belongs to no run something is left that belongs to none. -/
theorem baseLetters_of_not_belongs {c : Char} (hc : belongs c = false) :
    baseLetters c ≠ [] ∧ ∀ d ∈ baseLetters c, isLetterOrNumber d = false := by
  obtain ⟨hletter, hmark⟩ := Bool.or_eq_false_iff.mp hc
  exact ⟨baseLetters_ne_nil hmark, fun d hd => (of_mem_baseLetters hd).1.trans hletter⟩

/-- The runs that are left of a name are what is left of its runs. A run that consists of marks
leaves none. -/
theorem runsOf_baseLetters {runs : List (List Char)} {cs : List Char}
    (h : HasRuns belongs runs cs) :
    runsOf isLetterOrNumber (cs.flatMap baseLetters) =
      (runs.map (·.flatMap baseLetters)).filter (· ≠ []) := by
  have hgap : ∀ gap : List Char, (∀ c ∈ gap, belongs c = false) →
      ∀ d ∈ gap.flatMap baseLetters, isLetterOrNumber d = false := by
    intro gap hgap d hd
    obtain ⟨c, hc, hd⟩ := List.mem_flatMap.mp hd
    exact (baseLetters_of_not_belongs (hgap c hc)).2 d hd
  induction h with
  | @gap gap hnone =>
    have hempty := runsOf_gap (hgap gap hnone) []
    rwa [List.append_nil] at hempty
  | @run gap run rest runs hnone _ hrun hend _ ih =>
    rw [List.flatMap_append, List.flatMap_append, runsOf_gap (hgap gap hnone), List.map_cons]
    by_cases hleft : run.flatMap baseLetters = []
    · rw [hleft, List.nil_append, ih, List.filter_cons_of_neg (by simp)]
    · have hletters : ∀ d ∈ run.flatMap baseLetters, isLetterOrNumber d = true := by
        intro d hd
        obtain ⟨c, hc, hd⟩ := List.mem_flatMap.mp hd
        exact isLetterOrNumber_of_belongs (hrun c hc) hd
      -- What follows the run leaves something, so the runs on both sides stay apart.
      have hafter : ∀ d ∈ (rest.flatMap baseLetters).head?, isLetterOrNumber d = false := by
        cases rest with
        | nil => exact nofun
        | cons c rest =>
          obtain ⟨hne, hout⟩ := baseLetters_of_not_belongs (hend c rfl)
          obtain ⟨d, ds, hds⟩ := List.exists_cons_of_ne_nil hne
          rw [List.flatMap_cons, hds]
          intro e he
          rw [← Option.some.inj he]
          exact hout d (hds ▸ List.mem_cons_self)
      obtain ⟨htake, hdrop⟩ := split_at_end hafter
      rw [runsOf_run hleft hletters, htake, hdrop, List.append_nil, ih,
        List.filter_cons_of_pos (by simpa using hleft)]

/-- A key is empty or consists of runs of letters and numbers with one underscore between them, and
it is its own key, so it finds the hint that the name finds. Names that differ in marks alone have
the same key and hint. So have names whose letters without marks form the same runs, and names with
the same runs of letters, numbers and marks, whatever stands between, before and after the runs. -/
theorem key_canonical :
    (∀ s : String, ∃ runs : List (List Char),
      (∀ run ∈ runs, run ≠ [] ∧ ∀ c ∈ run, isLetterOrNumber c = true) ∧
        (key s).toList = joined ['_'] runs) ∧
    (∀ s : String, key (key s) = key s) ∧
    (∀ s : String, hint? s = hint? (key s)) ∧
    (∀ s t : String, s.toList.flatMap baseLetters = t.toList.flatMap baseLetters →
      key s = key t ∧ hint? s = hint? t) ∧
    (∀ (runs : List (List Char)) (s t : String),
      HasRuns isLetterOrNumber runs (s.toList.flatMap baseLetters) →
      HasRuns isLetterOrNumber runs (t.toList.flatMap baseLetters) →
      key s = key t ∧ hint? s = hint? t) ∧
    ∀ (runs : List (List Char)) (s t : String), HasRuns belongs runs s.toList →
      HasRuns belongs runs t.toList → key s = key t ∧ hint? s = hint? t := by
  have hsame : ∀ s t : String, nameRuns s = nameRuns t → key s = key t ∧ hint? s = hint? t :=
    fun s t h => ⟨key_congr h, hint?_congr (key_congr h)⟩
  refine ⟨exists_runs_key, key_key, fun s => hint?_congr (key_key s).symm, ?_, ?_, ?_⟩
  · intro s t h
    exact hsame s t (by rw [nameRuns, nameRuns, h])
  · intro runs s t hs ht
    exact hsame s t (hs.runsOf_eq.trans ht.runsOf_eq.symm)
  · intro runs s t hs ht
    exact hsame s t ((runsOf_baseLetters hs).trans (runsOf_baseLetters ht).symm)

/-- An accent that is a character of its own, other separators between the words, and both. -/
theorem key_canonical_accents :
    (key "Alimentación" = key "Alimentacio\u0301n" ∧
      hint? "Alimentación" = hint? "Alimentacio\u0301n") ∧
    (key "Educación, Arte" = key "Educacio\u0301n--Arte!" ∧
      hint? "Educación, Arte" = hint? "Educacio\u0301n--Arte!") ∧
    key "Educación, Arte" = key "(Educación) Arte" ∧
      hint? "Educación, Arte" = hint? "(Educación) Arte" := by
  obtain ⟨-, -, -, hmarks, hletters, hruns⟩ := key_canonical
  refine ⟨hmarks _ _ (by decide +kernel), ?_, ?_⟩
  · exact hletters [['E', 'd', 'u', 'c', 'a', 'c', 'i', 'o', 'n'], ['A', 'r', 't', 'e']] _ _
      (hasRuns_iff.mpr (by decide +kernel)) (hasRuns_iff.mpr (by decide +kernel))
  · exact hruns [['E', 'd', 'u', 'c', 'a', 'c', 'i', 'ó', 'n'], ['A', 'r', 't', 'e']] _ _
      (hasRuns_iff.mpr (by decide +kernel)) (hasRuns_iff.mpr (by decide +kernel))

end FlowPilot.Expense
