import FlowPilot.Proofs.Flow.Trying

/-!
# Sequences one after the other

A runner keeps nothing between two steps but what its steps act on. So a sequence may be cut in two
anywhere: the second part runs on what the first one left, and only if that succeeded. The log has
two lines for each step of the sequence itself, and a step that fails is the last one that acts.

## Main definitions

* `LogEntry.shift`: a line of a log in which the indices begin later.
* `Sequence.withSteps`: a sequence with other steps.
* `LogEntry.marksOf`: what the log says about a step that was filled in.

## Main statements

* `Runner.runSteps_append`: steps run in two parts.
* `Runner.marks_of_runSteps`: what the log of steps says.
* `Runner.exists_last_of_error`: steps that fail end with one that fails, whatever follows it.
* `Runner.run_append`: the same for sequences.
-/

namespace FlowPilot

/-- The kind that a template names, empty when it names none. -/
def Json.kindName (template : Json) : String := ((template.get? "type").bind Json.text?).getD ""

namespace LogEntry

/-- A line of a log in which the indices begin later. -/
def shift (n : Nat) (e : LogEntry) : LogEntry := { e with index := e.index + n }

/-- What a line of a log says, the time apart. -/
def mark (e : LogEntry) : Nat × String × Progress := (e.index, e.kind, e.progress)

/-- What the log says about a step that was filled in: it was started and is done. -/
def marksOf : Json × Nat → List (Nat × String × Progress)
  | (filled, index) => [(index, filled.kindName, .started), (index, filled.kindName, .done)]

end LogEntry

/-- A sequence with other steps. -/
def Sequence.withSteps (s : Sequence) (steps : List Json) : Sequence := { s with steps := steps }

namespace Runner

variable {σ : Type} [Clock σ] {r : Runner σ} {nested : Sequence → Act σ Unit}

open Act

/-! ### Steps in two parts -/

theorem logLine_shift (index n : Nat) (kind : String) (progress : LogEntry.Progress) :
    (logLine (index + n) kind progress : Act σ LogEntry) =
      LogEntry.shift n <$> logLine index kind progress :=
  rfl

/-- A step does not see its index. -/
theorem runStep_shift (s : Sequence) (depth index n : Nat) (template : Json) :
    r.runStep nested s depth (index + n) template =
      List.map (LogEntry.shift n) <$> r.runStep nested s depth index template := by
  simp only [runStep, logLine_shift, map_bind, bind_map_left, map_pure]
  rfl

theorem runSteps_shift (s : Sequence) (depth n : Nat) (templates : List Json) :
    ∀ index, r.runSteps nested s depth (index + n) templates =
      List.map (LogEntry.shift n) <$> r.runSteps nested s depth index templates := by
  induction templates with
  | nil => exact fun _ => rfl
  | cons template rest ih =>
    intro index
    have hrest := ih (index + 1)
    rw [Nat.add_right_comm] at hrest
    simp only [runSteps, runStep_shift, hrest, map_bind, bind_map_left, map_pure, List.map_append]

/-- Steps run in two parts, the second one on what the first one left. -/
theorem runSteps_append (s : Sequence) (depth : Nat) (first second : List Json) :
    ∀ index, r.runSteps nested s depth index (first ++ second) = (do
      let log ← r.runSteps nested s depth index first
      let more ← r.runSteps nested s depth (index + first.length) second
      return log ++ more) := by
  induction first with
  | nil => intro index; simp [runSteps]
  | cons template rest ih =>
    intro index
    have hlength : index + (template :: rest).length = index + 1 + rest.length := by
      rw [List.length_cons]
      omega
    simp only [List.cons_append, runSteps, ih, hlength, bind_assoc, pure_bind, List.append_assoc]

/-- Steps see the name, the variables and the time of their sequence, not its other steps. -/
theorem runSteps_withSteps (s : Sequence) (steps : List Json) (depth : Nat)
    (templates : List Json) :
    ∀ index, r.runSteps nested (s.withSteps steps) depth index templates =
      r.runSteps nested s depth index templates := by
  induction templates with
  | nil => exact fun _ => rfl
  | cons template rest ih =>
    intro index
    rw [runSteps, runSteps, ih]
    simp only [runStep, Sequence.withSteps, performStep_with_steps]

/-! ### What the log says -/

/-- A step that succeeds was filled in, and has two lines in the log. -/
theorem marks_of_runStep {s : Sequence} {depth index : Nat} {template : Json} {st : σ}
    {lines : List LogEntry}
    (h : (r.runStep nested s depth index template).result st = .ok lines) :
    ∃ filled, s.bindings.render r.mode template = .ok filled ∧
      lines.map LogEntry.mark = LogEntry.marksOf (filled, index) := by
  simp only [runStep, logLine, result_bind_eq_ok_iff, result_ofExcept, result_get, result_pure,
    Except.ok.injEq, exists_eq_left'] at h
  obtain ⟨filled, hfilled, _, _, _, _, rfl⟩ := h
  exact ⟨filled, hfilled, rfl⟩

/-- Steps that succeed were all filled in, and the log has two lines for each of them, in order. -/
theorem marks_of_runSteps (s : Sequence) (depth : Nat) (templates : List Json) :
    ∀ index st log, (r.runSteps nested s depth index templates).result st = .ok log →
      ∃ filled, List.Forall₂ (s.bindings.render r.mode · = .ok ·) templates filled ∧
        log.map LogEntry.mark = (filled.zipIdx index).flatMap LogEntry.marksOf := by
  induction templates with
  | nil =>
    rintro index st log h
    obtain rfl : [] = log := by simpa [runSteps] using h
    exact ⟨[], .nil, rfl⟩
  | cons template rest ih =>
    intro index st log h
    simp only [runSteps, result_bind_eq_ok_iff, result_pure, Except.ok.injEq] at h
    obtain ⟨lines, hlines, more, hmore, rfl⟩ := h
    obtain ⟨here, hhere, hmarks⟩ := marks_of_runStep hlines
    obtain ⟨filled, hfilled, hrest⟩ := ih _ _ _ hmore
    refine ⟨here :: filled, .cons hhere hfilled, ?_⟩
    rw [List.map_append, hmarks, hrest, List.zipIdx_cons, List.flatMap_cons]

/-! ### The last step that acts -/

/-- Steps of which the first one succeeds. -/
theorem runSteps_cons {s : Sequence} {depth index : Nat} {template : Json} {st : σ}
    {lines : List LogEntry} (h : (r.runStep nested s depth index template).result st = .ok lines)
    (rest : List Json) :
    let st' := (r.runStep nested s depth index template).after st
    (r.runSteps nested s depth index (template :: rest)).result st =
        ((r.runSteps nested s depth (index + 1) rest).result st').map (lines ++ ·) ∧
      (r.runSteps nested s depth index (template :: rest)).after st =
        (r.runSteps nested s depth (index + 1) rest).after st' := by
  intro st'
  cases hrest : (r.runSteps nested s depth (index + 1) rest).result st' <;>
    simp [runSteps, h, hrest, st', Except.map]

/-- Steps that fail end with one that fails: all before it succeed, and what follows it does not
matter. -/
theorem exists_last_of_error (s : Sequence) (depth : Nat) (templates : List Json) :
    ∀ index st e, (r.runSteps nested s depth index templates).result st = .error e →
      ∃ last < templates.length,
        (∀ k ≤ last, ∃ log,
          (r.runSteps nested s depth index (templates.take k)).result st = .ok log) ∧
        ∀ rest, let run := r.runSteps nested s depth index (templates.take (last + 1) ++ rest)
          run.result st = .error e ∧
            run.after st = (r.runSteps nested s depth index templates).after st := by
  induction templates with
  | nil =>
    intro index st e h
    exact absurd h (by simp [runSteps])
  | cons template templates ih =>
    intro index st e h
    cases hhere : (r.runStep nested s depth index template).result st with
    | error e' =>
      obtain rfl : e' = e := by simpa [runSteps, hhere] using h
      refine ⟨0, Nat.zero_lt_succ _, fun k hk => ⟨[], ?_⟩, fun rest => ?_⟩
      · obtain rfl : k = 0 := by omega
        rfl
      · simp [runSteps, hhere]
    | ok lines =>
      -- the step that fails comes later, and begins where this one ended
      obtain ⟨hresult, hafter⟩ := runSteps_cons hhere templates
      rw [hresult] at h
      cases hlater : (r.runSteps nested s depth (index + 1) templates).result
          ((r.runStep nested s depth index template).after st) with
      | ok more =>
        rw [hlater] at h
        exact absurd h (by simp [Except.map])
      | error e' =>
        rw [hlater] at h
        obtain rfl : e' = e := Except.error.inj h
        obtain ⟨last, hlast, hbefore, hend⟩ := ih _ _ _ hlater
        refine ⟨last + 1, Nat.succ_lt_succ hlast, fun k hk => ?_, fun rest => ?_⟩
        · cases k with
          | zero => exact ⟨[], rfl⟩
          | succ k =>
            obtain ⟨log, hlog⟩ := hbefore k (Nat.le_of_succ_le_succ hk)
            rw [List.take_succ_cons, (runSteps_cons hhere _).1, hlog]
            exact ⟨lines ++ log, rfl⟩
        · obtain ⟨herror, hsame⟩ := hend rest
          obtain ⟨hresult', hafter'⟩ := runSteps_cons hhere (templates.take (last + 1) ++ rest)
          rw [List.take_succ_cons, List.cons_append]
          exact ⟨by rw [hresult', herror]; rfl, by rw [hafter', hsame, hafter]⟩

/-! ### Sequences in two parts -/

/-- A sequence that the limits allow runs its steps. -/
theorem run_withSteps (s : Sequence) {steps : List Json} (hsteps : steps ≠ [])
    (hlength : steps.length ≤ r.limits.maxSteps) :
    r.run (s.withSteps steps) =
      r.runSteps (fun inner => discard (r.runAt r.limits.maxNesting 1 inner)) s 0 0 steps := by
  have hpermit : r.permit (s.withSteps steps) 0 = .ok () :=
    permit_eq_ok_iff.mpr ⟨hsteps, hlength, Nat.zero_le _⟩
  rw [run, runAt_succ, hpermit, ofExcept_ok_bind]
  exact runSteps_withSteps s steps 0 steps 0

/-- Sequences compose. To run two of them as one is to run the first and, if it succeeds, the second
on what it left: the result, the failure and the state are the same, and the log is the one followed
by the other, whose indices begin later. The log of a run that succeeds has two lines for each step
of the sequence itself, in order, with the kind that its template names when it is filled in. And a
run that fails ends with the step that fails: all before it succeed, and whatever follows it, the
failure and the state are the same. -/
theorem run_append (r : Runner σ) (s : Sequence) (first second : List Json) (hfirst : first ≠ [])
    (hsecond : second ≠ []) (hlength : first.length + second.length ≤ r.limits.maxSteps) :
    let run (steps : List Json) : Act σ (List LogEntry) := r.run (s.withSteps steps)
    let both := first ++ second
    (run both = do
        let log ← run first
        let more ← run second
        return log ++ more.map (LogEntry.shift first.length)) ∧
      (∀ st log, (run both).result st = .ok log →
        ∃ filled, List.Forall₂ (s.bindings.render r.mode · = .ok ·) both filled ∧
          log.map LogEntry.mark = filled.zipIdx.flatMap LogEntry.marksOf) ∧
      ∀ st e, (run both).result st = .error e →
        ∃ last < both.length,
          (∀ k ≤ last, 0 < k → ∃ log, (run (both.take k)).result st = .ok log) ∧
          ∀ rest, last + 1 + rest.length ≤ r.limits.maxSteps →
            (run (both.take (last + 1) ++ rest)).result st = .error e ∧
              (run (both.take (last + 1) ++ rest)).after st = (run both).after st := by
  intro run both
  -- All three sequences run at the top, with the same runner for what they nest.
  let inner : Sequence → Act σ Unit := fun inner => discard (r.runAt r.limits.maxNesting 1 inner)
  have hrun : ∀ steps : List Json, steps ≠ [] → steps.length ≤ r.limits.maxSteps →
      run steps = r.runSteps inner s 0 0 steps := fun _ => run_withSteps s
  have hboth : both.length = first.length + second.length := List.length_append
  have hrunBoth := hrun both (by simp [both, hfirst]) (hboth ▸ hlength)
  rw [hrunBoth]
  refine ⟨?_, fun st log => marks_of_runSteps s 0 both 0 st log, fun st e herror => ?_⟩
  · rw [hrun first hfirst (by omega), hrun second hsecond (by omega), runSteps_append,
      runSteps_shift]
    simp only [bind_map_left]
  · obtain ⟨last, hlast, hbefore, hend⟩ := exists_last_of_error s 0 both 0 st e herror
    refine ⟨last, hlast, fun k hk hpos => ?_, fun rest hrest => ?_⟩
    · have htake : (both.take k).length = k := List.length_take_of_le (by omega)
      rw [hrun _ (List.ne_nil_of_length_pos (by omega)) (by omega)]
      exact hbefore k hk
    · have htake : (both.take (last + 1)).length = last + 1 := List.length_take_of_le (by omega)
      have hpos : 0 < (both.take (last + 1) ++ rest).length := by simp [htake]
      rw [hrun _ (List.ne_nil_of_length_pos hpos) (by rw [List.length_append]; omega)]
      exact hend rest

/-- The law at a step that tries two others, followed by a step that is no more than filled in. -/
theorem run_append_trying :
    let press (selector : String) :=
      Json.object [("selector", .text selector), ("type", .text "click")]
    let visit := Json.object [("type", .text "goto"), ("url", .text "\x7b\x7bportal\x7d\x7d/home")]
    let s : Sequence := ⟨"open", [], ⟨[("portal", "https://sri")]⟩, 300⟩
    let first := [Step.tryTemplate [press "#a"] [visit]]
    let run := fun steps => (onPage .brief .strict .lenient fun _ => none).run (s.withSteps steps)
    let page := (run first).after (Page.opened "")
    first ≠ [] ∧ [visit] ≠ [] ∧ first.length + [visit].length ≤ Limits.strict.maxSteps ∧
      page.events = [.goto "https://sri/home"] ∧
      (run (first ++ [visit])).after (Page.opened "") = (run [visit]).after page ∧
      ((run (first ++ [visit])).result (Page.opened "")).map (·.map LogEntry.mark) =
        .ok [(0, "trySteps", .started), (0, "trySteps", .done), (1, "goto", .started),
          (1, "goto", .done)] := by
  intro press visit s first run page
  have hfirst : first ≠ [] := List.cons_ne_nil _ _
  have hsecond : [visit] ≠ [] := List.cons_ne_nil _ _
  have hlength : first.length + [visit].length ≤ Limits.strict.maxSteps := by decide
  have hlaw := (run_append (onPage .brief .strict .lenient fun _ => none) s first [visit] hfirst
    hsecond hlength).1
  have hdone : (run first).result (Page.opened "") =
      .ok [⟨0, "trySteps", 0, .started⟩, ⟨0, "trySteps", 0, .done⟩] := by decide +kernel
  refine ⟨hfirst, hsecond, hlength, by decide +kernel, ?_, by decide +kernel⟩
  -- Not by running the longer sequence: the law takes it apart.
  calc (run (first ++ [visit])).after (Page.opened "")
      = (do
          let log ← run first
          let more ← run [visit]
          return log ++ more.map (LogEntry.shift first.length)).after (Page.opened "") := by
        rw [show run (first ++ [visit]) = _ from hlaw]
    _ = (run [visit]).after page := by
        simp only [after_bind, hdone, bind_pure_comp, after_map, page]

end Runner

end FlowPilot
