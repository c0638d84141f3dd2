import FlowPilot.Flow.Runner
import FlowPilot.Proofs.Act
import Mathlib.Tactic.Ring
import Mathlib.Data.Nat.Basic

/-!
# Sequences inside sequences

Steps run further sequences, and a flow may run itself. The limit on nesting ends this: a sequence
that is too deep is refused before its first step. So the recursion of a run has one solution, and
the levels that `Runner.runAt` counts are never used up before the limit refuses.

The number of steps that a run performs is counted by a runner that writes down what it performs.

## Main definitions

* `Runner.Unfolds`: functions that satisfy the recursion of runs.
* `Runner.recorded`: the runner that writes down what it performs.

## Main statements

* `Runner.unfolds_iff`: the recursion of runs has exactly one solution.
* `Runner.run_within_limits`: a run ends, does not go deeper than the limit, and performs a number
  of steps that the limits bound.
-/

namespace FlowPilot

theorem Limits.violations_eq_nil_iff (l : Limits) (flow : String) (length depth : Nat) :
    l.violations flow length depth = [] ↔ length ≤ l.maxSteps ∧ depth ≤ l.maxNesting := by
  unfold Limits.violations
  rw [List.append_eq_nil_iff]
  by_cases hlength : l.maxSteps < length <;> by_cases hdepth : l.maxNesting < depth
  all_goals
    simp [hlength, hdepth]
    try omega

namespace Runner

variable {σ α β : Type}

/-! ### What is refused -/

theorem permit_eq_ok_iff {r : Runner σ} {s : Sequence} {depth : Nat} :
    r.permit s depth = .ok () ↔
      s.steps ≠ [] ∧ s.steps.length ≤ r.limits.maxSteps ∧ depth ≤ r.limits.maxNesting := by
  unfold permit
  by_cases hempty : s.steps = []
  · simp [hempty]
  · rw [← Limits.violations_eq_nil_iff r.limits s.name]
    cases hv : r.limits.violations s.name s.steps.length depth <;> simp [hempty]

/-- Beyond the limit on nesting every sequence is refused. -/
theorem permit_of_deep (r : Runner σ) (s : Sequence) {depth : Nat}
    (h : r.limits.maxNesting < depth) : ∃ e, r.permit s depth = .error e := by
  cases hp : r.permit s depth with
  | error e => exact ⟨e, rfl⟩
  | ok u =>
    have := (permit_eq_ok_iff.mp hp).2.2
    omega

variable [Clock σ]

theorem runAt_succ (r : Runner σ) (levels depth : Nat) (s : Sequence) :
    r.runAt (levels + 1) depth s = (do
      Act.ofExcept (r.permit s depth)
      r.runSteps (fun inner => discard (r.runAt levels (depth + 1) inner)) s depth 0 s.steps) :=
  rfl

/-! ### One solution -/

/-- The functions that satisfy the recursion of runs: a sequence is refused or its steps run, and
the sequences inside it run one level deeper. Nothing counts the levels. -/
def Unfolds (r : Runner σ) (f : (depth : Nat) → Sequence → Act σ (List LogEntry)) : Prop :=
  ∀ depth s, f depth s = do
    Act.ofExcept (r.permit s depth)
    r.runSteps (fun inner => discard (f (depth + 1) inner)) s depth 0 s.steps

/-- The run of a sequence at a depth, with the levels that are left there. -/
def runFrom (r : Runner σ) (depth : Nat) (s : Sequence) : Act σ (List LogEntry) :=
  r.runAt (r.limits.maxNesting + 1 - depth) depth s

/-- Levels that reach beyond the limit are enough for any solution of the recursion. -/
theorem eq_runAt_of_unfolds {r : Runner σ} {f : Nat → Sequence → Act σ (List LogEntry)}
    (hf : r.Unfolds f) (levels : Nat) :
    ∀ depth s, r.limits.maxNesting < depth + levels → f depth s = r.runAt levels depth s := by
  -- without levels the sequence is too deep, so that both sides refuse it
  induction levels with
  | zero =>
    intro depth s hdeep
    obtain ⟨e, he⟩ := r.permit_of_deep s (by omega : r.limits.maxNesting < depth)
    rw [hf depth s, runAt, he, Act.ofExcept_error_bind, Act.ofExcept_error_bind]
  | succ levels ih =>
    intro depth s hdeep
    have hinner : f (depth + 1) = r.runAt levels (depth + 1) :=
      funext fun inner => ih (depth + 1) inner (by omega)
    rw [hf depth s, runAt_succ, hinner]

theorem runFrom_unfolds (r : Runner σ) : r.Unfolds r.runFrom := by
  intro depth s
  by_cases hdepth : depth ≤ r.limits.maxNesting
  · have hlevels : r.limits.maxNesting + 1 - depth =
        (r.limits.maxNesting + 1 - (depth + 1)) + 1 := by omega
    rw [runFrom, hlevels, runAt_succ]
    rfl
  · obtain ⟨e, he⟩ := r.permit_of_deep s (Nat.lt_of_not_le hdepth)
    have hlevels : r.limits.maxNesting + 1 - depth = 0 := by omega
    rw [runFrom, hlevels, runAt, he, Act.ofExcept_error_bind, Act.ofExcept_error_bind]

/-- The recursion of runs has exactly one solution. -/
theorem unfolds_iff (r : Runner σ) (f : Nat → Sequence → Act σ (List LogEntry)) :
    r.Unfolds f ↔ f = r.runFrom := by
  constructor
  · intro hf
    funext depth s
    exact eq_runAt_of_unfolds hf _ depth s (by omega)
  · rintro rfl
    exact r.runFrom_unfolds

theorem run_eq_runFrom (r : Runner σ) (s : Sequence) : r.run s = r.runFrom 0 s := rfl

/-! ### Writing down what is performed -/

/-- A state with the steps that were performed on it, oldest first. -/
structure Recorded (σ : Type) where
  /-- the state -/
  state : σ
  /-- the steps that were performed -/
  tasks : List Task

instance : Clock (Recorded σ) where
  now st := Clock.now st.state
  sleep ms st := { st with state := Clock.sleep ms st.state }

/-- The runner that writes down every step that it performs, whether the step fails or not. -/
def recorded (r : Runner σ) : Runner (Recorded σ) where
  limits := r.limits
  wording := r.wording
  mode := r.mode
  stepsOf := r.stepsOf
  perform task := do
    modify fun st => { st with tasks := st.tasks ++ [task] }
    Act.onPart Recorded.state (fun st state => { st with state := state }) (r.perform task)

/-- At most `n` further steps were written down, none of them nested deeper than `depth`. -/
def Adds (depth n : Nat) (before after : List Task) : Prop :=
  ∃ added, after = before ++ added ∧ added.length ≤ n ∧ ∀ task ∈ added, task.depth ≤ depth

section Adds

variable {depth m n : Nat} {before between after : List Task}

theorem Adds.refl : Adds depth 0 before before := ⟨[], by simp⟩

theorem Adds.mono (h : Adds depth m before after) (hmn : m ≤ n) : Adds depth n before after := by
  obtain ⟨added, hafter, hlength, hdepth⟩ := h
  exact ⟨added, hafter, hlength.trans hmn, hdepth⟩

theorem Adds.trans (h : Adds depth m before between) (h' : Adds depth n between after) :
    Adds depth (m + n) before after := by
  obtain ⟨added, rfl, hlength, hdepth⟩ := h
  obtain ⟨added', rfl, hlength', hdepth'⟩ := h'
  refine ⟨added ++ added', List.append_assoc _ _ _, ?_, ?_⟩
  · rw [List.length_append]
    omega
  · intro task htask
    exact (List.mem_append.mp htask).elim (hdepth task) (hdepth' task)

end Adds

/-- An act on recorded states does what another one does on bare states, and writes down at most
`n` steps, none of them nested deeper than `depth`. -/
def Records (depth n : Nat) (x : Act (Recorded σ) α) (y : Act σ α) : Prop :=
  ∀ st, x.result st = y.result st.state ∧ (x.after st).state = y.after st.state ∧
    Adds depth n st.tasks (x.after st).tasks

section Records

variable {depth m n : Nat} {x : Act (Recorded σ) α} {y : Act σ α}

omit [Clock σ]

theorem Records.mono (h : Records depth m x y) (hmn : m ≤ n) : Records depth n x y := by
  intro st
  obtain ⟨hresult, hstate, hadds⟩ := h st
  exact ⟨hresult, hstate, hadds.mono hmn⟩

theorem Records.pure (a : α) : Records depth 0 (pure a : Act (Recorded σ) α) (pure a) :=
  fun _ => ⟨rfl, rfl, Adds.refl⟩

theorem Records.throw (e : Fault) : Records depth 0 (throw e : Act (Recorded σ) α) (throw e) :=
  fun _ => ⟨rfl, rfl, Adds.refl⟩

theorem Records.ofExcept (r : Except Fault α) :
    Records depth 0 (Act.ofExcept r : Act (Recorded σ) α) (Act.ofExcept r) :=
  fun _ => ⟨rfl, rfl, Adds.refl⟩

theorem Records.bind {f : α → Act (Recorded σ) β} {g : α → Act σ β} (hx : Records depth m x y)
    (hf : ∀ a, Records depth n (f a) (g a)) : Records depth (m + n) (x >>= f) (y >>= g) := by
  intro st
  obtain ⟨hresult, hstate, hadds⟩ := hx st
  rw [Act.result_bind, Act.result_bind, Act.after_bind, Act.after_bind, hresult]
  cases y.result st.state with
  | error e => exact ⟨rfl, hstate, hadds.mono (Nat.le_add_right m n)⟩
  | ok a =>
    obtain ⟨hresult', hstate', hadds'⟩ := hf a (x.after st)
    rw [hstate] at hresult' hstate'
    exact ⟨hresult', hstate', hadds.trans hadds'⟩

theorem Records.tryCatch {f : Fault → Act (Recorded σ) α} {g : Fault → Act σ α}
    (hx : Records depth m x y) (hf : ∀ e, Records depth n (f e) (g e)) :
    Records depth (m + n) (tryCatch x f) (tryCatch y g) := by
  intro st
  obtain ⟨hresult, hstate, hadds⟩ := hx st
  rw [Act.result_tryCatch, Act.result_tryCatch, Act.after_tryCatch, Act.after_tryCatch, hresult]
  cases y.result st.state with
  | ok a => exact ⟨rfl, hstate, hadds.mono (Nat.le_add_right m n)⟩
  | error e =>
    obtain ⟨hresult', hstate', hadds'⟩ := hf e (x.after st)
    rw [hstate] at hresult' hstate'
    exact ⟨hresult', hstate', hadds.trans hadds'⟩

theorem Records.discard (hx : Records depth n x y) :
    Records depth n (discard x : Act (Recorded σ) PUnit) (discard y) := by
  intro st
  obtain ⟨hresult, hrest⟩ := hx st
  rw [Act.result_discard, Act.result_discard, Act.after_discard, Act.after_discard, hresult]
  exact ⟨rfl, hrest⟩

theorem Records.adapt (hx : Records depth n x y) (f : Fault → Fault) :
    Records depth n (ExceptT.adapt f x : Act (Recorded σ) α) (ExceptT.adapt f y) := by
  intro st
  obtain ⟨hresult, hrest⟩ := hx st
  rw [Act.result_adapt, Act.result_adapt, Act.after_adapt, Act.after_adapt, hresult]
  exact ⟨rfl, hrest⟩

/-- A single step is written down once. -/
theorem recorded_perform (r : Runner σ) {task : Task} (h : task.depth ≤ depth) :
    Records depth 1 (r.recorded.perform task) (r.perform task) := by
  intro st
  refine ⟨?_, ?_, [task], ?_, le_rfl, ?_⟩
  · simp [recorded]
  · simp [recorded]
  · simp [recorded]
  · intro t ht
    rw [List.mem_singleton.mp ht]
    exact h

end Records

/-! ### How many steps are performed -/

/-- How many steps are performed at most where so many levels are left. A step of a sequence is
performed itself, or runs two sequences one level deeper. -/
def taskBound (maxSteps : Nat) : (levels : Nat) → Nat
  | 0 => 0
  | levels + 1 => maxSteps * max 1 (2 * taskBound maxSteps levels)

theorem taskBound_succ_le (maxSteps levels : Nat) :
    taskBound maxSteps (levels + 1) ≤ maxSteps * (2 * maxSteps) ^ levels := by
  induction levels with
  | zero => simp [taskBound]
  | succ levels ih =>
    rcases Nat.eq_zero_or_pos maxSteps with rfl | hpos
    · simp [taskBound]
    · have hone : 1 ≤ (2 * maxSteps) ^ (levels + 1) := Nat.one_le_pow _ _ (by omega)
      have htwo : 2 * taskBound maxSteps (levels + 1) ≤ (2 * maxSteps) ^ (levels + 1) := by
        calc 2 * taskBound maxSteps (levels + 1)
            ≤ 2 * (maxSteps * (2 * maxSteps) ^ levels) := Nat.mul_le_mul_left 2 ih
          _ = (2 * maxSteps) ^ (levels + 1) := by ring
      exact Nat.mul_le_mul_left maxSteps (max_le hone htwo)

section Bound

variable {r : Runner σ} {depth n : Nat} {nested : Sequence → Act (Recorded σ) Unit}
  {bare : Sequence → Act σ Unit}

omit [Clock σ] in
theorem performStep_records (hnested : ∀ inner, Records r.limits.maxNesting n (nested inner)
    (bare inner)) (hdepth : depth ≤ r.limits.maxNesting) (s : Sequence) (step : Step) :
    Records r.limits.maxNesting (max 1 (2 * n)) (r.recorded.performStep nested s depth step)
      (r.performStep bare s depth step) := by
  cases step with
  | leaf leaf => exact (recorded_perform r hdepth).mono (le_max_left _ _)
  | trySteps step =>
    -- where the first sequence fails late, both are performed in full
    have hboth : n + n ≤ max 1 (2 * n) := by omega
    exact ((hnested _).tryCatch fun e => (hnested _).adapt _).mono hboth
  | runAction step =>
    change Records _ _ (r.recorded.performAction nested s step _) (r.performAction bare s step _)
    unfold performAction
    cases step.target with
    | none => exact (Records.throw _).mono (Nat.zero_le _)
    | some name =>
      dsimp only [recorded]
      cases r.stepsOf name with
      | none => exact (Records.throw _).mono (Nat.zero_le _)
      | some steps =>
        have hone : n ≤ max 1 (2 * n) := by omega
        exact (hnested _).mono hone

theorem logLine_records (index : Nat) (kind : String) (progress : LogEntry.Progress) :
    Records depth 0 (logLine index kind progress : Act (Recorded σ) LogEntry)
      (logLine index kind progress) :=
  fun _ => ⟨rfl, rfl, Adds.refl⟩

theorem runStep_records (hnested : ∀ inner, Records r.limits.maxNesting n (nested inner)
    (bare inner)) (hdepth : depth ≤ r.limits.maxNesting) (s : Sequence) (index : Nat)
    (template : Json) :
    Records r.limits.maxNesting (max 1 (2 * n)) (r.recorded.runStep nested s depth index template)
      (r.runStep bare s depth index template) := by
  unfold runStep
  have h := (Records.ofExcept (s.bindings.render r.mode template)).bind fun filled =>
    (logLine_records (σ := σ) index (((filled.get? "type").bind Json.text?).getD "") .started).bind
      fun started => (Records.ofExcept (Step.ofJson r.wording filled)).bind fun step =>
        (performStep_records hnested hdepth s step).bind fun _ =>
          (logLine_records index (((filled.get? "type").bind Json.text?).getD "") .done).bind
            fun done => Records.pure [started, done]
  exact h.mono (by omega)

theorem runSteps_records (hnested : ∀ inner, Records r.limits.maxNesting n (nested inner)
    (bare inner)) (hdepth : depth ≤ r.limits.maxNesting) (s : Sequence) (templates : List Json) :
    ∀ index, Records r.limits.maxNesting (templates.length * max 1 (2 * n))
      (r.recorded.runSteps nested s depth index templates)
      (r.runSteps bare s depth index templates) := by
  induction templates with
  | nil =>
    intro index
    exact (Records.pure []).mono (Nat.zero_le _)
  | cons template rest ih =>
    intro index
    have h := (runStep_records hnested hdepth s index template).bind fun lines =>
      (ih (index + 1)).bind fun more => Records.pure (lines ++ more)
    refine h.mono ?_
    rw [List.length_cons, Nat.add_mul rest.length 1, Nat.one_mul]
    omega

theorem runAt_records (r : Runner σ) (levels : Nat) :
    ∀ depth s, Records r.limits.maxNesting (taskBound r.limits.maxSteps levels)
      (r.recorded.runAt levels depth s) (r.runAt levels depth s) := by
  induction levels with
  | zero =>
    intro depth s
    exact ((Records.ofExcept (r.permit s depth)).bind fun _ => Records.pure []).mono (by omega)
  | succ levels ih =>
    intro depth s
    rw [runAt_succ, runAt_succ]
    change Records _ _ (do Act.ofExcept (r.permit s depth); _) _
    cases hp : r.permit s depth with
    | error e =>
      rw [Act.ofExcept_error_bind, Act.ofExcept_error_bind]
      exact (Records.throw e).mono (Nat.zero_le _)
    | ok u =>
      -- a sequence that is not refused has no more steps than the limit says
      obtain ⟨_, hlength, hdepth⟩ := permit_eq_ok_iff.mp hp
      have hsteps := runSteps_records (r := r) (fun inner => (ih (depth + 1) inner).discard) hdepth
        s s.steps 0
      have h := (Records.ofExcept (.ok u)).bind fun _ => hsteps
      refine h.mono ?_
      rw [Nat.zero_add]
      exact Nat.mul_le_mul_right _ hlength

end Bound

/-- A run ends: its recursion has exactly one solution, so that nothing depends on the levels that
are counted. It performs no step deeper than the limit on nesting, and with sequences of at most
`maxSteps` steps no more than `maxSteps * (2 * maxSteps) ^ maxNesting` steps in all. -/
theorem run_within_limits (r : Runner σ) :
    (∃ f, (∀ g, r.Unfolds g ↔ g = f) ∧ ∀ s, r.run s = f 0 s) ∧
      ∀ (s : Sequence) (st : σ),
        let recorded := (r.recorded.run s).after ⟨st, []⟩
        (r.recorded.run s).result ⟨st, []⟩ = (r.run s).result st ∧
          recorded.state = (r.run s).after st ∧
          (∀ task ∈ recorded.tasks, task.depth ≤ r.limits.maxNesting) ∧
          recorded.tasks.length ≤
            r.limits.maxSteps * (2 * r.limits.maxSteps) ^ r.limits.maxNesting := by
  refine ⟨⟨r.runFrom, r.unfolds_iff, r.run_eq_runFrom⟩, ?_⟩
  intro s st recorded
  obtain ⟨hresult, hstate, added, htasks, hlength, hdepth⟩ :=
    r.runAt_records (r.limits.maxNesting + 1) 0 s ⟨st, []⟩
  rw [List.nil_append] at htasks
  refine ⟨hresult, hstate, ?_, ?_⟩
  · intro task htask
    exact hdepth task (htasks ▸ htask)
  · calc recorded.tasks.length
        = added.length := congrArg List.length htasks
      _ ≤ taskBound r.limits.maxSteps (r.limits.maxNesting + 1) := hlength
      _ ≤ _ := taskBound_succ_le _ _

end Runner

end FlowPilot
