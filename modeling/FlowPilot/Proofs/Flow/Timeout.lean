import FlowPilot.Proofs.Flow.Fallback
import FlowPilot.Proofs.Step.Presence

/-!
# The time of a step

A step that declares a time gets it, within the limit. Any other step gets the time of the sequence
that it belongs to, and that is the time of the step around the sequence, which is found in the same
way. So the time of a step is declared by the innermost of the steps around it that declares one, or
else it is the time of the run.

## Main definitions

* `Limits.timeoutAmong`: the first time that is declared, within the limit.
* `Step.GivesTime`: the time that a template gives.
* `Runner.Writes`: a task that an act writes down, and what was written down before it.
* `Runner.Executes`: a step that acts on the page in a run, with the steps around it.

## Main statements

* `Step.timeout_eq_some_iff`: the time that a step declares, from its template.
* `Runner.Executes.writes`, `Runner.exists_executes_of_writes`: a run writes down the steps that it
  executes, with their times, and no others.
* `Runner.run_times`: the times of the steps that a run performs.
-/

namespace FlowPilot

/-! ### The rule -/

/-- The first time that is declared, within the limit. Zero is none. -/
def Limits.timeoutAmong (l : Limits) (default : Nat) (declared : List (Option Nat)) : Nat :=
  match declared.findSome? (·.filter (0 < ·)) with
  | some ms => min ms l.maxStepTimeout
  | none => default

section Rule

variable (l : Limits) (default : Nat)

theorem Limits.timeoutAmong_singleton (declared : Option Nat) :
    l.timeoutAmong default [declared] = l.timeoutOr default declared := by
  cases declared with
  | none => rfl
  | some ms => by_cases hms : 0 < ms <;> simp [timeoutAmong, timeoutOr, Option.filter, hms]

/-- What is declared further out is the time of those that declare none. -/
theorem Limits.timeoutAmong_append (inner outer : List (Option Nat)) :
    l.timeoutAmong default (inner ++ outer) =
      l.timeoutAmong (l.timeoutAmong default outer) inner := by
  unfold timeoutAmong
  rw [List.findSome?_append]
  cases inner.findSome? (·.filter (0 < ·)) <;> rfl

theorem Limits.timeoutAmong_le (declared : List (Option Nat)) :
    l.timeoutAmong default declared ≤ max default l.maxStepTimeout := by
  unfold timeoutAmong
  split <;> omega

end Rule

/-! ### What a template declares -/

namespace Step

/-- The time that a template gives: a number that is finite and not negative, or the text of one. -/
def GivesTime (template : Json) (x : Binary64) : Prop :=
  ((∃ n, template.get? "timeout" = some (.number n) ∧ n.toBinary64 = x) ∨
      ∃ s, template.get? "timeout" = some (.text s) ∧ binary64? (Text.trim s) = some x) ∧
    x.isFinite = true ∧ (Binary64.zero false).le x = true

theorem time_eq_some_iff {template : Json} {t : Nat} :
    time template.fields "timeout" = some t ↔
      ∃ x, GivesTime template x ∧ x.floorUpTo maxWord = t := by
  simp only [time, real, GivesTime, Json.get?_eq_lookup, Option.map_eq_some_iff,
    Option.filter_eq_some_iff, and_assoc]
  refine exists_congr fun x => and_congr_left fun _ => ?_
  cases template.fields.lookup "timeout" with
  | none => simp
  | some value => cases value <;> simp

theorem timeout_eq_some_iff {w : Wording} {template : Json} {step : Step}
    (h : ofJson w template = .ok step) {t : Nat} :
    step.timeout = some t ↔
      step.kind ≠ .runAction ∧ ∃ x, GivesTime template x ∧ x.floorUpTo maxWord = t := by
  rcases ofJson_of_kind? _ (kind?_of_ofJson h) with ⟨_, hread, hfields⟩ | ⟨_, _, hread⟩
  · obtain rfl := Except.ok.inj (h.symm.trans hread)
    rw [timeout_of_ofFields hfields, ← time_eq_some_iff]
    split <;> simp [*]
  · cases h.symm.trans hread

end Step

namespace Runner

variable {σ α β : Type}

/-! ### What is written down -/

/-- An act writes a task down, and before it exactly the tasks of a list. -/
def Writes (x : Act (Recorded σ) α) (st : Recorded σ) (before : List Task) (task : Task) : Prop :=
  st.tasks <+: before ∧ before ++ [task] <+: (x.after st).tasks

/-- An act keeps what was written down. -/
def Keeps (x : Act (Recorded σ) α) : Prop := ∀ st, st.tasks <+: (x.after st).tasks

section Writes

variable {x : Act (Recorded σ) α} {f : α → Act (Recorded σ) β} {st : Recorded σ}
  {before : List Task} {task : Task}

theorem Records.keeps {depth n : Nat} {y : Act σ α} (h : Records depth n x y) : Keeps x := by
  intro st
  obtain ⟨-, -, added, hafter, -⟩ := h st
  exact hafter ▸ List.prefix_append _ _

theorem not_writes_of_idle (hidle : (x.after st).tasks = st.tasks) : ¬Writes x st before task := by
  rintro ⟨hbefore, hafter⟩
  have hlength := (hidle ▸ hafter).length_le.trans hbefore.length_le
  simp at hlength

theorem writes_congr {y : Act (Recorded σ) β} (h : (x.after st).tasks = (y.after st).tasks) :
    Writes x st before task ↔ Writes y st before task := by
  rw [Writes, Writes, h]

/-- What is written down in two parts is written down in the first or in the second. -/
theorem writes_iff_of_parts (before : List Task) (task : Task) {between after : List Task}
    (hfirst : st.tasks <+: between) (hsecond : between <+: after) :
    st.tasks <+: before ∧ before ++ [task] <+: after ↔
      (st.tasks <+: before ∧ before ++ [task] <+: between) ∨
        (between <+: before ∧ before ++ [task] <+: after) := by
  constructor
  · rintro ⟨hbefore, hafter⟩
    rcases List.prefix_or_prefix_of_prefix hafter hsecond with h | h
    · exact .inl ⟨hbefore, h⟩
    · rcases List.prefix_concat_iff.mp h with rfl | h
      · exact .inl ⟨hbefore, List.prefix_rfl⟩
      · exact .inr ⟨h, hafter⟩
  · rintro (⟨hbefore, hbetween⟩ | ⟨hbetween, hafter⟩)
    · exact ⟨hbefore, hbetween.trans hsecond⟩
    · exact ⟨hfirst.trans hbetween, hafter⟩

theorem writes_bind (hx : Keeps x) (hf : ∀ a, Keeps (f a)) :
    Writes (x >>= f) st before task ↔
      Writes x st before task ∨
        ∃ a, x.result st = .ok a ∧ Writes (f a) (x.after st) before task := by
  cases hresult : x.result st with
  | error e => simp [Writes, hresult]
  | ok a =>
    have hparts := writes_iff_of_parts before task (hx st)
      (hf a (x.after st))
    simpa [Writes, hresult] using hparts

theorem writes_tryCatch {handle : Fault → Act (Recorded σ) α} (hx : Keeps x)
    (hhandle : ∀ e, Keeps (handle e)) :
    Writes (tryCatch x handle) st before task ↔
      Writes x st before task ∨
        ∃ e, x.result st = .error e ∧ Writes (handle e) (x.after st) before task := by
  cases hresult : x.result st with
  | ok a => simp [Writes, hresult]
  | error e =>
    have hparts := writes_iff_of_parts before task (hx st)
      (hhandle e (x.after st))
    simpa [Writes, hresult] using hparts

end Writes

/-! ### What a run writes down -/

variable [Clock σ]

/-- The steps that act on the page when a sequence runs, with the steps around them, innermost
first, and the states in which they begin. -/
inductive Executes (r : Runner σ) :
    (depth : Nat) → Sequence → σ → (around : List Step) → Step.Leaf → σ → Prop
  | leaf {depth : Nat} {s : Sequence} {st st' : σ} {leaf : Step.Leaf}
      (hperforms : r.Performs depth s st (.leaf leaf) st') : Executes r depth s st [] leaf st'
  | inside {depth : Nat} {s inner : Sequence} {st st' st'' last : σ} {step : Step}
      {around : List Step} {leaf : Step.Leaf} (hperforms : r.Performs depth s st step st')
      (hstarts : r.Starts depth s step st' inner st'')
      (hexecutes : Executes r (depth + 1) inner st'' around leaf last) :
      Executes r depth s st (around ++ [step]) leaf last

section Runs

variable {r : Runner σ} {depth : Nat} {s : Sequence} {st : Recorded σ} {before : List Task}
  {task : Task}

theorem nestedAt_records (r : Runner σ) (depth : Nat) (inner : Sequence) :
    Records r.limits.maxNesting
      (taskBound r.limits.maxSteps (r.limits.maxNesting + 1 - (depth + 1)))
      (r.recorded.nestedAt depth inner) (r.nestedAt depth inner) :=
  (r.runAt_records _ (depth + 1) inner).discard

/-- A single step is written down with the time that it gets. -/
theorem writes_leaf {leaf : Step.Leaf} :
    Writes (r.recorded.performStep (r.recorded.nestedAt depth) s depth (.leaf leaf)) st before
        task ↔
      st.tasks = before ∧ task = ⟨leaf, r.limits.timeoutOr s.timeout leaf.timeout, depth⟩ := by
  have hafter : ((r.recorded.performStep (r.recorded.nestedAt depth) s depth (.leaf leaf)).after
      st).tasks = st.tasks ++ [⟨leaf, r.limits.timeoutOr s.timeout leaf.timeout, depth⟩] := by
    simp [performStep, recorded, Step.timeout]
  rw [Writes, hafter, List.prefix_concat_iff]
  constructor
  · rintro ⟨hbefore, heq | hshort⟩
    · obtain ⟨rfl, htask⟩ := List.append_inj' heq rfl
      exact ⟨rfl, List.singleton_inj.mp htask⟩
    · exact absurd ⟨hbefore, hshort⟩ (not_writes_of_idle (x := (pure () : Act _ Unit)) rfl)
  · rintro ⟨rfl, rfl⟩
    exact ⟨List.prefix_rfl, .inl rfl⟩

theorem writes_nestedAt {inner : Sequence} :
    Writes (r.recorded.nestedAt depth inner) st before task ↔
      Writes (r.recorded.runFrom (depth + 1) inner) st before task :=
  writes_congr (by rw [nestedAt, Act.after_discard])

/-- A step around sequences writes down what is written down by those that start inside of it. -/
theorem writes_composite {step : Step} (hstep : ∀ leaf, step ≠ .leaf leaf) :
    Writes (r.recorded.performStep (r.recorded.nestedAt depth) s depth step) st before task ↔
      ∃ inner st', r.recorded.Starts depth s step st inner st' ∧
        Writes (r.recorded.runFrom (depth + 1) inner) st' before task := by
  cases step with
  | leaf leaf => exact absurd rfl (hstep leaf)
  | trySteps step =>
    let primary := r.recorded.primaryOf s step
    let fallback := r.recorded.fallbackOf s step
    -- The nested run discards its log, which changes neither its end nor its tasks.
    have hafter : (r.recorded.nestedAt depth primary).after st =
        (r.recorded.runFrom (depth + 1) primary).after st := by
      rw [nestedAt, Act.after_discard]
    have hadapt {e : Fault} {st' : Recorded σ} :
        Writes (ExceptT.adapt (.fallbackExhausted e) (r.recorded.nestedAt depth fallback) :
          Act (Recorded σ) Unit) st' before task ↔
        Writes (r.recorded.nestedAt depth fallback) st' before task :=
      writes_congr (by rw [Act.after_adapt])
    have hresult (e : Fault) : (r.recorded.nestedAt depth primary).result st = .error e ↔
        (r.recorded.runFrom (depth + 1) primary).result st = .error e := by
      rw [nestedAt, Act.result_discard]
      cases (r.recorded.runFrom (depth + 1) primary).result st <;> simp [Except.map]
    rw [performStep_trySteps, writes_tryCatch (nestedAt_records r depth primary).keeps
      fun e => ((nestedAt_records r depth fallback).adapt _).keeps]
    simp only [writes_nestedAt, hadapt, hresult, hafter]
    constructor
    · rintro (hwrites | ⟨e, hfails, hwrites⟩)
      · exact ⟨primary, st, .primary step st, hwrites⟩
      · exact ⟨fallback, _, .fallback hfails, hwrites⟩
    · rintro ⟨inner, st', hstarts, hwrites⟩
      cases hstarts with
      | primary => exact .inl hwrites
      | fallback hfails => exact .inr ⟨_, hfails, hwrites⟩
  | runAction step =>
    change Writes (r.recorded.performAction (r.recorded.nestedAt depth) s step _) st before task ↔ _
    unfold performAction
    constructor
    -- Without a target or without its steps nothing is run, so nothing is written down.
    · intro hwrites
      cases htarget : step.target with
      | none => exact absurd hwrites (not_writes_of_idle (by simp [htarget]))
      | some name =>
        cases hsteps : r.recorded.stepsOf name with
        | none => exact absurd hwrites (not_writes_of_idle (by simp [htarget, hsteps]))
        | some steps =>
          simp only [htarget, hsteps] at hwrites
          exact ⟨_, st, .called htarget hsteps st, writes_nestedAt.mp hwrites⟩
    · rintro ⟨inner, st', hstarts, hwrites⟩
      cases hstarts with
      | called htarget hsteps =>
        simp only [htarget, hsteps]
        exact writes_nestedAt.mpr hwrites

/-- A template writes down what its step does, if it can be filled in and read. -/
theorem writes_runStep {index : Nat} {template : Json} :
    Writes (r.recorded.runStep (r.recorded.nestedAt depth) s depth index template) st before task ↔
      ∃ filled step, s.bindings.render r.mode template = .ok filled ∧
        Step.ofJson r.wording filled = .ok step ∧
        Writes (r.recorded.performStep (r.recorded.nestedAt depth) s depth step) st before
          task := by
  cases hfilled : s.bindings.render r.mode template with
  | error e =>
    have hidle : ¬Writes (r.recorded.runStep (r.recorded.nestedAt depth) s depth index template) st
        before task :=
      not_writes_of_idle (by simp [runStep, recorded, hfilled])
    simpa using hidle
  | ok filled =>
    cases hread : Step.ofJson r.wording filled with
    | error e =>
      have hidle : ¬Writes (r.recorded.runStep (r.recorded.nestedAt depth) s depth index template)
          st before task :=
        not_writes_of_idle (by simp [runStep, logLine, recorded, hfilled, hread])
      simpa [hread] using hidle
    | ok step =>
      have hafter :
          (r.recorded.runStep (r.recorded.nestedAt depth) s depth index template).after st = _ :=
        after_runStep hfilled hread
      simpa [hread] using writes_congr (congrArg Recorded.tasks hafter)

theorem writes_runSteps_cons (hdepth : depth ≤ r.limits.maxNesting) (template : Json)
    (templates : List Json) (index : Nat) :
    let first := r.recorded.runStep (r.recorded.nestedAt depth) s depth index template
    let rest := r.recorded.runSteps (r.recorded.nestedAt depth) s depth (index + 1) templates
    Writes (r.recorded.runSteps (r.recorded.nestedAt depth) s depth index (template :: templates))
        st before task ↔
      Writes first st before task ∨
        ∃ lines, first.result st = .ok lines ∧ Writes rest (first.after st) before task := by
  intro first rest
  have hfirst : Keeps first :=
    (runStep_records (nestedAt_records r depth) hdepth s index template).keeps
  have hrest (lines : List LogEntry) : Keeps (do return lines ++ (← rest)) :=
    ((runSteps_records (nestedAt_records r depth) hdepth s templates (index + 1)).bind
      fun more => .pure (lines ++ more)).keeps
  have hsame (lines : List LogEntry) (st : Recorded σ) :
      ((do return lines ++ (← rest) : Act _ _).after st).tasks = (rest.after st).tasks := by
    cases rest.result st <;> simp
  rw [runSteps, writes_bind hfirst hrest]
  simp only [writes_congr (hsame _ _)]

/-- Steps write down what one of them does, behind others that succeed. -/
theorem writes_runSteps (hdepth : depth ≤ r.limits.maxNesting) (templates : List Json) :
    ∀ index st, Writes (r.recorded.runSteps (r.recorded.nestedAt depth) s depth index templates) st
        before task ↔
      ∃ first template rest log, templates = first ++ template :: rest ∧
        (r.recorded.runSteps (r.recorded.nestedAt depth) s depth index first).result st = .ok log ∧
        Writes (r.recorded.runStep (r.recorded.nestedAt depth) s depth (index + first.length)
            template)
          ((r.recorded.runSteps (r.recorded.nestedAt depth) s depth index first).after st)
          before task := by
  -- Either the first step writes it down, or that step succeeds and a later one does.
  induction templates with
  | nil =>
    intro index st
    have hidle : ¬Writes (r.recorded.runSteps (r.recorded.nestedAt depth) s depth index []) st
        before task :=
      not_writes_of_idle rfl
    simpa using hidle
  | cons template templates ih =>
    intro index st
    simp only [writes_runSteps_cons hdepth, ih]
    constructor
    · rintro (hwrites | ⟨lines, hlines, first, template', rest, log, rfl, hlog, hwrites⟩)
      · exact ⟨[], template, templates, [], rfl, rfl, hwrites⟩
      · obtain ⟨hresult, hafter⟩ := runSteps_cons hlines first
        refine ⟨template :: first, template', rest, lines ++ log, rfl, ?_, ?_⟩
        · rw [hresult, hlog]
          rfl
        · rwa [hafter, List.length_cons, Nat.add_comm first.length, ← Nat.add_assoc]
    · rintro ⟨first, template', rest, log, hsplit, hlog, hwrites⟩
      cases first with
      | nil =>
        obtain ⟨rfl, rfl⟩ := List.cons.inj hsplit
        exact .inl hwrites
      | cons _ first =>
        obtain ⟨rfl, rfl⟩ := List.cons.inj hsplit
        obtain ⟨lines, hlines, hmore⟩ := Act.result_bind_eq_ok_iff.mp hlog
        obtain ⟨more, hmore, -⟩ := Act.result_bind_eq_ok_iff.mp hmore
        rw [(runSteps_cons hlines first).2, List.length_cons, Nat.add_comm first.length,
          ← Nat.add_assoc] at hwrites
        exact .inr ⟨lines, hlines, first, template', rest, more, rfl, hmore, hwrites⟩

/-- A run writes down what the steps do that it performs. -/
theorem writes_runFrom_iff_performs :
    Writes (r.recorded.runFrom depth s) st before task ↔
      ∃ step st', r.recorded.Performs depth s st step st' ∧
        Writes (r.recorded.performStep (r.recorded.nestedAt depth) s depth step) st' before
          task := by
  have hrun : r.recorded.runFrom depth s = (do
      Act.ofExcept (r.permit s depth)
      r.recorded.runSteps (r.recorded.nestedAt depth) s depth 0 s.steps) :=
    r.recorded.runFrom_unfolds depth s
  cases hpermit : r.permit s depth with
  | error e =>
    rw [hpermit, Act.ofExcept_error_bind] at hrun
    have hidle : ¬Writes (r.recorded.runFrom depth s) st before task :=
      not_writes_of_idle (by rw [hrun]; rfl)
    refine iff_of_false hidle ?_
    rintro ⟨step, st', ⟨hpermitted, -⟩, -⟩
    exact absurd (hpermit.symm.trans hpermitted) (by simp)
  | ok u =>
    have hdepth := (permit_eq_ok_iff.mp hpermit).2.2
    rw [hpermit, Act.ofExcept_ok_bind] at hrun
    rw [hrun, writes_runSteps hdepth]
    simp only [writes_runStep]
    constructor
    · rintro ⟨first, template, rest, log, hsplit, hlog, filled, step, hfilled, hread, hwrites⟩
      exact ⟨step, _, ⟨hpermit, hsplit, hlog, hfilled, hread⟩, hwrites⟩
    · rintro ⟨step, st', ⟨-, hsplit, hlog, hfilled, hread⟩, hwrites⟩
      exact ⟨_, _, _, _, hsplit, hlog, _, step, hfilled, hread, hwrites⟩

/-- The time of the sequences that start inside a step. -/
theorem timeout_of_starts {step : Step} {inner : Sequence} {st' : Recorded σ}
    (hstarts : r.recorded.Starts depth s step st inner st') :
    inner.timeout = r.limits.timeoutAmong s.timeout [step.timeout] := by
  rw [Limits.timeoutAmong_singleton]
  cases hstarts <;> rfl

/-- A step that is executed is written down, with the time that is declared for it. -/
theorem Executes.writes {around : List Step} {leaf : Step.Leaf} {last : Recorded σ}
    (h : r.recorded.Executes depth s st around leaf last) :
    Writes (r.recorded.runFrom depth s) st last.tasks
      ⟨leaf, r.limits.timeoutAmong s.timeout (leaf.timeout :: around.map Step.timeout),
        depth + around.length⟩ := by
  induction h with
  | @leaf depth s st last leaf hperforms =>
    rw [writes_runFrom_iff_performs]
    refine ⟨_, _, hperforms, writes_leaf.mpr ⟨rfl, ?_⟩⟩
    rw [← Limits.timeoutAmong_singleton]
    rfl
  | @inside depth s inner st here start last step around leaf hperforms hstarts _ ih =>
    have hcomposite : ∀ leaf, step ≠ .leaf leaf := by
      rintro leaf rfl
      cases hstarts
    rw [timeout_of_starts hstarts, ← Limits.timeoutAmong_append] at ih
    rw [writes_runFrom_iff_performs]
    refine ⟨step, here, hperforms, (writes_composite hcomposite).mpr ⟨inner, start, hstarts, ?_⟩⟩
    simpa [Nat.add_assoc, Nat.add_comm 1] using ih

/-- All that a run writes down was executed. -/
theorem exists_executes_of_writes (levels : Nat) :
    ∀ depth s st, r.limits.maxNesting < depth + levels →
      Writes (r.recorded.runFrom depth s) st before task →
        ∃ around last, r.recorded.Executes depth s st around task.step last ∧
          last.tasks = before ∧
          task.timeout = r.limits.timeoutAmong s.timeout
            (task.step.timeout :: around.map Step.timeout) := by
  induction levels with
  -- Too deep to be permitted: nothing is written down.
  | zero =>
    intro depth s st hdeep hwrites
    obtain ⟨step, _, ⟨hpermit, -⟩, -⟩ := writes_runFrom_iff_performs.mp hwrites
    exact absurd (permit_eq_ok_iff.mp hpermit).2.2 (Nat.not_le_of_lt hdeep)
  | succ levels ih =>
    intro depth s st hdeep hwrites
    obtain ⟨step, here, hperforms, hwrites⟩ := writes_runFrom_iff_performs.mp hwrites
    by_cases hleaf : ∃ leaf, step = .leaf leaf
    · obtain ⟨leaf, rfl⟩ := hleaf
      obtain ⟨hbefore, rfl⟩ := writes_leaf.mp hwrites
      exact ⟨[], here, .leaf hperforms, hbefore, (r.limits.timeoutAmong_singleton _ _).symm⟩
    · have hcomposite : ∀ leaf, step ≠ .leaf leaf := fun leaf h => hleaf ⟨leaf, h⟩
      obtain ⟨inner, start, hstarts, hwrites⟩ := (writes_composite hcomposite).mp hwrites
      obtain ⟨around, last, hexecutes, hbefore, htime⟩ :=
        ih (depth + 1) inner start (by omega) hwrites
      -- The step is the outermost of those around the task, so it comes last.
      refine ⟨around ++ [step], last, .inside hperforms hstarts hexecutes, hbefore, ?_⟩
      rw [htime, timeout_of_starts hstarts, ← Limits.timeoutAmong_append]
      simp

end Runs

/-! ### Runs -/

/-- The times of the steps that a run performs. Each task of the run is a step that is executed,
with the tasks before it written down before it begins, and each step that is executed is such a
task. Its time is the first positive one that is declared by the step itself and by the steps around
it, from the inside out, within the limit, or else that of the run. So no step gets more than the
greater of the two. A step declares the whole part of the number that its template gives, if that is
finite and not negative; a step that runs another flow declares nothing. -/
theorem run_times (r : Runner σ) (s : Sequence) (st : σ) :
    let start : Recorded σ := ⟨st, []⟩
    let tasks := ((r.recorded.run s).after start).tasks
    let timeOf (leaf : Step.Leaf) (around : List Step) :=
      r.limits.timeoutAmong s.timeout (leaf.timeout :: around.map Step.timeout)
    (∀ before task, before ++ [task] <+: tasks →
        ∃ around last, r.recorded.Executes 0 s start around task.step last ∧ last.tasks = before ∧
          task.timeout = timeOf task.step around) ∧
      (∀ around leaf last, r.recorded.Executes 0 s start around leaf last →
        last.tasks ++ [⟨leaf, timeOf leaf around, around.length⟩] <+: tasks) ∧
      (∀ task ∈ tasks, task.timeout ≤ max s.timeout r.limits.maxStepTimeout) ∧
      ∀ template step, Step.ofJson r.wording template = .ok step → ∀ t,
        (step.timeout = some t ↔
          step.kind ≠ .runAction ∧ ∃ x, Step.GivesTime template x ∧ x.floorUpTo maxWord = t) := by
  intro start tasks timeOf
  have hexecutes : ∀ before task, before ++ [task] <+: tasks →
      ∃ around last, r.recorded.Executes 0 s start around task.step last ∧ last.tasks = before ∧
        task.timeout = timeOf task.step around :=
    fun before task htask => exists_executes_of_writes (r.limits.maxNesting + 1) 0 s start
      (by omega) ⟨List.nil_prefix, htask⟩
  refine ⟨hexecutes, fun around leaf last h => ?_, fun task htask => ?_,
    fun template step h t => Step.timeout_eq_some_iff h⟩
  · have hwrites := h.writes.2
    rwa [Nat.zero_add] at hwrites
  · obtain ⟨before, rest, hsplit⟩ := List.append_of_mem htask
    obtain ⟨around, last, -, -, htime⟩ := hexecutes before task ⟨rest, by simp [hsplit]⟩
    rw [htime]
    exact Limits.timeoutAmong_le _ _ _

/-- A step that declares zero, in a flow that is called by a step with a time of its own, gets the
time of the step around that one. The step behind it gets no more than the limit, and the last one,
with a time that is no number, gets the time of the run. -/
theorem run_times_nested :
    let visit (timeout : Json) :=
      Json.object [("timeout", timeout), ("type", .text "goto"), ("url", .text "a")]
    let call := Json.object
      [("name", .text "pay"), ("timeout", .number (.int 50)), ("type", .text "runAction")]
    let trying := Json.object [("fallbackSteps", .array []), ("steps", .array [call]),
      ("timeout", .text " 900 "), ("type", .text "trySteps")]
    let r := onPage .brief .strict .lenient fun _ =>
      some [visit (.text "0"), visit (.number (.int 9000))]
    let s : Sequence := ⟨"open", [trying, visit (.text "soon")], .empty, 300⟩
    let start : Recorded Page := ⟨Page.opened "", []⟩
    let tasks := ((r.recorded.run s).after start).tasks
    let goto (timeout : Option Nat) : Step.Leaf := .goto ⟨some "a", none, timeout⟩
    let first : Task := ⟨goto (some 0), 900, 2⟩
    tasks = [first, ⟨goto (some 9000), 2000, 2⟩, ⟨goto none, 300, 0⟩] ∧
      ∃ around last, r.recorded.Executes 0 s start around first.step last ∧ last.tasks = [] ∧
        Limits.strict.timeoutAmong 300 (some 0 :: around.map Step.timeout) = 900 := by
  intro visit call trying r s start tasks goto first
  have htasks : tasks = [first, ⟨goto (some 9000), 2000, 2⟩, ⟨goto none, 300, 0⟩] := by
    decide +kernel
  obtain ⟨around, last, hexecutes, hlast, htime⟩ :=
    (run_times r s start.state).1 [] first ⟨[_, _], htasks.symm⟩
  exact ⟨htasks, around, last, hexecutes, hlast, htime.symm⟩

end Runner

end FlowPilot
