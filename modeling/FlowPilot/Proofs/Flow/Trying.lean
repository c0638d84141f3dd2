import FlowPilot.Flow.OnPage
import FlowPilot.Proofs.Act
import FlowPilot.Proofs.Flow.Recursion
import FlowPilot.Proofs.Template.Fill

/-!
# Trying a sequence

A step that tries a sequence hands its templates over filled in, and the sequence fills them in
again when it runs. So a sequence does the same on its own and as the first branch of such a step
as soon as one more filling does not change its steps, and as one more level does not break the
limit on nesting.

Logs are left aside here: a nested sequence keeps none.

## Main definitions

* `Bindings.Keeps`, `Bindings.Settles`: a template that stands for the same step when it is rendered
  or filled in once more.
* `Runner.fits`: whether a sequence and all that it runs keep the limits.
* `Sequence.trying`: a sequence as the first branch of a single step.

## Main statements

* `Runner.runAt_filled`: templates that keep their steps may be filled in before they run.
* `Runner.runAt_of_fits`: a sequence that fits does the same at every depth that leaves it room.
* `Runner.run_trying`: a sequence that succeeds does the same as the first branch of a step.
-/

namespace FlowPilot

/-! ### Templates that are filled in twice -/

/-- A template that stands for the same step when it is rendered once more. The templates inside a
step that tries sequences are rendered again when they run, so that it is enough if those keep their
steps then. -/
inductive Bindings.Keeps (b : Bindings) (w : Wording) (mode : RenderMode) : Json → Prop
  | same {template : Json}
      (h : (b.render mode (b.fillJson template) >>= Step.ofJson w) =
        (b.render mode template >>= Step.ofJson w)) :
      Keeps b w mode template
  | inside {template : Json} {steps fallbackSteps : List Json} {timeout : Option Nat}
      (honce : (b.render mode template >>= Step.ofJson w) =
        .ok (.trySteps ⟨steps, fallbackSteps, timeout⟩))
      (htwice : (b.render mode (b.fillJson template) >>= Step.ofJson w) =
        .ok (.trySteps ⟨b.fillItems steps, b.fillItems fallbackSteps, timeout⟩))
      (hsteps : ∀ inner ∈ steps, Keeps b w mode inner)
      (hfallback : ∀ inner ∈ fallbackSteps, Keeps b w mode inner) :
      Keeps b w mode template

/-- A template keeps its step when rendering it leaves no placeholder. -/
theorem Bindings.keeps_of_rendered {b : Bindings} {w : Wording} {mode : RenderMode}
    {template : Json}
    (hrender : b.render mode template = .ok (b.fillJson template))
    (h : Template.keysIn (b.fillJson template) = []) : b.Keeps w mode template :=
  .same (by rw [b.render_of_keysIn_eq_nil mode h, hrender])

/-- A template that stands for the same step when it is filled in once more. The templates inside a
step that tries sequences are filled in again when they run, so that it is enough if those settle
then. -/
inductive Bindings.Settles (b : Bindings) (w : Wording) : Json → Prop
  | same {template : Json}
      (h : Step.ofJson w (b.fillJson (b.fillJson template)) = Step.ofJson w (b.fillJson template)) :
      Settles b w template
  | inside {template : Json} {steps fallbackSteps : List Json} {timeout : Option Nat}
      (honce : Step.ofJson w (b.fillJson template) =
        .ok (.trySteps ⟨steps, fallbackSteps, timeout⟩))
      (htwice : Step.ofJson w (b.fillJson (b.fillJson template)) =
        .ok (.trySteps ⟨b.fillItems steps, b.fillItems fallbackSteps, timeout⟩))
      (hsteps : ∀ inner ∈ steps, Settles b w inner)
      (hfallback : ∀ inner ∈ fallbackSteps, Settles b w inner) :
      Settles b w template

/-- Lenient rendering is filling in. -/
theorem Bindings.Settles.keeps {b : Bindings} {w : Wording} {template : Json}
    (h : b.Settles w template) : b.Keeps w .lenient template := by
  induction h with
  | @same template h =>
    refine .same ?_
    rw [render_lenient, render_lenient]
    exact h
  | @inside template _ _ _ honce htwice _ _ ihsteps ihfallback =>
    have honce' : (b.render .lenient template >>= Step.ofJson w) = _ :=
      (congrArg (· >>= Step.ofJson w) (b.render_lenient _)).trans honce
    have htwice' : (b.render .lenient (b.fillJson template) >>= Step.ofJson w) = _ :=
      (congrArg (· >>= Step.ofJson w) (b.render_lenient _)).trans htwice
    exact .inside honce' htwice' ihsteps ihfallback

/-- A template settles when filling it in leaves no placeholder. -/
theorem Bindings.settles_of_keysIn_eq_nil {b : Bindings} {w : Wording} {template : Json}
    (h : Template.keysIn (b.fillJson template) = []) : b.Settles w template :=
  .same (by rw [b.fillJson_of_keysIn_eq_nil _ h])

/-- The template of a step that tries templates and falls back to others. -/
def Step.tryTemplate (steps fallbackSteps : List Json) : Json :=
  .object [("fallbackSteps", .array fallbackSteps), ("steps", .array steps),
    ("type", .text "trySteps")]

theorem Step.fillJson_tryTemplate (b : Bindings) (steps fallbackSteps : List Json) :
    b.fillJson (tryTemplate steps fallbackSteps) =
      tryTemplate (b.fillItems steps) (b.fillItems fallbackSteps) := by
  have htype : b.fill "trySteps" = "trySteps" := b.fill_of_keys_eq_nil (by decide +kernel)
  simp only [tryTemplate, Bindings.fillJson, Bindings.fillMembers, htype]

theorem Step.ofJson_tryTemplate (w : Wording) (steps fallbackSteps : List Json) :
    ofJson w (tryTemplate steps fallbackSteps) = .ok (.trySteps ⟨steps, fallbackSteps, none⟩) := by
  rfl

/-- A sequence as the first branch of a single step. -/
def Sequence.trying (s : Sequence) (fallbackSteps : List Json) : Sequence :=
  { s with steps := [Step.tryTemplate s.steps fallbackSteps] }

/-- What such a step runs first: the sequence under another name, filled in already. -/
def Sequence.firstBranch (s : Sequence) : Sequence :=
  { s with name := s.name ++ ".trySteps", steps := s.bindings.fillItems s.steps }

namespace Runner

variable {σ : Type} {r : Runner σ}

/-! ### Runs without logs -/

/-- The step that a template of a sequence stands for. -/
def stepOf (r : Runner σ) (s : Sequence) (template : Json) : Except Fault Step :=
  s.bindings.render r.mode template >>= Step.ofJson r.wording

theorem stepOf_of_render {s : Sequence} {template filled : Json}
    (h : s.bindings.render r.mode template = .ok filled) :
    r.stepOf s template = Step.ofJson r.wording filled := by
  rw [stepOf, h]
  rfl

/-- A step is read from the template as it is filled in, whatever the mode is. -/
theorem rendered_of_stepOf {s : Sequence} {template : Json} {step : Step}
    (h : r.stepOf s template = .ok step) :
    s.bindings.render r.mode template = .ok (s.bindings.fillJson template) ∧
      Step.ofJson r.wording (s.bindings.fillJson template) = .ok step := by
  cases hrender : s.bindings.render r.mode template with
  | error e =>
    rw [stepOf, hrender] at h
    cases h
  | ok filled =>
    rw [← s.bindings.eq_fillJson_of_render hrender, ← stepOf_of_render hrender]
    exact ⟨rfl, h⟩

/-- Performs the steps of templates in order. -/
def performAll (r : Runner σ) (nested : Sequence → Act σ Unit) (s : Sequence) (depth : Nat) :
    List Json → Act σ Unit
  | [] => pure ()
  | template :: rest => do
    let step ← Act.ofExcept (r.stepOf s template)
    r.performStep nested s depth step
    performAll r nested s depth rest

section Logs

variable [Clock σ]

theorem discard_runStep (nested : Sequence → Act σ Unit) (s : Sequence) (depth index : Nat)
    (template : Json) :
    (discard (r.runStep nested s depth index template) : Act σ PUnit) = (do
      let step ← Act.ofExcept (r.stepOf s template)
      r.performStep nested s depth step) := by
  cases hrender : s.bindings.render r.mode template with
  | error e =>
    rw [runStep, stepOf, hrender]
    rfl
  | ok filled =>
    rw [stepOf_of_render hrender]
    apply Act.ext
    all_goals
      intro st
      cases hstep : Step.ofJson r.wording filled with
      | error e => simp [runStep, logLine, hrender, hstep, Except.map]
      | ok step =>
        cases hperform : (r.performStep nested s depth step).result st <;>
          simp [runStep, logLine, hrender, hstep, hperform, Except.map]

theorem discard_runSteps (nested : Sequence → Act σ Unit) (s : Sequence) (depth : Nat)
    (templates : List Json) :
    ∀ index, discard (r.runSteps nested s depth index templates) =
      r.performAll nested s depth templates := by
  induction templates with
  | nil => exact fun _ => rfl
  | cons template rest ih =>
    intro index
    rw [runSteps, Act.discard_append, discard_runStep, ih, performAll, bind_assoc]

/-- Without its log, a run is the refusal and the steps. -/
theorem discard_runAt_succ (levels depth : Nat) (s : Sequence) :
    (discard (r.runAt (levels + 1) depth s) : Act σ PUnit) = (do
      Act.ofExcept (r.permit s depth)
      r.performAll (fun inner => discard (r.runAt levels (depth + 1) inner)) s depth s.steps) := by
  rw [runAt_succ, ← discard_runSteps _ s depth s.steps 0]
  apply Act.ext
  all_goals
    intro st
    cases hpermit : r.permit s depth <;> simp [Except.map]

end Logs

/-! ### Templates that are filled in before they run -/

theorem permit_filled (r : Runner σ) (s : Sequence) (depth : Nat) :
    r.permit { s with steps := s.bindings.fillItems s.steps } depth = r.permit s depth := by
  have hlength := s.bindings.fillItems_length s.steps
  have hempty : (s.bindings.fillItems s.steps).isEmpty = s.steps.isEmpty := by
    cases s.steps <;> rfl
  simp only [permit, hempty, hlength]

/-- A step sees the name and the variables of its sequence, not the other steps. -/
theorem performStep_with_steps (nested : Sequence → Act σ Unit) (s : Sequence)
    (steps : List Json) (depth : Nat) (step : Step) :
    r.performStep nested { s with steps := steps } depth step =
      r.performStep nested s depth step := by
  cases step <;> rfl

theorem performAll_filled {nested : Sequence → Act σ Unit}
    (hnested : ∀ inner : Sequence, (∀ t ∈ inner.steps, inner.bindings.Keeps r.wording r.mode t) →
      nested { inner with steps := inner.bindings.fillItems inner.steps } = nested inner)
    (s : Sequence) (steps : List Json) (depth : Nat) (templates : List Json)
    (hkeeps : ∀ t ∈ templates, s.bindings.Keeps r.wording r.mode t) :
    r.performAll nested { s with steps := steps } depth (s.bindings.fillItems templates) =
      r.performAll nested s depth templates := by
  induction templates with
  | nil => rfl
  | cons template rest ih =>
    have hrest := ih fun t ht => hkeeps t (List.mem_cons_of_mem _ ht)
    rw [Bindings.fillItems, performAll, performAll, hrest]
    unfold stepOf
    cases hkeeps template List.mem_cons_self with
    | same h =>
      simp only [h, performStep_with_steps]
    | @inside _ first second timeout honce htwice hfirst hsecond =>
      -- the two steps differ, but their sequences are filled in again before they run
      have hstep : r.performStep nested { s with steps := steps } depth
            (.trySteps ⟨s.bindings.fillItems first, s.bindings.fillItems second, timeout⟩) =
          r.performStep nested s depth (.trySteps ⟨first, second, timeout⟩) := by
        simp only [performStep, performTry]
        rw [hnested ⟨s.name ++ ".trySteps", first, s.bindings, _⟩ hfirst,
          hnested ⟨s.name ++ ".fallbackSteps", second, s.bindings, _⟩ hsecond]
        rfl
      rw [honce, htwice, Act.ofExcept_ok_bind, Act.ofExcept_ok_bind, hstep]

/-- Templates that keep their steps may be filled in before they run. -/
theorem runAt_filled [Clock σ] (levels : Nat) :
    ∀ depth (s : Sequence), (∀ t ∈ s.steps, s.bindings.Keeps r.wording r.mode t) →
      (discard (r.runAt levels depth { s with steps := s.bindings.fillItems s.steps }) :
        Act σ PUnit) = discard (r.runAt levels depth s) := by
  induction levels with
  | zero =>
    intro depth s _
    rw [runAt, runAt, permit_filled]
  | succ levels ih =>
    intro depth s hkeeps
    rw [discard_runAt_succ, discard_runAt_succ, permit_filled,
      performAll_filled (ih (depth + 1)) s _ depth s.steps hkeeps]

/-! ### Sequences that fit -/

/-- The sequences that a step of a sequence runs. -/
def callees (r : Runner σ) (s : Sequence) (step : Step) : List Sequence :=
  let timeout := r.limits.timeoutOr s.timeout step.timeout
  match step with
  | .leaf _ => []
  | .trySteps step =>
    [⟨s.name ++ ".trySteps", step.steps, s.bindings, timeout⟩,
      ⟨s.name ++ ".fallbackSteps", step.fallbackSteps, s.bindings, timeout⟩]
  | .runAction step =>
    (step.target.bind fun name => (r.stepsOf name).map fun steps =>
      ⟨name, steps, s.bindings.overlay step.vars, timeout⟩).toList

/-- The sequences that a template of a sequence runs once it is filled in. -/
def calleesOf (r : Runner σ) (s : Sequence) (template : Json) : List Sequence :=
  match Step.ofJson r.wording (s.bindings.fillJson template) with
  | .ok step => r.callees s step
  | .error _ => []

/-- Whether a sequence and all that it runs keep the limit on steps and nest no deeper than the
levels. -/
def fits (r : Runner σ) : (levels : Nat) → Sequence → Bool
  | 0, _ => false
  | levels + 1, s =>
    decide (s.steps.length ≤ r.limits.maxSteps) &&
      (s.steps.flatMap (r.calleesOf s)).all (fits r levels)

/-- The limits refuse a sequence because of its steps and its depth, whatever its name is. -/
theorem permit_of_fits {s : Sequence} {levels depth depth' : Nat} (hfits : r.fits levels s)
    (hdepth : depth + levels ≤ r.limits.maxNesting + 1)
    (hdepth' : depth' + levels ≤ r.limits.maxNesting + 1) (name : String) :
    r.permit s depth = r.permit { s with name := name } depth' := by
  cases levels with
  | zero => exact absurd hfits Bool.false_ne_true
  | succ levels =>
    simp only [fits, Bool.and_eq_true, decide_eq_true_eq] at hfits
    have hviolations := (Limits.violations_eq_nil_iff r.limits s.name s.steps.length depth).mpr
      ⟨hfits.1, by omega⟩
    have hviolations' := (Limits.violations_eq_nil_iff r.limits name s.steps.length depth').mpr
      ⟨hfits.1, by omega⟩
    simp only [permit, hviolations, hviolations']

/-- Single steps are performed in the same way at every depth. -/
def IgnoresDepth (r : Runner σ) : Prop :=
  ∀ step timeout depth depth',
    r.perform ⟨step, timeout, depth⟩ = r.perform ⟨step, timeout, depth'⟩

theorem performStep_of_callees (hperform : r.IgnoresDepth)
    {nested nested' : Sequence → Act σ Unit} {s : Sequence} {step : Step}
    (hnested : ∀ inner ∈ r.callees s step, ∀ name,
      nested inner = nested' { inner with name := name }) (name : String) (depth depth' : Nat) :
    r.performStep nested s depth step =
      r.performStep nested' { s with name := name } depth' step := by
  -- Only the names of the nested sequences differ, and those that are passed on come from the step
  -- around them.
  cases step with
  | leaf leaf => exact hperform _ _ _ _
  | trySteps step =>
    simp only [performStep, performTry]
    rw [hnested _ List.mem_cons_self (name ++ ".trySteps"),
      hnested _ (List.mem_cons_of_mem _ List.mem_cons_self) (name ++ ".fallbackSteps")]
  | runAction step =>
    simp only [performStep, performAction]
    cases htarget : step.target with
    | none => rfl
    | some flow =>
      cases hsteps : r.stepsOf flow with
      | none => simp only [hsteps]
      | some steps =>
        simp only [hsteps]
        exact hnested _ (by simp [callees, htarget, hsteps]) flow

theorem performAll_of_callees (hperform : r.IgnoresDepth)
    {nested nested' : Sequence → Act σ Unit} {s : Sequence} (templates : List Json)
    (hnested : ∀ template ∈ templates, ∀ inner ∈ r.calleesOf s template, ∀ name,
      nested inner = nested' { inner with name := name }) (name : String) (depth depth' : Nat) :
    r.performAll nested s depth templates =
      r.performAll nested' { s with name := name } depth' templates := by
  induction templates with
  | nil => rfl
  | cons template rest ih =>
    have hrest := ih fun t ht => hnested t (List.mem_cons_of_mem _ ht)
    have hhere := hnested template List.mem_cons_self
    rw [performAll, performAll, hrest]
    have hsame : r.stepOf { s with name := name } template = r.stepOf s template := rfl
    unfold calleesOf at hhere
    rw [hsame]
    cases hstep : r.stepOf s template with
    | error e => rfl
    | ok step =>
      rw [(rendered_of_stepOf hstep).2] at hhere
      rw [Act.ofExcept_ok_bind, Act.ofExcept_ok_bind,
        performStep_of_callees hperform hhere name depth depth']

/-- A sequence that fits does the same at every depth that leaves it room, whatever its name is. -/
theorem runAt_of_fits [Clock σ] (hperform : r.IgnoresDepth) (room : Nat) :
    ∀ (s : Sequence) (name : String) (levels depth levels' depth' : Nat), r.fits room s →
      room ≤ levels → depth + room ≤ r.limits.maxNesting + 1 →
      room ≤ levels' → depth' + room ≤ r.limits.maxNesting + 1 →
      (discard (r.runAt levels depth s) : Act σ PUnit) =
        discard (r.runAt levels' depth' { s with name := name }) := by
  induction room with
  | zero => exact fun _ _ _ _ _ _ hfits => absurd hfits Bool.false_ne_true
  | succ room ih =>
    -- the name of a sequence goes into those of the sequences inside, hence any name here
    intro s name levels depth levels' depth' hfits hlevels hdepth hlevels' hdepth'
    obtain ⟨below, rfl⟩ : ∃ below, levels = below + 1 := ⟨levels - 1, by omega⟩
    obtain ⟨below', rfl⟩ : ∃ below', levels' = below' + 1 := ⟨levels' - 1, by omega⟩
    have hpermit := permit_of_fits hfits hdepth hdepth' name
    simp only [fits, Bool.and_eq_true, List.all_eq_true, List.mem_flatMap] at hfits
    rw [discard_runAt_succ, discard_runAt_succ, hpermit]
    congr 1
    funext _
    -- one level is used up, so what the steps run has one level of room less
    refine performAll_of_callees hperform s.steps ?_ name depth depth'
    intro template htemplate inner hinner name'
    exact ih inner name' below (depth + 1) below' (depth' + 1)
      (hfits.2 inner ⟨template, htemplate, hinner⟩) (by omega) (by omega) (by omega) (by omega)

/-! ### The first branch of a step -/

/-- The run of a step that tries a sequence is that of its template. -/
theorem run_trying_eq [Clock σ] (hsteps : 1 ≤ r.limits.maxSteps) (s : Sequence)
    (fallbackSteps : List Json) :
    r.run (s.trying fallbackSteps) =
      r.runSteps (fun inner => discard (r.runAt r.limits.maxNesting 1 inner))
        (s.trying fallbackSteps) 0 0 [Step.tryTemplate s.steps fallbackSteps] := by
  have hpermit : r.permit (s.trying fallbackSteps) 0 = .ok () :=
    permit_eq_ok_iff.mpr ⟨List.cons_ne_nil _ _, hsteps, Nat.zero_le _⟩
  rw [run, runAt_succ, hpermit]
  rfl

/-- A step that tries a sequence does what its first branch does, if that succeeds. -/
theorem run_trying_of_rendered [Clock σ] (hsteps : 1 ≤ r.limits.maxSteps) {s : Sequence}
    {fallbackSteps : List Json} {st st' : σ}
    (hrender : s.bindings.render r.mode (Step.tryTemplate s.steps fallbackSteps) =
      .ok (s.bindings.fillJson (Step.tryTemplate s.steps fallbackSteps)))
    (hresult : (discard (r.runAt r.limits.maxNesting 1 s.firstBranch) : Act σ PUnit).result st =
      .ok ⟨⟩)
    (hafter : (discard (r.runAt r.limits.maxNesting 1 s.firstBranch) : Act σ PUnit).after st =
      st') :
    (r.run (s.trying fallbackSteps)).result st =
        .ok [⟨0, "trySteps", Clock.now st, .started⟩, ⟨0, "trySteps", Clock.now st', .done⟩] ∧
      (r.run (s.trying fallbackSteps)).after st = st' := by
  have hkind : ((Step.tryTemplate (s.bindings.fillItems s.steps)
      (s.bindings.fillItems fallbackSteps)).get? "type").bind Json.text? = some "trySteps" := rfl
  have htimeout : r.limits.timeoutOr s.timeout none = s.timeout := rfl
  unfold Sequence.firstBranch at hresult hafter
  rw [Step.fillJson_tryTemplate] at hrender
  rw [run_trying_eq hsteps]
  simp [runSteps, runStep, logLine, hrender, Sequence.trying, Step.ofJson_tryTemplate, hkind,
    performStep, performTry, Step.timeout, htimeout, hresult, hafter, Except.map]

theorem run_trying_of_firstBranch [Clock σ] (hmode : r.mode = .lenient)
    (hsteps : 1 ≤ r.limits.maxSteps) (s : Sequence) (fallbackSteps : List Json) {st st' : σ}
    (hresult : (discard (r.runAt r.limits.maxNesting 1 s.firstBranch) : Act σ PUnit).result st =
      .ok ⟨⟩)
    (hafter : (discard (r.runAt r.limits.maxNesting 1 s.firstBranch) : Act σ PUnit).after st =
      st') :
    (r.run (s.trying fallbackSteps)).result st =
        .ok [⟨0, "trySteps", Clock.now st, .started⟩, ⟨0, "trySteps", Clock.now st', .done⟩] ∧
      (r.run (s.trying fallbackSteps)).after st = st' :=
  run_trying_of_rendered hsteps (by rw [hmode, Bindings.render_lenient]) hresult hafter

/-- A sequence that succeeds was not refused. -/
theorem permit_of_run [Clock σ] {s : Sequence} {st : σ} {log : List LogEntry}
    (hrun : (r.run s).result st = .ok log) : r.permit s 0 = .ok () := by
  rw [run, runAt_succ] at hrun
  cases hpermit : r.permit s 0 with
  | ok _ => rfl
  | error e =>
    rw [hpermit, Act.ofExcept_error_bind, Act.result_throw] at hrun
    exact absurd hrun (by simp)

/-- A sequence that fits and settles does without its log the same on its own and one level
deeper. -/
theorem firstBranch_eq_run [Clock σ] (hmode : r.mode = .lenient) (hperform : r.IgnoresDepth)
    {s : Sequence} (hfits : r.fits r.limits.maxNesting s)
    (hsettles : ∀ template ∈ s.steps, s.bindings.Settles r.wording template) :
    (discard (r.runAt r.limits.maxNesting 1 s.firstBranch) : Act σ PUnit) =
      discard (r.run s) := by
  -- first the templates as they were, then the depth and the name of the sequence itself
  have hkeeps : ∀ template ∈ s.steps, s.bindings.Keeps r.wording r.mode template :=
    fun template h => hmode ▸ (hsettles template h).keeps
  have hfilled := runAt_filled r.limits.maxNesting 1
    { s with name := s.name ++ ".trySteps" } hkeeps
  refine hfilled.trans ?_
  exact (runAt_of_fits hperform r.limits.maxNesting s (s.name ++ ".trySteps") _ 0 _ 1 hfits
    (Nat.le_succ _) (by omega) le_rfl (by omega)).symm

/-- A sequence that succeeds does the same as the first branch of a step: what was done to the page,
the page that is left and the time are the same. Its templates are filled in once more then, which
must not change its steps, and the limits must hold one level deeper. -/
theorem run_trying (host : Host) (limits : Limits) (stepsOf : String → Option (List Json))
    (s : Sequence) (fallbackSteps : List Json) (page : Page) {log : List LogEntry}
    (hfits : (onPage host limits .lenient stepsOf).fits limits.maxNesting s)
    (hsettles : ∀ template ∈ s.steps, s.bindings.Settles host.wording template)
    (hrun : ((onPage host limits .lenient stepsOf).run s).result page = .ok log) :
    let run := (onPage host limits .lenient stepsOf).run
    let page' := (run s).after page
    (run (s.trying fallbackSteps)).result page =
        .ok [⟨0, "trySteps", page.clock, .started⟩, ⟨0, "trySteps", page'.clock, .done⟩] ∧
      (run (s.trying fallbackSteps)).after page = page' := by
  intro run page'
  have hbranch := firstBranch_eq_run (r := onPage host limits .lenient stepsOf) rfl
    (fun _ _ _ _ => rfl) hfits hsettles
  obtain ⟨hsteps, hlength, _⟩ := permit_eq_ok_iff.mp (permit_of_run hrun)
  have hmaxSteps : 1 ≤ limits.maxSteps := le_trans (List.length_pos_iff.mpr hsteps) hlength
  refine run_trying_of_firstBranch rfl hmaxSteps s fallbackSteps ?_ ?_
  · rw [hbranch, Act.result_discard, hrun]
    rfl
  · rw [hbranch, Act.after_discard]

/-- The law at a sequence that itself tries another one, with a variable in the nested template. -/
theorem run_trying_nested :
    let visit := Json.object [("type", .text "goto"), ("url", .text "\x7b\x7bportal\x7d\x7d/home")]
    let s : Sequence := ⟨"open", [Step.tryTemplate [visit] []], ⟨[("portal", "https://sri")]⟩, 300⟩
    let run := (onPage .brief .strict .lenient fun _ => none).run
    let page := Page.opened ""
    (onPage .brief .strict .lenient fun _ => none).fits Limits.strict.maxNesting s ∧
      (∀ template ∈ s.steps, s.bindings.Settles .brief template) ∧
      ((run s).after page).url = "https://sri/home" ∧
      (run (s.trying [visit])).after page = (run s).after page := by
  intro visit s run page
  have hfits : (onPage .brief .strict .lenient fun _ => none).fits Limits.strict.maxNesting s := by
    decide +kernel
  have hsettles : ∀ template ∈ s.steps, s.bindings.Settles .brief template := by
    intro template htemplate
    rw [List.mem_singleton.mp htemplate]
    exact Bindings.settles_of_keysIn_eq_nil (by decide +kernel)
  have hrun : (run s).result page =
      .ok [⟨0, "trySteps", 0, .started⟩, ⟨0, "trySteps", 0, .done⟩] := by
    decide +kernel
  have hsame := run_trying .brief .strict _ s [visit] page hfits hsettles hrun
  exact ⟨hfits, hsettles, by decide +kernel, hsame.2⟩

/-- Where the text of a variable holds a placeholder itself, one more filling changes a step, and
the sequence does something else as the first branch of a step. -/
theorem trying_fills_in_twice :
    let visit := Json.object [("type", .text "goto"), ("url", .text "x\x7b\x7ba\x7d\x7d")]
    let s : Sequence := ⟨"open", [visit], ⟨[("a", "\x7b\x7bb\x7d\x7d")]⟩, 300⟩
    let run := (onPage .brief .strict .lenient fun _ => none).run
    let page := Page.opened ""
    (onPage .brief .strict .lenient fun _ => none).fits Limits.strict.maxNesting s ∧
      ((run s).result page).isOk ∧ ((run (s.trying [visit])).result page).isOk ∧
      ((run s).after page).url = "x\x7b\x7bb\x7d\x7d" ∧
      ((run (s.trying [visit])).after page).url = "x" := by
  decide +kernel

end Runner

end FlowPilot
