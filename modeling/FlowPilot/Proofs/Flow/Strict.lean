import FlowPilot.Proofs.Flow.Fallback
import FlowPilot.Proofs.Template.Tight
import FlowPilot.Proofs.Template.Unbound
import Mathlib.Data.List.Forall2

/-!
# Trying a sequence in strict mode

Strict rendering looks at a template as a whole, so that a step that tries a sequence fails at once
if the sequence that it falls back to names a variable that has no text. Apart from this the second
sequence does not count where the first one succeeds on its own: one level deeper it takes the same
course, as long as nothing that it runs would be nested too deep there, and as its templates keep
their steps when they are rendered once more.

## Main definitions

* `Act.SameCourse`: acts that succeed or fail alike and leave the same state.
* `Runner.Reaches`: how deep the sequences are nested that run when a sequence does.

## Main statements

* `Bindings.keeps_of_tight`: a template keeps its step where no brace opens but for placeholders.
* `Runner.runFrom_deeper`: a sequence takes the same course one level deeper.
* `Runner.reaches_of_fits`: a sequence that fits reaches no deeper than its levels.
* `Runner.run_trying_strict`: what a step does that tries a sequence which succeeds on its own.
-/

namespace FlowPilot

namespace Bindings

/-- Where no variable has a text with an opening brace, a template that opens none of its own keeps
its step. -/
theorem keeps_of_tight {b : Bindings} (hb : b.IsBraceless) {w : Wording} {mode : RenderMode}
    {template filled : Json} (hrender : b.render mode template = .ok filled)
    (h : Template.tight template = true) : b.Keeps w mode template := by
  obtain rfl := b.eq_fillJson_of_render hrender
  exact keeps_of_rendered hrender (keysIn_fillJson_of_tight hb template h)

end Bindings

namespace Act

variable {σ α β : Type} {x y : Act σ α} {st : σ}

/-! ### Acts that take the same course -/

/-- Two acts both succeed, with the same result, or both fail, for whatever reasons, and they leave
the same state. -/
structure SameCourse (x y : Act σ α) (st : σ) : Prop where
  result : (x.result st).toOption = (y.result st).toOption
  after : x.after st = y.after st

theorem SameCourse.refl (x : Act σ α) (st : σ) : SameCourse x x st := ⟨rfl, rfl⟩

theorem SameCourse.of_errors {e e' : Fault} (hx : x.result st = .error e)
    (hy : y.result st = .error e') (hafter : x.after st = y.after st) : SameCourse x y st :=
  ⟨by rw [hx, hy]; rfl, hafter⟩

/-- Acts that take the same course both succeed or both fail. -/
theorem SameCourse.ok_or_error (h : SameCourse x y st) :
    (∃ a, x.result st = .ok a ∧ y.result st = .ok a) ∨
      ∃ e e', x.result st = .error e ∧ y.result st = .error e' := by
  have hresult := h.result
  -- The results agree but for the failure, so the mixed cases are impossible.
  cases hx : x.result st with
  | ok a =>
    cases hy : y.result st with
    | ok b =>
      rw [hx, hy] at hresult
      obtain rfl := Option.some.inj hresult
      exact .inl ⟨a, rfl, rfl⟩
    | error e =>
      rw [hx, hy] at hresult
      cases hresult
  | error e =>
    cases hy : y.result st with
    | ok b =>
      rw [hx, hy] at hresult
      cases hresult
    | error e' => exact .inr ⟨e, e', rfl, rfl⟩

theorem SameCourse.bind {f g : α → Act σ β} (h : SameCourse x y st)
    (hrest : ∀ a, y.result st = .ok a → SameCourse (f a) (g a) (y.after st)) :
    SameCourse (x >>= f) (y >>= g) st := by
  rcases h.ok_or_error with ⟨a, hx, hy⟩ | ⟨e, e', hx, hy⟩
  · have hfg := hrest a hy
    refine ⟨?_, ?_⟩
    · rw [result_bind, result_bind, hx, hy, h.after]
      exact hfg.result
    · rw [after_bind, after_bind, hx, hy, h.after]
      exact hfg.after
  · have hleft : (x >>= f).result st = .error e := by rw [result_bind, hx]
    have hright : (y >>= g).result st = .error e' := by rw [result_bind, hy]
    refine .of_errors hleft hright ?_
    rw [after_bind, after_bind, hx, hy]
    exact h.after

theorem SameCourse.tryCatch {handle handle' : Fault → Act σ α} (h : SameCourse x y st)
    (hrest : ∀ e e', y.result st = .error e' → SameCourse (handle e) (handle' e') (y.after st)) :
    SameCourse (tryCatch x handle) (tryCatch y handle') st := by
  rcases h.ok_or_error with ⟨a, hx, hy⟩ | ⟨e, e', hx, hy⟩
  · refine ⟨?_, ?_⟩
    · rw [result_tryCatch, result_tryCatch, hx, hy]
    · rw [after_tryCatch, after_tryCatch, hx, hy]
      exact h.after
  · have hhandle := hrest e e' hy
    refine ⟨?_, ?_⟩
    · rw [result_tryCatch, result_tryCatch, hx, hy, h.after]
      exact hhandle.result
    · rw [after_tryCatch, after_tryCatch, hx, hy, h.after]
      exact hhandle.after

theorem SameCourse.adapt (h : SameCourse x y st) (f g : Fault → Fault) :
    SameCourse (ExceptT.adapt f x) (ExceptT.adapt g y) st := by
  refine ⟨?_, h.after⟩
  rcases h.ok_or_error with ⟨a, hx, hy⟩ | ⟨e, e', hx, hy⟩
  · rw [result_adapt, result_adapt, hx, hy]
    rfl
  · rw [result_adapt, result_adapt, hx, hy]
    rfl

end Act

namespace Runner

open Act

variable {σ : Type} [Clock σ] {r : Runner σ} {s : Sequence} {depth reached : Nat} {st : σ}

/-! ### How deep a run goes -/

/-- The depths of the sequences that are started when a sequence is, its own included. -/
inductive Reaches (r : Runner σ) : (depth : Nat) → Sequence → σ → (reached : Nat) → Prop
  | here (depth : Nat) (s : Sequence) (st : σ) : Reaches r depth s st depth
  | inside {depth reached : Nat} {s inner : Sequence} {step : Step} {st st' st'' : σ}
      (hperforms : r.Performs depth s st step st')
      (hstarts : r.Starts depth s step st' inner st'')
      (hreaches : Reaches r (depth + 1) inner st'' reached) : Reaches r depth s st reached

theorem mem_callees_of_starts {step : Step} {inner : Sequence} {st' : σ}
    (h : r.Starts depth s step st inner st') : inner ∈ r.callees s step := by
  cases h with
  | primary step => exact List.mem_cons_self
  | fallback hprimary => exact List.mem_cons_of_mem _ List.mem_cons_self
  | called htarget hsteps => simp [callees, htarget, hsteps, calledBy, Step.timeout]

/-- A sequence that fits reaches no deeper than its levels. -/
theorem reaches_of_fits (h : r.Reaches depth s st reached) :
    ∀ levels, r.fits levels s → reached < depth + levels := by
  induction h with
  | here depth s st =>
    intro levels hfits
    cases levels with
    | zero => exact absurd hfits Bool.false_ne_true
    | succ levels => omega
  | @inside depth reached s inner step st st' st'' hperforms hstarts _ ih =>
    intro levels hfits
    cases levels with
    | zero => exact absurd hfits Bool.false_ne_true
    | succ levels =>
      cases hperforms with
      | @intro before rest template filled log _ _ hsteps _ hfilled hread =>
        simp only [fits, Bool.and_eq_true, List.all_eq_true, List.mem_flatMap] at hfits
        have htemplate : template ∈ s.steps := by simp [hsteps]
        -- What starts inside is a callee of its template, and callees fit one level less.
        have hcallee : inner ∈ r.calleesOf s template := by
          rw [calleesOf, ← s.bindings.eq_fillJson_of_render hfilled, hread]
          exact mem_callees_of_starts hstarts
        have hinner := ih levels (hfits.2 inner ⟨template, htemplate, hcallee⟩)
        omega

/-! ### One level deeper -/

/-- Without its log, a run is the refusal and the steps. -/
theorem discard_runFrom (r : Runner σ) (depth : Nat) (s : Sequence) :
    (discard (r.runFrom depth s) : Act σ PUnit) = (do
      Act.ofExcept (r.permit s depth)
      r.performAll (r.nestedAt depth) s depth s.steps) := by
  have hnested : (fun inner => discard (r.runFrom (depth + 1) inner)) = r.nestedAt depth := rfl
  rw [r.runFrom_unfolds depth s, hnested, ← discard_runSteps _ s depth s.steps 0]
  apply Act.ext
  all_goals
    intro st
    cases hpermit : r.permit s depth <;> simp [Except.map]

omit [Clock σ] in
theorem error_of_discard {α : Type} {x : Act σ α} {e : Fault}
    (h : (discard x : Act σ PUnit).result st = .error e) : x.result st = .error e := by
  rw [result_discard] at h
  cases hx : x.result st with
  | ok a =>
    rw [hx] at h
    cases h
  | error e' =>
    rw [hx] at h
    exact congrArg Except.error (Except.error.inj h)

/-- A step takes the same course one level deeper if the sequences do that it starts. -/
theorem performStep_deeper (hperform : r.IgnoresDepth) {step : Step}
    (hnested : ∀ inner st', r.Starts depth s step st inner st' → ∀ name,
      SameCourse (r.nestedAt (depth + 1) { inner with name := name }) (r.nestedAt depth inner) st')
    (name : String) :
    SameCourse (r.performStep (r.nestedAt (depth + 1)) { s with name := name } (depth + 1) step)
      (r.performStep (r.nestedAt depth) s depth step) st := by
  cases step with
  | leaf leaf =>
    have hsame : r.performStep (r.nestedAt (depth + 1)) { s with name := name } (depth + 1)
        (.leaf leaf) = r.performStep (r.nestedAt depth) s depth (.leaf leaf) := hperform _ _ _ _
    rw [hsame]
    exact .refl _ st
  | trySteps step =>
    refine SameCourse.tryCatch (hnested _ _ (.primary step st) (name ++ ".trySteps")) ?_
    intro e e' hprimary
    -- both first sequences failed, and the second ones begin in the state that they left
    have hfails : (r.runFrom (depth + 1) (r.primaryOf s step)).result st = .error e' :=
      error_of_discard hprimary
    have hleft : (r.nestedAt depth (r.primaryOf s step)).after st =
        (r.runFrom (depth + 1) (r.primaryOf s step)).after st := after_discard _
    have hsecond := (hnested _ _ (.fallback hfails) (name ++ ".fallbackSteps")).adapt
      (.fallbackExhausted e) (.fallbackExhausted e')
    rw [← hleft] at hsecond
    exact hsecond
  | runAction step =>
    simp only [performStep, performAction]
    cases htarget : step.target with
    | none => exact .refl _ st
    | some flow =>
      cases hsteps : r.stepsOf flow with
      | none =>
        simp only [hsteps]
        exact .refl _ st
      | some steps =>
        simp only [hsteps]
        exact hnested _ _ (.called htarget hsteps st) flow

/-- One more step runs behind the others. -/
theorem runSteps_snoc (nested : Sequence → Act σ Unit) (s : Sequence) (depth index : Nat)
    (before : List Json) (template : Json) :
    r.runSteps nested s depth index (before ++ [template]) = (do
      let log ← r.runSteps nested s depth index before
      let lines ← r.runStep nested s depth (index + before.length) template
      return log ++ lines) := by
  simp only [runSteps_append, runSteps, pure_bind, List.append_nil, bind_pure]

/-- Where a step is done behind others, the steps up to it are run, and they end where it does. -/
theorem runSteps_snoc_of_done {nested : Sequence → Act σ Unit} {before : List Json}
    {log : List LogEntry} {template filled : Json} {step : Step}
    (hbefore : (r.runSteps nested s depth 0 before).result st = .ok log)
    (hfilled : s.bindings.render r.mode template = .ok filled)
    (hread : Step.ofJson r.wording filled = .ok step) {u : Unit}
    (hdone : (r.performStep nested s depth step).result
      ((r.runSteps nested s depth 0 before).after st) = .ok u) :
    (∃ log', (r.runSteps nested s depth 0 (before ++ [template])).result st = .ok log') ∧
      (r.runSteps nested s depth 0 (before ++ [template])).after st =
        (r.performStep nested s depth step).after
          ((r.runSteps nested s depth 0 before).after st) := by
  obtain ⟨lines, hlines⟩ : ∃ lines, (r.runStep nested s depth (0 + before.length) template).result
      ((r.runSteps nested s depth 0 before).after st) = .ok lines := by
    cases hline : (r.runStep nested s depth (0 + before.length) template).result
        ((r.runSteps nested s depth 0 before).after st) with
    | ok lines => exact ⟨lines, rfl⟩
    | error e =>
      have hfails := (result_runStep_eq_error_iff hfilled hread).mp hline
      rw [hdone] at hfails
      cases hfails
  refine ⟨⟨log ++ lines, ?_⟩, ?_⟩
  · rw [runSteps_snoc, result_bind_eq_ok_iff]
    exact ⟨log, hbefore, result_bind_eq_ok_iff.mpr ⟨lines, hlines, rfl⟩⟩
  · simp only [runSteps_snoc, after_bind, hbefore, hlines, after_pure,
      after_runStep hfilled hread]

/-- What is left of a sequence takes the same course one level deeper. -/
theorem performAll_deeper (hperform : r.IgnoresDepth) (hpermit : r.permit s depth = .ok ())
    (hnested : ∀ step st' inner st'', r.Performs depth s st step st' →
      r.Starts depth s step st' inner st'' → ∀ name,
      SameCourse (r.nestedAt (depth + 1) { inner with name := name })
        (r.nestedAt depth inner) st'')
    (name : String) (rest : List Json) :
    ∀ before log, s.steps = before ++ rest →
      (r.runSteps (r.nestedAt depth) s depth 0 before).result st = .ok log →
      SameCourse (r.performAll (r.nestedAt (depth + 1)) { s with name := name } (depth + 1) rest)
        (r.performAll (r.nestedAt depth) s depth rest)
        ((r.runSteps (r.nestedAt depth) s depth 0 before).after st) := by
  induction rest with
  | nil => exact fun _ _ _ _ => .refl _ _
  | cons template rest ih =>
    intro before log hsteps hbefore
    have hsame : r.stepOf { s with name := name } template = r.stepOf s template := rfl
    rw [performAll, performAll, hsame]
    cases hstep : r.stepOf s template with
    | error e => exact .refl _ _
    | ok step =>
      obtain ⟨hfilled, hread⟩ := rendered_of_stepOf hstep
      have hperforms := Performs.intro hpermit hsteps hbefore hfilled hread
      rw [ofExcept_ok_bind, ofExcept_ok_bind]
      refine SameCourse.bind (performStep_deeper hperform
        (fun inner st' hstarts => hnested step _ inner st' hperforms hstarts) name) ?_
      intro _ hdone
      -- the step is done, so that what follows it begins where it ended
      obtain ⟨⟨log', hmore⟩, hafter⟩ := runSteps_snoc_of_done hbefore hfilled hread hdone
      rw [← hafter]
      exact ih (before ++ [template]) log' (by simp [hsteps]) hmore

/-- A sequence takes the same course one level deeper and under another name, if none that is
started on the way is as deep as the limit allows. -/
theorem runFrom_deeper (hperform : r.IgnoresDepth) (levels : Nat) :
    ∀ depth (s : Sequence) (st : σ) (name : String), r.limits.maxNesting < depth + levels →
      (∀ reached, r.Reaches depth s st reached → reached < r.limits.maxNesting) →
      SameCourse (r.nestedAt depth { s with name := name }) (discard (r.runFrom depth s)) st := by
  induction levels with
  | zero =>
    intro depth s st name hdeep hroom
    have hhere := hroom depth (.here depth s st)
    omega
  | succ levels ih =>
    intro depth s st name hdeep hroom
    have hhere := hroom depth (.here depth s st)
    have hpermits : r.permit s depth = .ok () ↔
        r.permit { s with name := name } (depth + 1) = .ok () := by
      rw [permit_eq_ok_iff, permit_eq_ok_iff]
      exact and_congr_right fun _ => and_congr_right fun _ => by omega
    rw [nestedAt, discard_runFrom, discard_runFrom]
    cases hpermit : r.permit s depth with
    | ok u =>
      rw [hpermits.mp hpermit, ofExcept_ok_bind, ofExcept_ok_bind]
      -- one level deeper by the induction, which has one level less to go
      refine performAll_deeper hperform hpermit ?_ name s.steps [] [] rfl rfl
      intro step st' inner st'' hperforms hstarts name'
      exact ih (depth + 1) inner st'' name' (by omega) fun reached hreaches =>
        hroom reached (.inside hperforms hstarts hreaches)
    | error e =>
      cases hpermit' : r.permit { s with name := name } (depth + 1) with
      | ok u => simp [hpermits.mpr hpermit'] at hpermit
      | error e' =>
        rw [ofExcept_error_bind, ofExcept_error_bind]
        exact .of_errors rfl rfl rfl

/-- The first branch of a step takes the course that its sequence takes on its own. -/
theorem firstBranch_sameCourse (hperform : r.IgnoresDepth)
    (hroom : ∀ reached, r.Reaches 0 s st reached → reached < r.limits.maxNesting)
    (hkeeps : ∀ template ∈ s.steps, s.bindings.Keeps r.wording r.mode template) :
    SameCourse (discard (r.runAt r.limits.maxNesting 1 s.firstBranch)) (discard (r.run s)) st := by
  -- first the templates as they were, then the depth and the name of the sequence itself
  have hfilled : (discard (r.runAt r.limits.maxNesting 1 s.firstBranch) : Act σ PUnit) =
      r.nestedAt 0 { s with name := s.name ++ ".trySteps" } :=
    runAt_filled r.limits.maxNesting 1 { s with name := s.name ++ ".trySteps" } hkeeps
  rw [hfilled]
  exact runFrom_deeper hperform (r.limits.maxNesting + 1) 0 s st _ (by omega) hroom

/-! ### Variables that have no text -/

theorem unbound_of_render {b : Bindings} {template filled : Json}
    (h : b.render .strict template = .ok filled) : b.unbound template = [] := by
  rw [b.render_strict] at h
  split at h
  next hnone => exact hnone
  next => cases h

omit [Clock σ] in
theorem filter_keysIn_of_unbound {b : Bindings} {template : Json} (h : b.unbound template = []) :
    ((Template.keysIn template).filter fun key => (b.get? key).isNone) = [] := by
  rw [List.eq_nil_iff_forall_not_mem] at h ⊢
  exact fun key hkey => h key (List.mem_eraseDups.mpr hkey)

/-- Next to templates that name no other variables, the unset ones of a step that tries them are
those of the templates that it falls back to. -/
theorem unbound_tryTemplate {b : Bindings} {steps : List Json}
    (hsteps : ∀ template ∈ steps, b.unbound template = []) (fallbackSteps : List Json) :
    b.unbound (Step.tryTemplate steps fallbackSteps) = b.unbound (.array fallbackSteps) := by
  have hfilter : ((Template.keysInItems steps).filter fun key => (b.get? key).isNone) = [] := by
    induction steps with
    | nil => rfl
    | cons template rest ih =>
      rw [Template.keysInItems, List.filter_append,
        filter_keysIn_of_unbound (hsteps template List.mem_cons_self),
        ih fun t ht => hsteps t (List.mem_cons_of_mem _ ht)]
      rfl
  have hkind : Template.keys "trySteps" = [] := by decide +kernel
  have hkeys : Template.keysIn (Step.tryTemplate steps fallbackSteps) =
      Template.keysInItems fallbackSteps ++ (Template.keysInItems steps ++ []) := by
    simp only [Step.tryTemplate, Template.keysIn, Template.keysInMembers, hkind, List.append_nil]
  rw [Bindings.unbound, hkeys, List.append_nil, List.filter_append, hfilter, List.append_nil]
  rfl

/-- Where a sequence succeeds in strict mode all variables that it names have texts. -/
theorem bound_of_run (hmode : r.mode = .strict) {log : List LogEntry}
    (hrun : (r.run s).result st = .ok log) :
    ∀ template ∈ s.steps, s.bindings.unbound template = [] := by
  rw [run, runAt_succ, permit_of_run hrun, ofExcept_ok_bind] at hrun
  obtain ⟨filled, hfilled, -⟩ := marks_of_runSteps s 0 s.steps 0 st log hrun
  rw [hmode] at hfilled
  have hbound := hfilled.imp fun template _ h =>
    (⟨unbound_of_render h, trivial⟩ : s.bindings.unbound template = [] ∧ True)
  exact ((List.forall₂_and_left _ _).mp hbound).1

/-! ### The first branch in strict mode -/

/-- A step that tries a sequence which succeeds on its own, in strict mode. -/
theorem run_trying_strict (host : Host) (limits : Limits)
    (stepsOf : String → Option (List Json)) (s : Sequence) (fallbackSteps : List Json)
    (page : Page) {log : List LogEntry}
    (hrun : ((onPage host limits .strict stepsOf).run s).result page = .ok log)
    (hroom : ∀ reached, (onPage host limits .strict stepsOf).Reaches 0 s page reached →
      reached < limits.maxNesting)
    (hkeeps : ∀ template ∈ s.steps, s.bindings.Keeps host.wording .strict template) :
    let run := (onPage host limits .strict stepsOf).run
    let page' := (run s).after page
    let unset := s.bindings.unbound (.array fallbackSteps)
    if unset = [] then
      (run (s.trying fallbackSteps)).result page =
          .ok [⟨0, "trySteps", page.clock, .started⟩, ⟨0, "trySteps", page'.clock, .done⟩] ∧
        (run (s.trying fallbackSteps)).after page = page'
    else
      (run (s.trying fallbackSteps)).result page =
          .error (.configInvalid (unset.map .unsetVariable)) ∧
        (run (s.trying fallbackSteps)).after page = page := by
  intro run page' unset
  obtain ⟨hsteps, hlength, _⟩ := permit_eq_ok_iff.mp (permit_of_run hrun)
  have hmaxSteps : 1 ≤ limits.maxSteps := le_trans (List.length_pos_iff.mpr hsteps) hlength
  have hunbound : s.bindings.unbound (Step.tryTemplate s.steps fallbackSteps) = unset :=
    unbound_tryTemplate (bound_of_run rfl hrun) fallbackSteps
  have hrender := s.bindings.render_strict (Step.tryTemplate s.steps fallbackSteps)
  rw [hunbound] at hrender
  split
  next hset =>
    rw [if_pos hset] at hrender
    have hcourse := firstBranch_sameCourse (r := onPage host limits .strict stepsOf)
      (fun _ _ _ _ => rfl) hroom hkeeps
    have halone : (discard (run s) : Act Page PUnit).result page = .ok ⟨⟩ := by
      rw [result_discard, hrun]
      rfl
    refine run_trying_of_rendered hmaxSteps hrender ?_ (hcourse.after.trans (after_discard _))
    rcases hcourse.ok_or_error with ⟨_, hresult, _⟩ | ⟨_, e, _, hfails⟩
    · exact hresult
    · exact absurd (halone.symm.trans hfails) (by nofun)
  -- Strict rendering fails for the whole template before either branch is tried.
  next hunset =>
    rw [if_neg hunset] at hrender
    have hbindings : (s.trying fallbackSteps).bindings = s.bindings := rfl
    have hmode : (onPage host limits .strict stepsOf).mode = .strict := rfl
    show ((onPage host limits .strict stepsOf).run (s.trying fallbackSteps)).result page = _ ∧
      ((onPage host limits .strict stepsOf).run (s.trying fallbackSteps)).after page = _
    rw [run_trying_eq hmaxSteps, runSteps, runStep, hbindings, hmode, hrender]
    exact ⟨rfl, rfl⟩

/-- The law at a sequence that itself tries another one, with a variable in the nested template: a
second branch that names the same variable does not count. -/
theorem run_trying_strict_nested :
    let visit (url : String) := Json.object [("type", .text "goto"), ("url", .text url)]
    let home := visit "\x7b\x7bportal\x7d\x7d/home"
    let s : Sequence := ⟨"open", [Step.tryTemplate [home] []], ⟨[("portal", "https://sri")]⟩, 300⟩
    let r := onPage .brief .strict .strict fun _ => none
    let page := Page.opened ""
    (∃ log, (r.run s).result page = .ok log) ∧
      (∀ reached, r.Reaches 0 s page reached → reached < Limits.strict.maxNesting) ∧
      (∀ template ∈ s.steps, s.bindings.Keeps .brief .strict template) ∧
      ((r.run s).after page).url = "https://sri/home" ∧
      (r.run (s.trying [visit "\x7b\x7bportal\x7d\x7d"])).after page = (r.run s).after page ∧
      (r.run (s.trying [visit "\x7b\x7bruc\x7d\x7d"])).result page =
        .error (.configInvalid [.unsetVariable "ruc"]) := by
  intro visit home s r page
  have hrun : (r.run s).result page =
      .ok [⟨0, "trySteps", 0, .started⟩, ⟨0, "trySteps", 0, .done⟩] := by
    decide +kernel
  have hfits : r.fits Limits.strict.maxNesting s := by decide +kernel
  have hroom : ∀ reached, r.Reaches 0 s page reached → reached < Limits.strict.maxNesting := by
    intro reached hreaches
    have hlevels := reaches_of_fits hreaches _ hfits
    rwa [Nat.zero_add] at hlevels
  have hkeeps : ∀ template ∈ s.steps, s.bindings.Keeps .brief .strict template := by
    intro template htemplate
    rw [List.mem_singleton.mp htemplate]
    have hbraceless : s.bindings.IsBraceless := Bindings.isBraceless_of_entries (by decide)
    have hbound : s.bindings.unbound (Step.tryTemplate [home] []) = [] := by decide +kernel
    exact Bindings.keeps_of_tight hbraceless ((s.bindings.render_strict _).trans (if_pos hbound))
      (by decide +kernel)
  have hset :=
    run_trying_strict .brief .strict _ s [visit "\x7b\x7bportal\x7d\x7d"] page hrun hroom hkeeps
  have hunset :=
    run_trying_strict .brief .strict _ s [visit "\x7b\x7bruc\x7d\x7d"] page hrun hroom hkeeps
  have hportal : s.bindings.unbound (.array [visit "\x7b\x7bportal\x7d\x7d"]) = [] := by
    decide +kernel
  have hruc : s.bindings.unbound (.array [visit "\x7b\x7bruc\x7d\x7d"]) = ["ruc"] := by
    decide +kernel
  rw [hportal] at hset
  rw [hruc] at hunset
  exact ⟨⟨_, hrun⟩, hroom, hkeeps, by decide +kernel, hset.2, hunset.1⟩

/-- The second branch counts although the first one works: where it names a variable that has no
text, and where the text of a variable, though free of braces, gets into braces of the template and
so becomes a placeholder of its own. -/
theorem strict_trying_fails :
    let visit (url : String) := Json.object [("type", .text "goto"), ("url", .text url)]
    let r := onPage .brief .strict .strict fun _ => none
    let page := Page.opened ""
    let b : Bindings := ⟨[("a", "b")]⟩
    let plain : Sequence := ⟨"open", [visit "x"], b, 300⟩
    let braces : Sequence := ⟨"open", [visit "\x7b\x7b\x7b\x7ba\x7d\x7d\x7d\x7d"], b, 300⟩
    r.fits Limits.strict.maxNesting plain ∧ r.fits Limits.strict.maxNesting braces ∧
      ((r.run plain).result page).isOk ∧
      ((r.run (plain.trying [visit "y"])).result page).isOk ∧
      ((r.run (plain.trying [visit "\x7b\x7bz\x7d\x7d"])).result page).isOk = false ∧
      ((r.run braces).result page).isOk ∧
      ((r.run braces).after page).events = [.goto "\x7b\x7bb\x7d\x7d"] ∧
      ((r.run (braces.trying [visit "y"])).after page).events = [.goto "y"] := by
  decide +kernel

end Runner

end FlowPilot
