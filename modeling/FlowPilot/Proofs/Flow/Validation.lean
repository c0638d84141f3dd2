import FlowPilot.Proofs.Action.Complete
import FlowPilot.Proofs.Flow.Trying

/-!
# Flows that pass the check

The check of a flow looks into the sequences that its steps try, as deep as the limit on nesting
lets them run, but not into the flows that they call. So what a run may meet is known as soon as
every called flow is checked as well: each of its templates has all that its kind demands, and no
step fails for want of a field.

Templates without placeholders are meant, which are checked as they are performed.

## Main definitions

* `FlowFile.Reaches`: the sequences that may run when a sequence runs.
* `FlowFile.Checked`: a sequence in which the check finds nothing.
* `Runner.Runs`: the sequences that a runner runs inside a sequence.

## Main statements

* `FlowFile.run_spares_templates`: a run of a checked flow never blames a template.
-/

namespace FlowPilot

open Act
open Fault (SparesTemplate)

namespace FlowFile

variable {file : FlowFile} {limits : Limits} {start steps inner : List Json} {template : Json}

/-! ### Sequences that are reached -/

/-- A sequence that a template tries. -/
def Tries (template : Json) (inner : List Json) : Prop :=
  Step.kind? template = some .trySteps ∧
    ∃ key ∈ ["steps", "fallbackSteps"], (template.get? key).bind Json.array? = some inner

/-- A template that tries two sequences tries these and no others. -/
theorem eq_or_eq_of_tries_tryTemplate {first second : List Json}
    (h : Tries (Step.tryTemplate first second) inner) : inner = first ∨ inner = second := by
  obtain ⟨-, key, hkey, hinner⟩ := h
  simp only [List.mem_cons, List.not_mem_nil, or_false] at hkey
  rcases hkey with rfl | rfl
  · exact .inl (Option.some.inj hinner).symm
  · exact .inr (Option.some.inj hinner).symm

/-- A flow that a template calls, with its steps. -/
def Calls (file : FlowFile) (template : Json) (name : String) (inner : List Json) : Prop :=
  Step.kind? template = some .runAction ∧ calledFlow template = some name ∧
    file.steps? name = some inner

/-- The sequences that may run when a sequence runs: itself, what its templates try, and the flows
that they call. -/
inductive Reaches (file : FlowFile) (start : List Json) : List Json → Prop
  | start : Reaches file start start
  | tries {steps inner : List Json} {template : Json} (h : Reaches file start steps)
      (hmem : template ∈ steps) (hinner : Tries template inner) : Reaches file start inner
  | calls {steps inner : List Json} {template : Json} {name : String}
      (h : Reaches file start steps) (hmem : template ∈ steps)
      (hinner : file.Calls template name inner) : Reaches file start inner

/-! ### Sequences that are checked -/

/-- A sequence in which the check finds nothing, with as many levels as the limit leaves. -/
def Checked (file : FlowFile) (limits : Limits) (steps : List Json) : Prop :=
  ∃ flow levels depth, levels + depth = limits.maxNesting + 1 ∧
    file.levelIssues limits levels depth flow steps = []

/-- A template without issues is of a known kind and lacks nothing, and what it tries has no issues
either. -/
theorem exists_kind_of_templateIssues {nested : String → List Json → List StepIssue}
    {flow : String} {index : Nat} (h : file.templateIssues nested flow index template = []) :
    ∃ kind, Step.kind? template = some kind ∧ lackingFields kind template = [] ∧
      (kind = .trySteps → ∀ entry ∈ nestedIn flow index template,
        nested entry.1 entry.2 = []) := by
  unfold templateIssues at h
  cases htext : Step.kindText? template with
  | none =>
    rw [htext] at h
    cases h
  | some text =>
    rw [htext] at h
    dsimp only at h
    cases hkind : Step.Kind.ofName? text with
    | none =>
      rw [hkind] at h
      cases h
    | some kind =>
      rw [hkind] at h
      obtain ⟨hlacking, hnested⟩ := List.append_eq_nil_iff.mp h
      refine ⟨kind, by rw [Step.kind?, htext]; exact hkind, List.map_eq_nil_iff.mp hlacking, ?_⟩
      rintro rfl
      exact List.flatMap_eq_nil_iff.mp hnested

/-- There is a level left below a checked sequence, and its templates have no issues. -/
theorem Checked.templateIssues (h : file.Checked limits steps) :
    ∃ flow levels depth, levels + (depth + 1) = limits.maxNesting + 1 ∧ ∀ template ∈ steps,
      ∃ index, file.templateIssues (file.levelIssues limits levels (depth + 1)) flow index
        template = [] := by
  obtain ⟨flow, levels, depth, hlevels, hissues⟩ := h
  cases levels with
  | zero =>
    have hviolations := List.map_eq_nil_iff.mp hissues
    have := ((Limits.violations_eq_nil_iff _ _ _ _).mp hviolations).2
    omega
  | succ levels =>
    refine ⟨flow, levels, depth, by omega, fun template hmem => ?_⟩
    obtain ⟨index, hindex⟩ := List.getElem?_of_mem hmem
    have htemplates := List.flatMap_eq_nil_iff.mp (List.append_eq_nil_iff.mp hissues).2
    exact ⟨index, htemplates (template, index) (List.mk_mem_zipIdx_iff_getElem?.mpr hindex)⟩

theorem Checked.exists_kind (h : file.Checked limits steps) (hmem : template ∈ steps) :
    ∃ kind, Step.kind? template = some kind ∧ lackingFields kind template = [] := by
  obtain ⟨_, _, _, -, htemplates⟩ := h.templateIssues
  obtain ⟨_, hissues⟩ := htemplates template hmem
  obtain ⟨kind, hkind, hlacking, -⟩ := exists_kind_of_templateIssues hissues
  exact ⟨kind, hkind, hlacking⟩

/-- What a template of a checked sequence tries is checked. -/
theorem Checked.tries (h : file.Checked limits steps) (hmem : template ∈ steps)
    (hinner : Tries template inner) : file.Checked limits inner := by
  obtain ⟨flow, levels, depth, hlevels, htemplates⟩ := h.templateIssues
  obtain ⟨index, hissues⟩ := htemplates template hmem
  obtain ⟨kind, hkind, -, hnested⟩ := exists_kind_of_templateIssues hissues
  obtain ⟨htries, key, hkey, hsteps⟩ := hinner
  obtain rfl : kind = .trySteps := Option.some.inj (hkind.symm.trans htries)
  refine ⟨_, levels, depth + 1, hlevels,
    hnested rfl (stepPlace flow index ++ "." ++ key, inner) ?_⟩
  exact List.mem_filterMap.mpr ⟨key, hkey, by rw [hsteps]; rfl⟩

theorem checked_of_stepIssues {flow : String} (h : file.stepIssues limits flow steps = []) :
    file.Checked limits steps :=
  ⟨flow, limits.maxNesting + 1, 0, rfl, h⟩

theorem checked_of_demandFlow {action : String} (h : file.demandFlow limits action = .ok ()) :
    file.Checked limits (file.stepsFor action) := by
  unfold demandFlow at h
  split at h
  · rename_i hissues
    exact checked_of_stepIssues (List.map_eq_nil_iff.mp (List.append_eq_nil_iff.mp hissues).2)
  · cases h

/-- If the flows that are called are checked, so is every sequence that is reached. -/
theorem Reaches.checked (hstart : file.Checked limits start)
    (hcalled : ∀ steps, file.Reaches start steps → ∀ template ∈ steps, ∀ name inner,
      file.Calls template name inner → file.stepIssues limits name inner = [])
    (h : file.Reaches start steps) : file.Checked limits steps := by
  induction h with
  | start => exact hstart
  | tries _ hmem hinner ih => exact ih.tries hmem hinner
  | calls h hmem hinner _ => exact checked_of_stepIssues (hcalled _ h _ hmem _ _ hinner)

/-! ### Steps of checked sequences -/

/-- A step that has what it needs, and that runs sequences only that are reached. -/
def Suits (file : FlowFile) (start : List Json) : Step → Prop
  | .leaf s => s.IsComplete
  | .trySteps s => file.Reaches start s.steps ∧ file.Reaches start s.fallbackSteps
  | .runAction s =>
    ∃ name, s.target = some name ∧ ∀ inner, file.steps? name = some inner →
      file.Reaches start inner

/-- A template of a sequence that is reached gives a step that suits, if any. -/
theorem Reaches.suits (h : file.Reaches start steps) (hmem : template ∈ steps) {kind : Step.Kind}
    (hpasses : Step.Passes kind template) {step : Step}
    (hread : Step.ofFields kind template.fields = .ok step) :
    file.Suits start step := by
  obtain rfl := Step.kind_of_ofFields hread
  cases step with
  | leaf s => exact Step.Leaf.isComplete_of_ofFields hpasses hread
  | trySteps s =>
    have hgiven : ∀ key, [key] ∈ Step.Kind.required .trySteps → (template.get? key).isSome :=
      fun key hkey => Json.isSome_of_isPresent (hpasses.present hkey)
    obtain ⟨hsteps, hfallback⟩ := Step.TrySteps.branches (hgiven "steps" (by decide))
      (hgiven "fallbackSteps" (by decide)) hread
    exact ⟨h.tries hmem ⟨hpasses.kind_eq, _, by simp, hsteps⟩,
      h.tries hmem ⟨hpasses.kind_eq, _, by simp, hfallback⟩⟩
  | runAction s =>
    obtain ⟨name, htarget, hcalled⟩ := Step.RunAction.exists_target hpasses hread
    exact ⟨name, htarget, fun inner hinner => h.calls hmem ⟨hpasses.kind_eq, hcalled, hinner⟩⟩

end FlowFile

namespace Runner

variable {host : Host} {file : FlowFile} {start : List Json} {limits : Limits}
  {mode : RenderMode}

/-- The sequences that a runner runs when it runs a sequence. -/
inductive Runs {σ : Type} (r : Runner σ) (s : Sequence) : Sequence → Prop
  | self : Runs r s s
  | inner {t u : Sequence} {template : Json} (h : Runs r s t) (hmem : template ∈ t.steps)
      (hinner : u ∈ r.calleesOf t template) : Runs r s u

theorem permit_spares {σ : Type} (r : Runner σ) (s : Sequence) (depth : Nat) :
    FailsOnly SparesTemplate (Act.ofExcept (r.permit s depth) : Act σ Unit) := by
  refine .ofExcept fun e he => ?_
  unfold permit at he
  split at he
  · cases he
    rfl
  split at he
  · cases he
  · cases he
    rfl

/-! ### Runs of checked sequences -/

section Checked

variable {nested : Sequence → Act Page Unit}
  (hnested : ∀ s : Sequence, file.Reaches start s.steps → FailsOnly SparesTemplate (nested s))

include hnested

/-- A step that suits blames no template, if the sequences that it runs blame none. -/
theorem performStep_spares {step : Step} (hstep : file.Suits start step) (s : Sequence)
    (depth : Nat) :
    FailsOnly SparesTemplate
      ((onPage host limits mode file.steps?).performStep nested s depth step) := by
  cases step with
  | leaf s => exact Step.Leaf.perform_spares hstep _ _ _
  | trySteps step =>
    refine performTry_failsOnly (fun _ => hnested _ hstep.1) (fun _ => hnested _ hstep.2) ?_
    exact fun primary fallback hprimary hfallback =>
      Bool.or_eq_false_iff.mpr ⟨hprimary, hfallback⟩
  | runAction step =>
    obtain ⟨name, htarget, hreached⟩ := hstep
    show FailsOnly _ (performAction _ nested s step _)
    unfold performAction
    rw [htarget]
    dsimp only [onPage]
    cases hsteps : file.steps? name with
    | none => exact .throw rfl
    | some inner => exact hnested _ (hreached inner hsteps)

theorem runStep_spares {steps : List Json} {template : Json} (hreached : file.Reaches start steps)
    (hmem : template ∈ steps) {kind : Step.Kind} (hpasses : Step.Passes kind template)
    (hkeys : Template.keysIn template = []) (s : Sequence) (depth index : Nat) :
    FailsOnly SparesTemplate
      ((onPage host limits mode file.steps?).runStep nested s depth index template) := by
  have hrender : s.bindings.render mode template = .ok template :=
    s.bindings.render_of_keysIn_eq_nil _ hkeys
  rcases Step.ofJson_of_kind? _ hpasses.kind_eq with ⟨step, hread, hfields⟩ | ⟨_, _, hread⟩
  · have hsuits := hreached.suits hmem hpasses hfields
    exact runStep_failsOnly hrender hread (performStep_spares hnested hsuits s depth)
  · exact runStep_failsOnly_of_unread hrender hread rfl

end Checked

/-- A flow of which every sequence that is reached is checked, without placeholders and not checked
in name only. -/
structure Covered (file : FlowFile) (limits : Limits) (start : List Json) : Prop where
  checked : ∀ steps, file.Reaches start steps → file.Checked limits steps
  plain : ∀ steps, file.Reaches start steps → ∀ template ∈ steps, Template.keysIn template = []
  solid : ∀ steps, file.Reaches start steps → ∀ template ∈ steps, Step.isHollow template = false

theorem Covered.passes (h : Covered file limits start) {steps : List Json} {template : Json}
    (hreached : file.Reaches start steps) (hmem : template ∈ steps) :
    ∃ kind, Step.Passes kind template := by
  obtain ⟨kind, hkind, hlacking⟩ := (h.checked steps hreached).exists_kind hmem
  exact ⟨kind, hlacking, hkind, h.solid steps hreached template hmem⟩

theorem runSteps_spares (h : Covered file limits start) {nested : Sequence → Act Page Unit}
    (hnested : ∀ s : Sequence, file.Reaches start s.steps → FailsOnly SparesTemplate (nested s))
    {steps : List Json} (hreached : file.Reaches start steps) (s : Sequence) (depth index : Nat) :
    FailsOnly SparesTemplate
      ((onPage host limits mode file.steps?).runSteps nested s depth index steps) := by
  refine runSteps_failsOnly (fun template hmem index => ?_) index
  obtain ⟨kind, hpasses⟩ := h.passes hreached hmem
  have hkeys := h.plain steps hreached template hmem
  exact runStep_spares hnested hreached hmem hpasses hkeys s depth index

/-- A sequence of a covered flow never blames a template, at any depth. -/
theorem runAt_spares (h : Covered file limits start) (levels : Nat) :
    ∀ depth (s : Sequence), file.Reaches start s.steps →
      FailsOnly SparesTemplate ((onPage host limits mode file.steps?).runAt levels depth s) := by
  induction levels with
  | zero => exact fun depth s _ => (permit_spares _ s depth).bind fun _ => .pure _
  | succ levels ih =>
    intro depth s hreached
    rw [runAt_succ]
    refine (permit_spares _ s depth).bind fun _ => ?_
    have hnested := fun inner hinner => (ih (depth + 1) inner hinner).discard
    exact runSteps_spares h hnested hreached s depth 0

/-- What a runner runs inside a sequence is reached from its steps. -/
theorem Runs.reaches (h : Covered file limits start) {s t : Sequence} (hs : s.steps = start)
    (hruns : (onPage host limits mode file.steps?).Runs s t) : file.Reaches start t.steps := by
  induction hruns with
  | self => exact hs ▸ .start
  | @inner t u template _ hmem hinner ih =>
    obtain ⟨kind, hpasses⟩ := h.passes ih hmem
    -- A template without placeholders is run as it was checked.
    have hkeys := h.plain _ ih _ hmem
    rw [calleesOf, t.bindings.fillJson_of_keysIn_eq_nil _ hkeys] at hinner
    rcases Step.ofJson_of_kind? _ hpasses.kind_eq with ⟨step, hread, hfields⟩ | ⟨_, _, hread⟩
    · rw [hread] at hinner
      have hsuits := ih.suits hmem hpasses hfields
      cases step with
      | leaf s => exact absurd hinner List.not_mem_nil
      | trySteps step =>
        simp only [callees, List.mem_cons, List.not_mem_nil, or_false] at hinner
        rcases hinner with rfl | rfl
        · exact hsuits.1
        · exact hsuits.2
      | runAction step =>
        obtain ⟨name, htarget, hreached⟩ := hsuits
        simp only [callees, htarget, Option.bind_some, Option.mem_toList,
          Option.map_eq_some_iff] at hinner
        obtain ⟨inner, hsteps, rfl⟩ := hinner
        exact hreached inner hsteps
    · rw [hread] at hinner
      exact absurd hinner List.not_mem_nil

end Runner

/-- Where a flow passes the check, and with it every flow that it may call, no run of its steps
fails because a template lacks a field or is of no known kind: not at the top, and not in a sequence
that a step tries or calls, even if another one takes its place. Templates hold no placeholders, and
none has what its kind demands in name only. -/
theorem FlowFile.run_spares_templates (host : Host) (file : FlowFile) (limits : Limits)
    (action : String)
    (hdemand : file.demandFlow limits action = .ok ())
    (hcalled : ∀ steps, file.Reaches (file.stepsFor action) steps → ∀ template ∈ steps,
      ∀ name inner, file.Calls template name inner → file.stepIssues limits name inner = [])
    (hplain : ∀ steps, file.Reaches (file.stepsFor action) steps → ∀ template ∈ steps,
      Template.keysIn template = [])
    (hsolid : ∀ steps, file.Reaches (file.stepsFor action) steps → ∀ template ∈ steps,
      Step.isHollow template = false)
    (mode : RenderMode) (s : Sequence) (hs : s.steps = file.stepsFor action) :
    let r := Runner.onPage host limits mode file.steps?
    (∀ page e, (r.run s).result page = .error e → e.blamesTemplate = false) ∧
      ∀ t, r.Runs s t → ∀ levels depth page e,
        (r.runAt levels depth t).result page = .error e → e.blamesTemplate = false := by
  intro r
  have hcovered : Runner.Covered file limits (file.stepsFor action) :=
    ⟨fun _ => Reaches.checked (checked_of_demandFlow hdemand) hcalled, hplain, hsolid⟩
  refine ⟨?_, fun t hruns levels depth => ?_⟩
  · exact Runner.runAt_spares hcovered _ 0 s (hs ▸ .start)
  · exact Runner.runAt_spares hcovered levels depth t (hruns.reaches hcovered hs)

/-- The law at a flow that tries to call another one, which is checked as well. Both branches fail
on a page without elements, and neither failure is for want of a field. -/
theorem FlowFile.run_spares_called_flow :
    let call := Json.object [("name", .text "other"), ("type", .text "runAction")]
    let press (selector : String) :=
      Json.object [("selector", .text selector), ("type", .text "click")]
    let flow (steps : List Json) := Json.object [("steps", .array steps)]
    let file : FlowFile :=
      ⟨[("open", flow [Step.tryTemplate [call] [press "#b"]]), ("other", flow [press "#a"])]⟩
    let s : Sequence := ⟨"open", file.stepsFor "open", .empty, 300⟩
    let r := Runner.onPage .brief .strict .lenient file.steps?
    let result := (r.run s).result (Page.opened "")
    file.demandFlow .strict "open" = .ok () ∧
      result = .error (.fallbackExhausted
        (.page "click" (.noElement (Step.targetOf "#a")))
        (.page "click" (.noElement (Step.targetOf "#b")))) ∧
      ∀ e, result = .error e → e.blamesTemplate = false := by
  intro call press flow file s r result
  have hdemand : file.demandFlow .strict "open" = .ok () := by decide +kernel
  -- The sequences that are reached, listed. The list is closed under both ways of reaching another
  -- one, so the hypotheses of the law are finitely many closed facts.
  let Known (steps : List Json) : Prop := steps = file.stepsFor "open" ∨ steps = [call] ∨
    steps = [press "#a"] ∨ steps = [press "#b"]
  have htries : ∀ steps, Known steps → ∀ template ∈ steps, ∀ inner,
      FlowFile.Tries template inner → Known inner := by
    rintro steps (rfl | rfl | rfl | rfl) template hmem inner htries <;>
      obtain rfl := List.mem_singleton.mp hmem
    · rcases FlowFile.eq_or_eq_of_tries_tryTemplate htries with rfl | rfl
      · exact .inr (.inl rfl)
      · exact .inr (.inr (.inr rfl))
    all_goals exact absurd htries.1 (by decide +kernel)
  have hcalls : ∀ steps, Known steps → ∀ template ∈ steps, ∀ name inner,
      file.Calls template name inner → name = "other" ∧ inner = [press "#a"] := by
    rintro steps (rfl | rfl | rfl | rfl) template hmem name inner ⟨hkind, hname, hinner⟩ <;>
      obtain rfl := List.mem_singleton.mp hmem
    · exact absurd hkind (by decide +kernel)
    · have hother : FlowFile.calledFlow call = some "other" := by decide +kernel
      obtain rfl := Option.some.inj (hother.symm.trans hname)
      exact ⟨rfl, (Option.some.inj hinner).symm⟩
    all_goals exact absurd hkind (by decide +kernel)
  have hknown : ∀ steps, file.Reaches (file.stepsFor "open") steps → Known steps := by
    intro steps h
    induction h with
    | start => exact .inl rfl
    | tries _ hmem hinner ih => exact htries _ ih _ hmem _ hinner
    | calls _ hmem hinner ih => exact .inr (.inr (.inl (hcalls _ ih _ hmem _ _ hinner).2))
  refine ⟨hdemand, by decide +kernel, ?_⟩
  refine (FlowFile.run_spares_templates .brief file .strict "open" hdemand ?_ ?_ ?_ .lenient s
    rfl).1 _
  · intro steps hsteps template hmem name inner hinner
    obtain ⟨rfl, rfl⟩ := hcalls steps (hknown steps hsteps) template hmem name inner hinner
    decide +kernel
  all_goals
    intro steps hsteps template hmem
    rcases hknown steps hsteps with rfl | rfl | rfl | rfl <;>
      obtain rfl := List.mem_singleton.mp hmem <;> decide +kernel

/-- The check looks whether a flow that is called has steps, not at these steps. So a flow that
passes runs into a step without the address that it needs, or into one of no known kind. -/
theorem FlowFile.called_flow_unchecked :
    let flow (steps : List Json) := Json.object [("steps", .array steps)]
    let call (name : String) := Json.object [("name", .text name), ("type", .text "runAction")]
    let file : FlowFile := ⟨[("empty", flow [.object [("type", .text "goto")]]),
      ("odd", flow [.object [("type", .text "hover")]]), ("open", flow [call "empty"]),
      ("typo", flow [call "odd"])]⟩
    let run (name : String) := ((Runner.onPage .brief .strict .lenient file.steps?).run
      ⟨name, file.stepsFor name, .empty, 300⟩).result (Page.opened "")
    Template.keysIn file.toJson = [] ∧
      file.demandFlow .strict "open" = .ok () ∧ run "open" = .error (.missingField "step.url") ∧
      file.demandFlow .strict "typo" = .ok () ∧ run "typo" = .error (.unsupportedStep "hover") := by
  decide +kernel

end FlowPilot
