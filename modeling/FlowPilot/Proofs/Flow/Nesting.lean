import FlowPilot.Proofs.Flow.Validation

/-!
# Nesting in the check and in a run

The check of a sequence counts the levels of its templates, a run counts those of the sequences that
these templates turn into. Filling a template in leaves its form: a list stays a list of the same
length, and the name of a kind stays the same. So a sequence that is checked and calls no other flow
keeps the limits at every level of every run.

## Main definitions

* `FlowFile.Admits`: sequences that may run with so many levels left.
* `Runner.RunsAt`: the sequences that a runner runs inside a sequence, with their depths.
* `Fault.blamesForm`: failures that say that a sequence breaks a limit, is empty or holds a template
  of no known kind.

## Main statements

* `FlowFile.admits_of_levelIssues`: what the check says about every level.
* `FlowFile.Admits.fill`: filling templates in changes nothing about it.
* `FlowFile.run_spares_form`: a run of a checked sequence keeps the limits at every level.
-/

namespace FlowPilot

open Act

/-! ### Kinds of filled templates -/

theorem Step.Kind.name_of_ofName? {s : String} {kind : Kind} (h : ofName? s = some kind) :
    kind.name = s := by
  simpa using List.find?_some h

/-- The names of kinds hold no placeholders. -/
theorem Step.Kind.fill_name (b : Bindings) (kind : Kind) : b.fill kind.name = kind.name := by
  refine b.fill_of_keys_eq_nil ?_
  cases kind <;> decide +kernel

/-- A template of a known kind is of the same kind once it is filled in. -/
theorem Step.kind?_fillJson (b : Bindings) {template : Json} {kind : Kind}
    (h : kind? template = some kind) : kind? (b.fillJson template) = some kind := by
  obtain ⟨text, htext, hkind⟩ := Option.bind_eq_some_iff.mp h
  have hname := Kind.name_of_ofName? hkind
  obtain ⟨hgiven, hsays⟩ := Option.filter_eq_some_iff.mp htext
  obtain ⟨value, hvalue, htype⟩ := Option.bind_eq_some_iff.mp hgiven
  cases value with
  | text s =>
    obtain rfl := Option.some.inj htype
    have hfilled : (b.fillJson template).get? "type" = some (.text s) := by
      rw [Bindings.get?_fillJson, hvalue, Option.map_some, Bindings.fillJson, ← hname,
        Kind.fill_name]
    have htext' : kindText? (b.fillJson template) = some s := by
      rw [kindText?, hfilled]
      exact Option.filter_eq_some_iff.mpr ⟨rfl, hsays⟩
    rw [kind?, htext']
    exact hkind
  | _ => cases htype

namespace FlowFile

variable {file : FlowFile} {limits : Limits} {steps : List Json}

/-! ### Levels -/

/-- Sequences that may run with so many levels left: they are not empty and keep the limit on steps,
each of their templates is of a known kind and calls no flow, and a template that tries sequences
gives both, and those that are lists may run with one level less. -/
def Admits (limits : Limits) : (levels : Nat) → List Json → Prop
  | 0, _ => False
  | levels + 1, steps =>
    steps ≠ [] ∧ steps.length ≤ limits.maxSteps ∧ ∀ template ∈ steps,
      ∃ kind, Step.kind? template = some kind ∧ kind ≠ .runAction ∧
        (kind = .trySteps → ∀ key ∈ ["steps", "fallbackSteps"], (template.get? key).isSome ∧
          ∀ inner, (template.get? key).bind Json.array? = some inner → Admits limits levels inner)

/-- What a sequence inside reaches is reached from around it. -/
theorem Reaches.around {inner last : List Json} {template : Json} (hmem : template ∈ steps)
    (hinner : Tries template inner) (h : file.Reaches inner last) : file.Reaches steps last := by
  induction h with
  | start => exact Reaches.start.tries hmem hinner
  | tries _ hmem hinner ih => exact ih.tries hmem hinner
  | calls _ hmem hcalls ih => exact ih.calls hmem hcalls

/-- A checked sequence from which no template that calls a flow is reached may run with the levels
that are left. -/
theorem admits_of_levelIssues (levels : Nat) :
    ∀ depth flow (steps : List Json), levels + depth = limits.maxNesting + 1 → steps ≠ [] →
      file.levelIssues limits levels depth flow steps = [] →
      (∀ inner, file.Reaches steps inner → ∀ template ∈ inner,
        Step.kind? template ≠ some .runAction) →
      Admits limits levels steps := by
  induction levels with
  | zero =>
    -- without levels the depth is beyond the limit, and the check says so
    intro depth flow steps hlevels _ hissues _
    have hviolations := List.map_eq_nil_iff.mp hissues
    have := ((Limits.violations_eq_nil_iff _ _ _ _).mp hviolations).2
    omega
  | succ levels ih =>
    intro depth flow steps hlevels hne hissues hcalls
    obtain ⟨hlimits, htemplates⟩ := List.append_eq_nil_iff.mp hissues
    have hviolations := List.map_eq_nil_iff.mp hlimits
    refine ⟨hne, ((Limits.violations_eq_nil_iff _ _ _ _).mp hviolations).1, ?_⟩
    intro template hmem
    obtain ⟨index, hindex⟩ := List.getElem?_of_mem hmem
    have htemplate := List.flatMap_eq_nil_iff.mp htemplates (template, index)
      (List.mk_mem_zipIdx_iff_getElem?.mpr hindex)
    obtain ⟨kind, hkind, hlacking, hnested⟩ := exists_kind_of_templateIssues htemplate
    refine ⟨kind, hkind, ?_, ?_⟩
    · rintro rfl
      exact hcalls steps .start template hmem hkind
    · rintro rfl key hkey
      have hpresent : template.isPresent key = true := by
        have hnone := (List.append_eq_nil_iff.mp hlacking).1
        have hgroup : [key] ∈ Step.Kind.required .trySteps := by
          simp only [List.mem_cons, List.not_mem_nil, or_false] at hkey
          rcases hkey with rfl | rfl <;> decide
        simpa using List.filter_eq_nil_iff.mp hnone [key] hgroup
      refine ⟨Json.isSome_of_isPresent hpresent, fun inner hinner => ?_⟩
      have hinside := hnested rfl (stepPlace flow index ++ "." ++ key, inner)
        (List.mem_filterMap.mpr ⟨key, hkey, by rw [hinner]; rfl⟩)
      refine ih (depth + 1) _ inner (by omega) (Json.ne_nil_of_isPresent hpresent hinner) hinside ?_
      exact fun last hlast => hcalls last (hlast.around hmem ⟨hkind, key, hkey, hinner⟩)

/-- Filling templates in changes nothing about the levels that they need. -/
theorem Admits.fill (b : Bindings) {levels : Nat} (h : Admits limits levels steps) :
    Admits limits levels (b.fillItems steps) := by
  induction levels generalizing steps with
  | zero => exact h
  | succ levels ih =>
    obtain ⟨hne, hlength, htemplates⟩ := h
    rw [Bindings.fillItems_eq_map]
    refine ⟨by simpa using hne, by simpa using hlength, fun filled hfilled => ?_⟩
    obtain ⟨template, hmem, rfl⟩ := List.mem_map.mp hfilled
    obtain ⟨kind, hkind, hcalls, htries⟩ := htemplates template hmem
    refine ⟨kind, Step.kind?_fillJson b hkind, hcalls, fun htry key hkey => ?_⟩
    obtain ⟨hgiven, hinner⟩ := htries htry key hkey
    obtain ⟨value, hvalue⟩ := Option.isSome_iff_exists.mp hgiven
    rw [Bindings.get?_fillJson, hvalue, Option.map_some]
    refine ⟨rfl, fun inner hlist => ?_⟩
    rw [Option.bind_some, Bindings.array?_fillJson, Option.map_eq_some_iff] at hlist
    obtain ⟨items, hitems, rfl⟩ := hlist
    exact ih (hinner items (by rw [hvalue]; exact hitems))

end FlowFile

/-! ### Failures that blame the form -/

/-- Whether a failure says that a sequence breaks a limit or is empty, or that a template is of no
known kind or names none, itself or in one of the failures that it reports. -/
def Fault.blamesForm : Fault → Bool
  | missingField field => field == "step.type"
  | unsupportedStep _ => true
  | configInvalid issues => issues.any fun
    | .emptySequence | .limit _ => true
    | _ => false
  | fallbackExhausted primary fallback => primary.blamesForm || fallback.blamesForm
  | stepFailed _ cause _ => cause.blamesForm
  | _ => false

/-- A failure that blames no form. -/
def Fault.SparesForm (e : Fault) : Prop := e.blamesForm = false

open Fault (SparesForm)

theorem Fault.IsFromPage.sparesForm {e : Fault} (h : e.IsFromPage) : e.SparesForm := by
  cases e with
  | page | notFound | noTargetClickable | assertionFailed => rfl
  | _ => exact absurd h id

/-- A step that acts on the page blames no form, whatever it lacks. -/
theorem Step.Leaf.perform_sparesForm (s : Leaf) (host : Host) (interval timeout : Nat) :
    FailsOnly SparesForm (s.perform host interval timeout) := by
  refine (s.perform_checksFirst host interval timeout).failsOnly (fun e hcheck => ?_)
    fun _ => Fault.IsFromPage.sparesForm
  cases check_refuses hcheck with
  | lacks hfield _ => exact beq_eq_false_iff_ne.mpr hfield
  | @misuse issue hissue =>
    cases issue with
    | matchMode | urlPattern | noExpectation | cellIndex => rfl
    | _ => exact absurd hissue id

namespace Runner

variable {host : Host} {limits : Limits} {stepsOf : String → Option (List Json)}

/-! ### Runs -/

/-- The sequences that a runner runs inside a sequence, with their depths. -/
inductive RunsAt {σ : Type} (r : Runner σ) (s : Sequence) : Nat → Sequence → Prop
  | self : RunsAt r s 0 s
  | inner {depth : Nat} {t u : Sequence} {template : Json} (h : RunsAt r s depth t)
      (hmem : template ∈ t.steps) (hinner : u ∈ r.calleesOf t template) : RunsAt r s (depth + 1) u

open FlowFile (Admits)

/-- A sequence that may run with the levels that are left is permitted. -/
theorem permit_of_admits {σ : Type} {r : Runner σ} {s : Sequence} {levels depth : Nat}
    (hlevels : levels + depth = r.limits.maxNesting + 1) (h : Admits r.limits levels s.steps) :
    r.permit s depth = .ok () := by
  cases levels with
  | zero => exact absurd h id
  | succ levels => exact permit_eq_ok_iff.mpr ⟨h.1, h.2.1, by omega⟩

/-- A template of a sequence that may run gives a step that acts on the page, or one that tries two
sequences that may run with one level less, or has a field of a wrong form. -/
theorem step_cases_of_admits (w : Wording) {levels : Nat} {s : Sequence} {template : Json}
    (h : Admits limits (levels + 1) s.steps) (hmem : template ∈ s.steps) :
    (∃ leaf, Step.ofJson w (s.bindings.fillJson template) = .ok (.leaf leaf)) ∨
      (∃ step, Step.ofJson w (s.bindings.fillJson template) = .ok (.trySteps step) ∧
        Admits limits levels step.steps ∧ Admits limits levels step.fallbackSteps) ∨
      ∃ text detail, Step.ofJson w (s.bindings.fillJson template) =
        .error (.config (.malformedStep text detail)) := by
  have hfilled : s.bindings.fillJson template ∈ s.bindings.fillItems s.steps := by
    rw [Bindings.fillItems_eq_map]
    exact List.mem_map_of_mem hmem
  obtain ⟨kind, hkind, hcalls, htries⟩ := (h.fill s.bindings).2.2 _ hfilled
  rcases Step.ofJson_of_kind? _ hkind with ⟨step, hread, hfields⟩ | hmalformed
  · obtain rfl := Step.kind_of_ofFields hfields
    cases step with
    | leaf leaf => exact .inl ⟨leaf, hread⟩
    | trySteps step =>
      have hfirst := htries rfl "steps" (by simp)
      have hsecond := htries rfl "fallbackSteps" (by simp)
      obtain ⟨hsteps, hfallback⟩ := Step.TrySteps.branches hfirst.1 hsecond.1 hfields
      exact .inr (.inl ⟨step, hread, hfirst.2 _ hsteps, hsecond.2 _ hfallback⟩)
    | runAction step => exact absurd rfl hcalls
  · exact .inr (.inr hmalformed)

/-- What runs inside a sequence that may run may run where it stands. -/
theorem RunsAt.admits {s t : Sequence} {depth : Nat}
    (hs : Admits limits (limits.maxNesting + 1) s.steps)
    (h : (onPage host limits .lenient stepsOf).RunsAt s depth t) :
    ∃ levels, levels + depth = limits.maxNesting + 1 ∧ Admits limits levels t.steps := by
  induction h with
  | self => exact ⟨limits.maxNesting + 1, rfl, hs⟩
  | @inner depth t u template _ hmem hinner ih =>
    obtain ⟨levels, hlevels, hadmits⟩ := ih
    cases levels with
    -- Where no level is left nothing is admitted, so nothing runs inside.
    | zero => exact absurd hadmits id
    | succ levels =>
      refine ⟨levels, by omega, ?_⟩
      unfold calleesOf at hinner
      rcases step_cases_of_admits _ hadmits hmem with
        ⟨leaf, hread⟩ | ⟨step, hread, hfirst, hsecond⟩ | ⟨text, detail, hread⟩
      · rw [hread] at hinner
        exact absurd hinner List.not_mem_nil
      · rw [hread] at hinner
        simp only [callees, List.mem_cons, List.not_mem_nil, or_false] at hinner
        rcases hinner with rfl | rfl
        · exact hfirst
        · exact hsecond
      · rw [hread] at hinner
        exact absurd hinner List.not_mem_nil

theorem runStep_sparesForm {levels : Nat} {nested : Sequence → Act Page Unit}
    (hnested : ∀ s : Sequence, Admits limits levels s.steps → FailsOnly SparesForm (nested s))
    {s : Sequence} (h : Admits limits (levels + 1) s.steps) {template : Json}
    (hmem : template ∈ s.steps) (depth index : Nat) :
    FailsOnly SparesForm
      ((onPage host limits .lenient stepsOf).runStep nested s depth index template) := by
  have hrender : s.bindings.render .lenient template = .ok (s.bindings.fillJson template) :=
    s.bindings.render_lenient template
  rcases step_cases_of_admits host.wording h hmem with
    ⟨leaf, hread⟩ | ⟨step, hread, hfirst, hsecond⟩ | ⟨text, detail, hread⟩
  · exact runStep_failsOnly hrender hread (leaf.perform_sparesForm _ _ _)
  · refine runStep_failsOnly hrender hread ?_
    refine performTry_failsOnly (fun _ => hnested _ hfirst) (fun _ => hnested _ hsecond) ?_
    exact fun primary fallback hprimary hfallback =>
      Bool.or_eq_false_iff.mpr ⟨hprimary, hfallback⟩
  · exact runStep_failsOnly_of_unread hrender hread rfl

/-- A run with as many levels as a sequence needs blames no form. -/
theorem runAt_sparesForm (levels : Nat) :
    ∀ depth (s : Sequence), levels + depth = limits.maxNesting + 1 →
      Admits limits levels s.steps →
        FailsOnly SparesForm ((onPage host limits .lenient stepsOf).runAt levels depth s) := by
  induction levels with
  | zero => exact fun _ _ _ h => absurd h id
  | succ levels ih =>
    intro depth s hlevels h
    have hpermit : (onPage host limits .lenient stepsOf).permit s depth = .ok () :=
      permit_of_admits hlevels h
    have hnested : ∀ inner : Sequence, Admits limits levels inner.steps → FailsOnly SparesForm
        (discard ((onPage host limits .lenient stepsOf).runAt levels (depth + 1) inner) :
          Act Page Unit) :=
      fun inner hinner => (ih (depth + 1) inner (by omega) hinner).discard
    rw [runAt_succ, hpermit, ofExcept_ok_bind]
    refine runSteps_failsOnly (fun template hmem index => ?_) 0
    exact runStep_sparesForm hnested h hmem depth index

end Runner

/-- Where the check finds nothing in a sequence, and no template that calls another flow is reached
from it, a run under the same limits keeps them at every level. Each sequence that runs, at the top
or in a branch, is permitted at its depth, and its run never fails because a sequence is too long,
too deep or empty, or because a template is of no known kind or names none. -/
theorem FlowFile.run_spares_form (host : Host) (file : FlowFile) (limits : Limits) (flow : String)
    (steps : List Json) (hne : steps ≠ []) (hissues : file.stepIssues limits flow steps = [])
    (hcalls : ∀ inner, file.Reaches steps inner → ∀ template ∈ inner,
      Step.kind? template ≠ some .runAction)
    (stepsOf : String → Option (List Json)) (s : Sequence) (hs : s.steps = steps) :
    let r := Runner.onPage host limits .lenient stepsOf
    (∀ page e, (r.run s).result page = .error e → e.blamesForm = false) ∧
      ∀ depth t, r.RunsAt s depth t →
        r.permit t depth = .ok () ∧
          ∀ page e, (r.runFrom depth t).result page = .error e → e.blamesForm = false := by
  intro r
  have hadmits : Admits limits (limits.maxNesting + 1) s.steps := by
    rw [hs]
    exact admits_of_levelIssues _ 0 flow steps rfl hne hissues hcalls
  refine ⟨Runner.runAt_sparesForm _ 0 s rfl hadmits, fun depth t hruns => ?_⟩
  obtain ⟨levels, hlevels, ht⟩ := hruns.admits hadmits
  refine ⟨Runner.permit_of_admits hlevels ht, ?_⟩
  have hleft : r.limits.maxNesting + 1 - depth = levels := by
    show limits.maxNesting + 1 - depth = levels
    omega
  rw [Runner.runFrom, hleft]
  exact Runner.runAt_sparesForm levels depth t hlevels ht

/-- A sequence that tries a sequence that tries another one, as deep as the limit lets it. The
innermost step lacks the address that was to be filled in, and its run is permitted all the same. -/
theorem FlowFile.run_spares_nested_form :
    let goto := Json.object [("type", .text "goto"), ("url", .text "\x7b\x7burl\x7d\x7d")]
    let press := Json.object [("selector", .text "#b"), ("type", .text "click")]
    let inside := Step.tryTemplate [goto] [press]
    let s : Sequence := ⟨"open", [Step.tryTemplate [inside] [press]], .empty, 300⟩
    let r := Runner.onPage .brief .strict .lenient fun _ => none
    let absent := Fault.page "click" (.noElement (Step.targetOf "#b"))
    (r.run s).result (Page.opened "") = .error (.fallbackExhausted
        (.fallbackExhausted (.missingField "step.url") absent) absent) ∧
      (∀ e, (r.run s).result (Page.opened "") = .error e → e.blamesForm = false) ∧
      ∃ t, r.RunsAt s 2 t ∧ t.name = "open.trySteps.trySteps" ∧ r.permit t 2 = .ok () := by
  intro goto press inside s r absent
  let file : FlowFile := ⟨[]⟩
  have hissues : file.stepIssues .strict "open" s.steps = [] := by decide +kernel
  -- The sequences that are reached, listed, as none of them runs another flow.
  let Known (steps : List Json) : Prop :=
    steps = s.steps ∨ steps = [inside] ∨ steps = [goto] ∨ steps = [press]
  have hkinds : ∀ steps, Known steps → ∀ template ∈ steps,
      Step.kind? template ≠ some .runAction := by
    rintro steps (rfl | rfl | rfl | rfl) template hmem <;>
      obtain rfl := List.mem_singleton.mp hmem <;> decide +kernel
  have htries : ∀ steps, Known steps → ∀ template ∈ steps, ∀ inner,
      FlowFile.Tries template inner → Known inner := by
    rintro steps (rfl | rfl | rfl | rfl) template hmem inner htries <;>
      obtain rfl := List.mem_singleton.mp hmem
    · rcases FlowFile.eq_or_eq_of_tries_tryTemplate htries with rfl | rfl
      · exact .inr (.inl rfl)
      · exact .inr (.inr (.inr rfl))
    · rcases FlowFile.eq_or_eq_of_tries_tryTemplate htries with rfl | rfl
      · exact .inr (.inr (.inl rfl))
      · exact .inr (.inr (.inr rfl))
    all_goals exact absurd htries.1 (by decide +kernel)
  have hknown : ∀ steps, file.Reaches s.steps steps → Known steps := by
    intro steps h
    induction h with
    | start => exact .inl rfl
    | tries _ hmem hinner ih => exact htries _ ih _ hmem _ hinner
    | calls _ hmem hinner ih => exact absurd hinner.1 (hkinds _ ih _ hmem)
  have hspares := FlowFile.run_spares_form .brief file .strict "open" s.steps (by simp [s]) hissues
    (fun inner hinner => hkinds inner (hknown inner hinner)) (fun _ => none) s rfl
  -- The way down to the innermost sequence goes through the first branch twice.
  have hbranch : ∀ (u : Sequence) (first second : List Json), u.bindings = .empty →
      ⟨u.name ++ ".trySteps", Bindings.empty.fillItems first, .empty, u.timeout⟩ ∈
        r.calleesOf u (Step.tryTemplate first second) := by
    intro u first second hbindings
    rw [Runner.calleesOf, hbindings, Step.fillJson_tryTemplate, Step.ofJson_tryTemplate]
    simp [Runner.callees, hbindings, Limits.timeoutOr, Step.timeout]
  have hfirst := Runner.RunsAt.self.inner List.mem_cons_self (hbranch s [inside] [press] rfl)
  have hsecond := hfirst.inner List.mem_cons_self (hbranch _ [goto] [press] rfl)
  refine ⟨by decide +kernel, hspares.1 _, _, hsecond, by decide +kernel, ?_⟩
  exact (hspares.2 2 _ hsecond).1

end FlowPilot
