import FlowPilot.Proofs.Flow.Composition

/-!
# Falling back

A step that tries one sequence and falls back to another fails only if both fail, the second one on
what the first one left. Its failure then holds both failures. So nothing is lost where such steps
are nested: the message of the outermost failure contains the message of every branch that failed
and that no fallback made up for.

## Main definitions

* `Fault.Mentions`: a message that contains another one.
* `Runner.primaryOf`, `Runner.fallbackOf`: the two branches of a step.
* `Runner.Starts`, `Runner.Performs`: what runs inside a step, and in which state.
* `Runner.Lost`: the failures of branches inside a step that nothing made up for.

## Main statements

* `Runner.runFrom_of_performs`: a sequence fails as its step does.
* `Runner.exists_error_of_lost`: the failure of a step mentions all that is lost inside of it.
* `Runner.runStep_falls_back`: when a step with two branches fails, how, and what it leaves.
-/

namespace FlowPilot

namespace Fault

/-- The message of a failure contains the message of another one. -/
def Mentions (e inner : Fault) : Prop := inner.message.toList <:+: e.message.toList

theorem Mentions.refl (e : Fault) : e.Mentions e := List.infix_rfl

theorem Mentions.trans {e inner innermost : Fault} (h : e.Mentions inner)
    (h' : inner.Mentions innermost) : e.Mentions innermost :=
  List.IsInfix.trans h' h

theorem message_fallbackExhausted (primary fallback : Fault) :
    (fallbackExhausted primary fallback).message =
      "trySteps falhou: steps: " ++ primary.message ++ " | fallbackSteps: " ++ fallback.message :=
  rfl

theorem mentions_primary (primary fallback : Fault) :
    (fallbackExhausted primary fallback).Mentions primary := by
  rw [Mentions, message_fallbackExhausted]
  simp only [String.toList_append, List.append_assoc]
  exact List.infix_append' _ _ _

theorem mentions_fallback (primary fallback : Fault) :
    (fallbackExhausted primary fallback).Mentions fallback := by
  rw [Mentions, message_fallbackExhausted, String.toList_append]
  exact List.infix_append_right

end Fault

namespace Runner

variable {σ : Type}

/-! ### What runs inside a step -/

/-- The sequence that a step tries first. -/
def primaryOf (r : Runner σ) (s : Sequence) (step : Step.TrySteps) : Sequence :=
  ⟨s.name ++ ".trySteps", step.steps, s.bindings, r.limits.timeoutOr s.timeout step.timeout⟩

/-- The sequence that a step falls back to. -/
def fallbackOf (r : Runner σ) (s : Sequence) (step : Step.TrySteps) : Sequence :=
  ⟨s.name ++ ".fallbackSteps", step.fallbackSteps, s.bindings,
    r.limits.timeoutOr s.timeout step.timeout⟩

/-- The sequence of another flow that a step runs. -/
def calledBy (r : Runner σ) (s : Sequence) (step : Step.RunAction) (name : String)
    (steps : List Json) : Sequence :=
  ⟨name, steps, s.bindings.overlay step.vars, r.limits.timeoutOr s.timeout none⟩

variable [Clock σ]

/-- Runs the sequences inside the steps of a depth. -/
def nestedAt (r : Runner σ) (depth : Nat) (inner : Sequence) : Act σ Unit :=
  discard (r.runFrom (depth + 1) inner)

/-- The sequences that run while a step is performed, and the states in which they begin. -/
inductive Starts (r : Runner σ) (depth : Nat) (s : Sequence) : Step → σ → Sequence → σ → Prop
  | primary (step : Step.TrySteps) (st : σ) :
      Starts r depth s (.trySteps step) st (r.primaryOf s step) st
  | fallback {step : Step.TrySteps} {st : σ} {e : Fault}
      (hprimary : (r.runFrom (depth + 1) (r.primaryOf s step)).result st = .error e) :
      Starts r depth s (.trySteps step) st (r.fallbackOf s step)
        ((r.runFrom (depth + 1) (r.primaryOf s step)).after st)
  | called {step : Step.RunAction} {name : String} {steps : List Json}
      (htarget : step.target = some name) (hsteps : r.stepsOf name = some steps) (st : σ) :
      Starts r depth s (.runAction step) st (r.calledBy s step name steps) st

/-- The steps that are performed when a sequence runs, and the states in which they begin: the
sequence is not refused, all steps before succeed, and the template can be filled in and read. -/
inductive Performs (r : Runner σ) (depth : Nat) (s : Sequence) (st : σ) : Step → σ → Prop
  | intro {before rest : List Json} {template filled : Json} {log : List LogEntry} {step : Step}
      (hpermit : r.permit s depth = .ok ())
      (hsteps : s.steps = before ++ template :: rest)
      (hbefore : (r.runSteps (r.nestedAt depth) s depth 0 before).result st = .ok log)
      (hfilled : s.bindings.render r.mode template = .ok filled)
      (hstep : Step.ofJson r.wording filled = .ok step) :
      Performs r depth s st step ((r.runSteps (r.nestedAt depth) s depth 0 before).after st)

/-- The failures of branches inside a step that nothing made up for: a branch failed, the step that
it belongs to failed nevertheless, and so did every step around that one. -/
inductive Lost (r : Runner σ) : (depth : Nat) → Sequence → Step → σ → Fault → Prop
  | branch {depth : Nat} {s branch : Sequence} {step : Step.TrySteps} {st st' : σ}
      {failure e : Fault} (hstarts : r.Starts depth s (.trySteps step) st branch st')
      (hfails : (r.runFrom (depth + 1) branch).result st' = .error e)
      (hstep : (r.performStep (r.nestedAt depth) s depth (.trySteps step)).result st =
        .error failure) :
      Lost r depth s (.trySteps step) st e
  | inside {depth : Nat} {s inner : Sequence} {step innerStep : Step} {st st' st'' : σ}
      {failure e : Fault} (hstarts : r.Starts depth s step st inner st')
      (hperforms : r.Performs (depth + 1) inner st' innerStep st'')
      (hlost : Lost r (depth + 1) inner innerStep st'' e)
      (hstep : (r.performStep (r.nestedAt depth) s depth step).result st = .error failure) :
      Lost r depth s step st e

/-! ### How failures are passed on -/

section Failures

variable {r : Runner σ} {depth : Nat} {s : Sequence} {st st' : σ}

open Act

theorem performStep_trySteps (step : Step.TrySteps) :
    r.performStep (r.nestedAt depth) s depth (.trySteps step) =
      tryCatch (r.nestedAt depth (r.primaryOf s step)) fun p =>
        ExceptT.adapt (.fallbackExhausted p) (r.nestedAt depth (r.fallbackOf s step)) :=
  rfl

/-- A step that tries sequences fails exactly if both fail, the second one on what the first one
left, and its failure holds both. -/
theorem performStep_trySteps_eq_error_iff {step : Step.TrySteps} {e : Fault} :
    (r.performStep (r.nestedAt depth) s depth (.trySteps step)).result st = .error e ↔
      ∃ p f, (r.runFrom (depth + 1) (r.primaryOf s step)).result st = .error p ∧
        (r.runFrom (depth + 1) (r.fallbackOf s step)).result
          ((r.runFrom (depth + 1) (r.primaryOf s step)).after st) = .error f ∧
        e = .fallbackExhausted p f := by
  rw [performStep_trySteps, result_tryCatch]
  simp only [nestedAt, result_discard, after_discard, result_adapt]
  cases hp : (r.runFrom (depth + 1) (r.primaryOf s step)).result st with
  | ok log => simp [Except.map]
  | error p =>
    cases hf : (r.runFrom (depth + 1) (r.fallbackOf s step)).result
        ((r.runFrom (depth + 1) (r.primaryOf s step)).after st) with
    | ok log => simp [Except.map]
    | error f => simp [Except.map, eq_comm]

/-- Whatever becomes of it, the second sequence runs on what the first one left. -/
theorem after_performStep_trySteps {step : Step.TrySteps} {p : Fault}
    (hprimary : (r.runFrom (depth + 1) (r.primaryOf s step)).result st = .error p) :
    (r.performStep (r.nestedAt depth) s depth (.trySteps step)).after st =
      (r.runFrom (depth + 1) (r.fallbackOf s step)).after
        ((r.runFrom (depth + 1) (r.primaryOf s step)).after st) := by
  rw [performStep_trySteps, after_tryCatch]
  simp [nestedAt, hprimary, Except.map]

/-- A step mentions the failure of a sequence inside of it, if it fails. -/
theorem mentions_of_starts {step : Step} {inner : Sequence} {e failure : Fault}
    (hstarts : r.Starts depth s step st inner st')
    (hfails : (r.runFrom (depth + 1) inner).result st' = .error e)
    (hstep : (r.performStep (r.nestedAt depth) s depth step).result st = .error failure) :
    failure.Mentions e := by
  cases hstarts with
  | primary step =>
    obtain ⟨p, f, hp, -, rfl⟩ := performStep_trySteps_eq_error_iff.mp hstep
    obtain rfl : e = p := Except.error.inj (hfails.symm.trans hp)
    exact Fault.mentions_primary e f
  | fallback hprimary =>
    obtain ⟨p, f, -, hf, rfl⟩ := performStep_trySteps_eq_error_iff.mp hstep
    obtain rfl : e = f := Except.error.inj (hfails.symm.trans hf)
    exact Fault.mentions_fallback p e
  | @called step name steps htarget hsteps =>
    have hcall : r.performStep (r.nestedAt depth) s depth (.runAction step) =
        r.nestedAt depth (r.calledBy s step name steps) := by
      simp only [performStep, performAction, htarget, hsteps]
      rfl
    rw [hcall, nestedAt, result_discard, hfails] at hstep
    cases hstep
    exact .refl e

section Read

variable {nested : Sequence → Act σ Unit} {index : Nat} {template filled : Json} {step : Step}

/-- A step that can be filled in and read fails as it does when it is performed. -/
theorem result_runStep_eq_error_iff (hfilled : s.bindings.render r.mode template = .ok filled)
    (hread : Step.ofJson r.wording filled = .ok step) {e : Fault} :
    (r.runStep nested s depth index template).result st = .error e ↔
      (r.performStep nested s depth step).result st = .error e := by
  cases hstep : (r.performStep nested s depth step).result st <;>
    simp [runStep, logLine, hfilled, hread, hstep, Except.map]

/-- A step that can be filled in and read leaves what it leaves when it is performed. -/
theorem after_runStep (hfilled : s.bindings.render r.mode template = .ok filled)
    (hread : Step.ofJson r.wording filled = .ok step) :
    (r.runStep nested s depth index template).after st =
      (r.performStep nested s depth step).after st := by
  cases hstep : (r.performStep nested s depth step).result st <;>
    simp [runStep, logLine, hfilled, hread, hstep]

end Read

/-- A sequence fails as the step does that it performs last. -/
theorem runFrom_of_performs {step : Step} {e : Fault} (hperforms : r.Performs depth s st step st')
    (hstep : (r.performStep (r.nestedAt depth) s depth step).result st' = .error e) :
    (r.runFrom depth s).result st = .error e := by
  cases hperforms with
  | @intro before rest template filled log _ hpermit hsteps hbefore hfilled hread =>
    have hrun : r.runFrom depth s = r.runSteps (r.nestedAt depth) s depth 0 s.steps := by
      rw [r.runFrom_unfolds depth s, hpermit]
      rfl
    have hlast : (r.runStep (r.nestedAt depth) s depth (0 + before.length) template).result
        ((r.runSteps (r.nestedAt depth) s depth 0 before).after st) = .error e :=
      (result_runStep_eq_error_iff hfilled hread).mpr hstep
    rw [hrun, hsteps, runSteps_append, result_bind, hbefore]
    simp only [runSteps, result_bind, hlast]

/-- A step with something lost inside of it fails, and its failure mentions what is lost. -/
theorem exists_error_of_lost {step : Step} {e : Fault} (hlost : r.Lost depth s step st e) :
    ∃ failure, (r.performStep (r.nestedAt depth) s depth step).result st = .error failure ∧
      failure.Mentions e := by
  induction hlost with
  | branch hstarts hfails hstep => exact ⟨_, hstep, mentions_of_starts hstarts hfails hstep⟩
  | inside hstarts hperforms _ hstep ih =>
    -- the sequence inside fails as its last step does, so what that mentions is handed on
    obtain ⟨failure, hinner, hmentions⟩ := ih
    have hfails := runFrom_of_performs hperforms hinner
    exact ⟨_, hstep, (mentions_of_starts hstarts hfails hstep).trans hmentions⟩

end Failures

/-! ### Steps with two branches -/

/-- A step that tries sequences, at any depth of a run. It fails exactly if the first sequence fails
and the second one, which begins in the state that the first one left, fails as well; its failure
holds the two failures in that order. The message contains that of either failure and of every
branch inside that failed and that nothing made up for. If the first sequence fails, the step leaves
the state that the second one leaves. -/
theorem runStep_falls_back (r : Runner σ) {s : Sequence} (depth index : Nat)
    {template filled : Json} {step : Step.TrySteps}
    (hfilled : s.bindings.render r.mode template = .ok filled)
    (hread : Step.ofJson r.wording filled = .ok (.trySteps step)) (st : σ) :
    let act := r.runStep (r.nestedAt depth) s depth index template
    let primary := r.runFrom (depth + 1) (r.primaryOf s step)
    let fallback := r.runFrom (depth + 1) (r.fallbackOf s step)
    (∀ e, act.result st = .error e ↔
      ∃ p f, primary.result st = .error p ∧ fallback.result (primary.after st) = .error f ∧
        e = .fallbackExhausted p f) ∧
    (∀ p f, primary.result st = .error p → fallback.result (primary.after st) = .error f →
      let e := Fault.fallbackExhausted p f
      e.Mentions p ∧ e.Mentions f ∧
        ∀ lost, r.Lost depth s (.trySteps step) st lost → e.Mentions lost) ∧
    ∀ p, primary.result st = .error p → act.after st = fallback.after (primary.after st) := by
  intro act primary fallback
  refine ⟨fun e => ?_, fun p f hp hf => ?_, fun p hp => ?_⟩
  · rw [result_runStep_eq_error_iff hfilled hread, performStep_trySteps_eq_error_iff]
  · intro e
    refine ⟨Fault.mentions_primary p f, Fault.mentions_fallback p f, fun lost hlost => ?_⟩
    obtain ⟨failure, hfailure, hmentions⟩ := exists_error_of_lost hlost
    obtain ⟨p', f', hp', hf', rfl⟩ := performStep_trySteps_eq_error_iff.mp hfailure
    obtain rfl : p' = p := Except.error.inj (hp'.symm.trans hp)
    obtain rfl : f' = f := Except.error.inj (hf'.symm.trans hf)
    exact hmentions
  · rw [after_runStep hfilled hread, after_performStep_trySteps hp]

/-- The law at a step whose first sequence ends with a step of the same kind that is refused twice,
and whose second sequence ends with a flow that is unknown. -/
theorem runStep_falls_back_nested :
    let visit (url : String) := Json.object [("type", .text "goto"), ("url", .text url)]
    let call := Json.object [("name", .text "pay"), ("type", .text "runAction")]
    let empty := Step.tryTemplate [] []
    let step : Step.TrySteps := ⟨[visit "a", empty], [visit "b", call], none⟩
    let template := Step.tryTemplate step.steps step.fallbackSteps
    let r := onPage .brief .strict .lenient fun _ => none
    let s : Sequence := ⟨"open", [template], .empty, 300⟩
    let page := Page.opened ""
    let act := r.runStep (r.nestedAt 0) s 0 0 template
    let refused : Fault := .config .emptySequence
    let e : Fault :=
      .fallbackExhausted (.fallbackExhausted refused refused) (.config (.noSteps "pay"))
    s.bindings.render r.mode template = .ok template ∧
      Step.ofJson .brief template = .ok (.trySteps step) ∧
      act.result page = .error e ∧ (act.after page).url = "b" ∧
      r.Lost 0 s (.trySteps step) page refused ∧ e.Mentions refused := by
  intro visit call empty step template r s page act refused e
  have hfilled : s.bindings.render r.mode template = .ok template :=
    s.bindings.render_of_keysIn_eq_nil _ (by decide +kernel)
  have hread : Step.ofJson .brief template = .ok (.trySteps step) := Step.ofJson_tryTemplate _ _ _
  have hprimary : (r.runFrom 1 (r.primaryOf s step)).result page =
      .error (.fallbackExhausted refused refused) := by decide +kernel
  have hfallback : (r.runFrom 1 (r.fallbackOf s step)).result
      ((r.runFrom 1 (r.primaryOf s step)).after page) = .error (.config (.noSteps "pay")) := by
    decide +kernel
  -- Lost by the inner step, which tries an empty sequence and is itself in the first branch.
  have hlost : r.Lost 0 s (.trySteps step) page refused := by
    let inner := r.primaryOf s step
    have hbefore : (r.runSteps (r.nestedAt 1) inner 1 0 [visit "a"]).result page =
        .ok [⟨0, "goto", 0, .started⟩, ⟨0, "goto", 0, .done⟩] := by decide +kernel
    have hempty : inner.bindings.render r.mode empty = .ok empty :=
      Bindings.render_of_keysIn_eq_nil _ _ (by decide +kernel)
    have hperforms := Performs.intro (by decide +kernel : r.permit inner 1 = .ok ())
      (show inner.steps = [visit "a"] ++ empty :: [] from rfl) hbefore hempty
      (Step.ofJson_tryTemplate _ [] [])
    have hfails : (r.performStep (r.nestedAt 1) inner 1 (.trySteps ⟨[], [], none⟩)).result
        ((r.runSteps (r.nestedAt 1) inner 1 0 [visit "a"]).after page) =
          .error (.fallbackExhausted refused refused) := by decide +kernel
    exact .inside (.primary step page) hperforms
      (.branch (.primary _ _) (by decide +kernel) hfails)
      (performStep_trySteps_eq_error_iff.mpr ⟨_, _, hprimary, hfallback, rfl⟩)
  obtain ⟨herror, hmentions, hafter⟩ := runStep_falls_back r 0 0 hfilled hread page
  refine ⟨hfilled, hread, (herror e).mpr ⟨_, _, hprimary, hfallback, rfl⟩, ?_, hlost,
    (hmentions _ _ hprimary hfallback).2.2 refused hlost⟩
  rw [hafter _ hprimary]
  decide +kernel

end Runner

end FlowPilot
