import FlowPilot.Proofs.Action.Demands

/-!
# Complete steps

A step is refused because it lacks a field, and then it is not complete, or because a field makes no
sense. So a complete step can fail, but not for want of a field.

## Main definitions

* `Step.Refuses`: why a step is refused.
* `Fault.blamesTemplate`: failures that say that a template lacks a field or names no known kind.

## Main statements

* `Step.Leaf.check_refuses`: why the check of a step fails.
* `Step.Leaf.perform_spares`: a complete step never blames its template.
-/

namespace FlowPilot

open Act
open Text (isBlankText)

/-- Issues with a field that is there but makes no sense. -/
def ConfigIssue.IsMisuse : ConfigIssue → Prop
  | matchMode _ | urlPattern _ _ | noExpectation | cellIndex _ => True
  | _ => False

namespace Step

open FlowPilot.Action (required requiredText cleaned)

/-- Why a step is refused: it lacks a field, or a field makes no sense. -/
inductive Refuses (complete : Prop) : Fault → Prop
  | lacks {field : String} (hfield : field ≠ "step.type") (hlacks : ¬complete) :
      Refuses complete (.missingField field)
  | misuse {issue : ConfigIssue} (hissue : issue.IsMisuse) : Refuses complete (.config issue)

/-- What more is demanded may be lacking too. -/
theorem Refuses.mono {complete complete' : Prop} {e : Fault} (h : Refuses complete e)
    (himp : complete' → complete) : Refuses complete' e := by
  cases h with
  | lacks hfield hlacks => exact .lacks hfield fun hcomplete => hlacks (himp hcomplete)
  | misuse hissue => exact .misuse hissue

/-! ### Fields that are lacking -/

theorem not_given_of_trimmed? {field : Option String} (h : field.bind Text.trimmed? = none) :
    ¬Given field := by
  rintro ⟨s, rfl, hblank⟩
  rw [Option.bind_some, Text.trimmed?_of_not_blank hblank] at h
  cases h

theorem not_given_of_filter {field : Option String} (h : field.filter (· ≠ "") = none) :
    ¬Given field := by
  rintro ⟨s, rfl, hblank⟩
  simp [Option.filter, Text.ne_empty_of_not_blank hblank] at h

theorem given_of_trimmed? {field : Option String} {s : String}
    (h : field.bind Text.trimmed? = some s) : Given field := by
  obtain ⟨raw, rfl, hs⟩ := Option.bind_eq_some_iff.mp h
  refine ⟨raw, rfl, ?_⟩
  cases hblank : isBlankText raw with
  | true => simp [Text.trimmed?, hblank] at hs
  | false => rfl

section Errors

variable {α β : Type} {w : Wording} {field : Option String} {e : Fault}

/-- Of two parts of a check either one may refuse. -/
theorem Refuses.both {x : Except Fault α} {f : α → Except Fault β} {first second : Prop}
    (h : (x >>= f) = .error e) (hx : x = .error e → Refuses first e)
    (hf : ∀ a, f a = .error e → Refuses second e) : Refuses (first ∧ second) e := by
  rcases bind_eq_error_iff.mp h with hfirst | ⟨a, -, hsecond⟩
  · exact (hx hfirst).mono And.left
  · exact (hf a hsecond).mono And.right

/-- After the last part of a check nothing is refused. -/
theorem Refuses.last {x : Except Fault α} {complete : Prop}
    (h : (x >>= fun _ => pure ()) = (.error e : Except Fault Unit))
    (hx : x = .error e → Refuses complete e) : Refuses complete e := by
  rcases bind_eq_error_iff.mp h with hlast | ⟨_, -, hdone⟩
  · exact hx hlast
  · cases hdone

theorem Refuses.unless {c complete : Prop} [Decidable c] {field : String}
    (hfield : field ≠ "step.type")
    (h : (if c then .error (.missingField field) else pure ()) = (.error e : Except Fault Unit))
    (hc : c → ¬complete) : Refuses complete e := by
  by_cases hcond : c
  · rw [if_pos hcond] at h
    cases h
    exact .lacks hfield (hc hcond)
  · rw [if_neg hcond] at h
    cases h

theorem refuses_of_required {name : String} (hname : name ≠ "step.type")
    (h : required name field = .error e) : Refuses (Given field) e := by
  unfold required at h
  split at h
  · cases h
  · rename_i hnone
    cases h
    exact .lacks hname (not_given_of_trimmed? hnone)

theorem refuses_of_requiredText {name : String} (hname : name ≠ "step.type")
    (h : requiredText name field = .error e) : Refuses (Given field) e := by
  unfold requiredText at h
  split at h
  · cases h
  · rename_i hnone
    cases h
    exact .lacks hname (not_given_of_filter hnone)

theorem Select.refuses_of_option (s : Select) (h : s.option = .error e) :
    Refuses (Given s.value ∨ Given s.label ∨ Given s.text) e := by
  unfold Select.option at h
  dsimp only at h
  split at h
  · cases h
  · cases h
  · cases h
  · rename_i hvalue hlabel htext
    cases h
    refine .lacks (by decide) ?_
    rintro (hgiven | hgiven | hgiven)
    · exact not_given_of_filter hvalue hgiven
    · exact not_given_of_filter hlabel hgiven
    · exact not_given_of_filter htext hgiven

theorem refuses_of_patternOf {complete : Prop} {place text : String}
    (h : UrlCriterion.patternOf w place text = .error e) : Refuses complete e := by
  unfold UrlCriterion.patternOf at h
  split at h
  · cases h
  · cases h
    exact .misuse trivial

theorem WaitForUrl.refuses_of_criterion (s : WaitForUrl) (h : UrlCriterion.ofStep w s = .error e) :
    Refuses (Given s.url ∨ Given s.pattern) e := by
  unfold UrlCriterion.ofStep at h
  split at h
  · cases h
  rename_i hurl
  split at h
  · rename_i text hpattern
    cases hread : UrlCriterion.patternOf w "waitForURL pattern" text with
    | ok p =>
      rw [hread] at h
      cases h
    | error e' =>
      rw [hread] at h
      cases h
      exact refuses_of_patternOf hread
  · rename_i hpattern
    cases h
    refine .lacks (by decide) ?_
    rintro (hgiven | hgiven)
    · exact not_given_of_trimmed? hurl hgiven
    · exact not_given_of_trimmed? hpattern hgiven

theorem AssertOnPage.refuses_of_expectation (s : AssertOnPage)
    (h : Expectation.ofStep w s = .error e) : Refuses True e := by
  unfold Expectation.ofStep at h
  simp only [pure_bind] at h
  split at h
  · rcases bind_eq_error_iff.mp h with hpattern | ⟨_, -, hnone⟩
    · exact refuses_of_patternOf hpattern
    · split at hnone <;> cases hnone
      exact .misuse trivial
  · split at h <;> cases h
    exact .misuse trivial

theorem refuses_of_matchMode {complete : Prop} (h : MatchMode.ofField field = .error e) :
    Refuses complete e := by
  unfold MatchMode.ofField at h
  split at h
  · cases h
  · cases h
  · cases h
  · cases h
    exact .misuse trivial

theorem refuses_of_cellIndex {complete : Prop} (h : cellIndexOf field = .error e) :
    Refuses complete e := by
  unfold cellIndexOf at h
  split at h
  · cases h
  split at h
  · cases h
  · cases h
    exact .misuse trivial

/-- Only a field that says nothing is read as no index. -/
theorem not_given_of_cellIndexOf (h : cellIndexOf field = .ok none) : ¬Given field := by
  unfold cellIndexOf at h
  split at h
  · rename_i hnone
    exact not_given_of_trimmed? hnone
  · split at h <;> cases h

theorem ClickTableCellLink.refuses_of_target (s : ClickTableCellLink) (h : s.target = .error e) :
    Refuses ((Given s.rowText ∨ Given s.cellText) ∧ (Given s.cellText → Given s.cellIndex)) e := by
  unfold ClickTableCellLink.target at h
  by_cases hnone : ((s.rowText.bind Text.trimmed?).isNone &&
      (s.cellText.bind Text.trimmed?).isNone) = true
  · rw [if_pos hnone] at h
    cases h
    rw [Bool.and_eq_true, Option.isNone_iff_eq_none, Option.isNone_iff_eq_none] at hnone
    refine .lacks (by decide) ?_
    rintro ⟨hgiven | hgiven, -⟩
    · exact not_given_of_trimmed? hnone.1 hgiven
    · exact not_given_of_trimmed? hnone.2 hgiven
  rw [if_neg hnone] at h
  rcases bind_eq_error_iff.mp h with hmode | ⟨mode, -, h⟩
  · exact refuses_of_matchMode hmode
  rcases bind_eq_error_iff.mp h with hindex | ⟨index, hindex, h⟩
  · exact refuses_of_cellIndex hindex
  -- only a cell without an index is left to be refused
  split at h
  · cases h
  · rename_i hcell
    cases h
    refine .lacks (by decide) fun hcomplete => ?_
    exact not_given_of_cellIndexOf hindex (hcomplete.2 (given_of_trimmed? hcell))
  · cases h

/-! ### Why a step is refused -/

/-- The check of a step fails because the step lacks a field or a field makes no sense. -/
theorem Leaf.check_refuses {s : Leaf} (h : s.check w = .error e) : Refuses s.IsComplete e := by
  -- In the order of the check: `both` for a field that is followed by others, `last` for the last.
  cases s with
  | goto s => exact .last h (refuses_of_required (by decide))
  | click s => exact .last h (refuses_of_required (by decide))
  | clickAny s =>
    exact .unless (by decide) h fun hempty hcomplete => hcomplete (List.isEmpty_iff.mp hempty)
  | fill s =>
    refine .both h (refuses_of_required (by decide)) fun _ h => ?_
    exact .last h (refuses_of_requiredText (by decide))
  | select s =>
    refine .both h (refuses_of_required (by decide)) fun _ h => ?_
    exact .last h s.refuses_of_option
  | waitForSelector s => exact .last h (refuses_of_required (by decide))
  | waitForUrl s => exact .last h s.refuses_of_criterion
  | expectText s =>
    refine .both h (refuses_of_required (by decide)) fun _ h => ?_
    exact .last h (refuses_of_requiredText (by decide))
  | press s =>
    refine .both h (refuses_of_required (by decide)) fun _ h => ?_
    exact .last h (refuses_of_requiredText (by decide))
  | assertOnPage s => exact .last h s.refuses_of_expectation
  | clickRowAction s =>
    refine .both h (refuses_of_required (by decide)) fun _ h => ?_
    refine .both h (refuses_of_required (by decide)) fun _ h => ?_
    refine .unless (by decide) h fun hnothing hcomplete => ?_
    rw [Bool.and_eq_true, List.isEmpty_iff, Bool.not_eq_true'] at hnothing
    rcases hcomplete with hselectors | hfallback
    · exact hselectors hnothing.1
    · exact absurd (hfallback.symm.trans hnothing.2) (by decide)
  | clickTableCellLink s =>
    refine .both h (refuses_of_required (by decide)) fun _ h => ?_
    exact .last h s.refuses_of_target
  | ensureSidebarOpen s =>
    refine .both h (refuses_of_required (by decide)) fun _ h => ?_
    exact .unless (by decide) h fun hempty hcomplete => hcomplete (List.isEmpty_iff.mp hempty)

end Errors

end Step

/-! ### Failures that blame a template -/

/-- Whether a failure says that a template lacks a field or names no known kind, itself or in one of
the failures that it reports. -/
def Fault.blamesTemplate : Fault → Bool
  | missingField _ | unsupportedStep _ => true
  | fallbackExhausted primary fallback => primary.blamesTemplate || fallback.blamesTemplate
  | stepFailed _ cause _ => cause.blamesTemplate
  | _ => false

/-- A failure that blames no template. -/
def Fault.SparesTemplate (e : Fault) : Prop := e.blamesTemplate = false

open Fault (SparesTemplate)

theorem Fault.IsFromPage.sparesTemplate {e : Fault} (h : e.IsFromPage) : e.SparesTemplate := by
  cases e with
  | page | notFound | noTargetClickable | assertionFailed => rfl
  | _ => exact absurd h id

theorem Step.Leaf.perform_spares {s : Leaf} (h : s.IsComplete) (host : Host)
    (interval timeout : Nat) : FailsOnly SparesTemplate (s.perform host interval timeout) := by
  refine (s.perform_checksFirst host interval timeout).failsOnly (fun e hcheck => ?_)
    fun _ => Fault.IsFromPage.sparesTemplate
  cases check_refuses hcheck with
  | lacks _ hlacks => exact absurd h hlacks
  | misuse _ => rfl

end FlowPilot
