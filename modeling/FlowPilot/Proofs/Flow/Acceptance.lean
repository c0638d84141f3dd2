import FlowPilot.Proofs.Action.Complete
import FlowPilot.Proofs.Flow.Validation

/-!
# What runs is not refused

The check of a flow file looks for the fields that a step must have, and a step that runs has found
them. Both look at the same template, in different ways: a step reads false and the empty list as
texts where the check sees nothing, and it types blanks. Apart from such fields, a template whose
step can succeed on some page passes the check.

## Main definitions

* `Step.Overlooked`: a field that a step reads although it does not count as present.
* `Step.Counts`: a field that is present or overlooked.
* `Runner.Succeeds`: a template that runs on some page.

## Main statements

* `Step.counts_of_check`: a step that is not refused has the fields that the check looks for.
* `FlowFile.stepIssues_of_succeeds`: what the check reports about a template that runs.
-/

namespace FlowPilot

open Act
open Text (isBlankText)

/-- A value that counts as present. -/
def Json.isThere : Json → Bool
  | null | bool false => false
  | text s => !isBlankText s
  | array items => !items.isEmpty
  | _ => true

namespace Step

open FlowPilot.Action (required requiredText cleaned)

/-! ### Fields that count -/

/-- Fields that are typed, compared or chosen as they are, with the blanks around them. -/
def verbatimKeys : List String := ["text", "key", "value", "label"]

/-- A field that a step reads although it does not count as present: it is false or an empty list,
or it is taken as it is and holds blanks only. -/
inductive Overlooked (template : Json) (key : String) : Prop
  | no (h : template.get? key = some (.bool false))
  | empty (h : template.get? key = some (.array []))
  | blanks {s : String} (h : template.get? key = some (.text s)) (hne : s ≠ "")
      (hblank : isBlankText s = true) (hkey : key ∈ verbatimKeys)

/-- A field that is present or overlooked. -/
def Counts (template : Json) (key : String) : Prop :=
  template.isPresent key = true ∨ Overlooked template key

section Fields

variable {template : Json} {key : String} {field : Option String}

theorem isPresent_of_get? {value : Json} (hget : template.get? key = some value) :
    template.isPresent key = value.isThere := by
  rw [Json.isPresent, hget]
  cases value with
  | bool b => cases b <;> rfl
  | _ => rfl

/-- A value that gives a text counts, if the text is not blank or is taken as it is. -/
theorem counts_of_valueText? {value : Json} {s : String} (hget : template.get? key = some value)
    (hread : valueText? value = some s)
    (hs : isBlankText s = false ∨ key ∈ verbatimKeys ∧ s ≠ "") : Counts template key := by
  have hpresent := isPresent_of_get? hget
  cases value with
  | null => cases hread
  | bool b =>
    cases b with
    | false => exact .inr (.no hget)
    | true => exact .inl hpresent
  | number n => exact .inl hpresent
  | text t =>
    obtain rfl := Option.some.inj hread
    cases hblank : isBlankText t with
    | false => exact .inl (by rw [hpresent, Json.isThere, hblank]; rfl)
    | true =>
      obtain ⟨hkey, hne⟩ := hs.resolve_left (by simp [hblank])
      exact .inr (.blanks hget hne hblank hkey)
  | array items =>
    cases items with
    | nil => exact .inr (.empty hget)
    | cons item rest => exact .inl hpresent
  | object members => exact .inl hpresent

theorem exists_value_of_anyText {s : String} (h : anyText template.fields key = some s) :
    ∃ value, template.get? key = some value ∧ valueText? value = some s := by
  rw [anyText, ← Json.get?_eq_lookup] at h
  exact Option.bind_eq_some_iff.mp h

theorem counts_of_anyText (h : Given (anyText template.fields key)) : Counts template key := by
  obtain ⟨s, hs, hblank⟩ := h
  obtain ⟨value, hget, hread⟩ := exists_value_of_anyText hs
  exact counts_of_valueText? hget hread (.inl hblank)

theorem counts_of_verbatim (hkey : key ∈ verbatimKeys) {s : String}
    (h : (anyText template.fields key).filter (· ≠ "") = some s) : Counts template key := by
  obtain ⟨hs, hne⟩ := Option.filter_eq_some_iff.mp h
  obtain ⟨value, hget, hread⟩ := exists_value_of_anyText hs
  exact counts_of_valueText? hget hread (.inr ⟨hkey, by simpa using hne⟩)

theorem counts_of_plainText (hread : plainText template.fields key = .ok field)
    (h : Given field) : Counts template key := by
  obtain ⟨s, rfl, hblank⟩ := h
  have htext := bind_text?_of_plainText hread
  rw [← Json.get?_eq_lookup] at htext
  obtain ⟨value, hget, hvalue⟩ := Option.bind_eq_some_iff.mp htext
  cases value with
  | text t => exact counts_of_valueText? hget hvalue (.inl hblank)
  | _ => cases hvalue

/-- A list in which something is given counts. -/
theorem counts_of_textList {s : String} (hmem : s ∈ textList template.fields key)
    (hblank : isBlankText s = false) : Counts template key := by
  unfold textList at hmem
  rw [← Json.get?_eq_lookup] at hmem
  cases hget : template.get? key with
  | none =>
    rw [hget] at hmem
    exact absurd hmem List.not_mem_nil
  | some value =>
    rw [hget] at hmem
    cases value with
    | array items =>
      refine .inl ?_
      rw [isPresent_of_get? hget]
      obtain ⟨item, hitem, -⟩ := List.mem_filterMap.mp hmem
      simpa [Json.isThere] using List.ne_nil_of_mem hitem
    | _ => exact counts_of_valueText? hget (Option.mem_toList.mp hmem) (.inl hblank)

/-- A flag that says yes counts: blanks say no. -/
theorem counts_of_flag (h : flag template.fields key = true) : Counts template key := by
  unfold flag at h
  rw [← Json.get?_eq_lookup] at h
  cases hget : template.get? key with
  | none => simp [hget] at h
  | some value =>
    rw [hget] at h
    cases value with
    | null => cases h
    | bool b =>
      obtain rfl : b = true := h
      exact .inl (isPresent_of_get? hget)
    | text s =>
      have hyes : (!negations.contains (Text.asciiLower (Text.trim s))) = true := h
      refine .inl ?_
      rw [isPresent_of_get? hget, Json.isThere, Bool.not_eq_true']
      by_contra hblank
      rw [Text.trim_of_blank (eq_true_of_ne_false hblank)] at hyes
      exact absurd hyes (by decide)
    | array items =>
      cases items with
      | nil => exact .inr (.empty hget)
      | cons item rest => exact .inl (isPresent_of_get? hget)
    | _ => exact .inl (isPresent_of_get? hget)

theorem anyText_of_get? {value : Json} (hget : template.get? key = some value) :
    anyText template.fields key = valueText? value := by
  rw [anyText, ← Json.get?_eq_lookup, hget, Option.bind_some]

/-- The index of a cell is present if it can be read: what is overlooked is no number. -/
theorem isPresent_cellIndex {n : Nat}
    (h : cellIndexOf (anyText template.fields "cellIndex") = .ok (some n)) :
    template.isPresent "cellIndex" = true := by
  have hgiven : Given (anyText template.fields "cellIndex") := by
    unfold cellIndexOf at h
    split at h
    · cases h
    · rename_i text htext
      exact given_of_trimmed? htext
  refine (counts_of_anyText hgiven).resolve_right fun hoverlooked => ?_
  -- Overlooked is what has a text although it does not count as present; none is a number.
  cases hoverlooked with
  | no hget =>
    rw [anyText_of_get? hget] at h
    have hword :
        cellIndexOf (valueText? (.bool false)) = .error (.config (.cellIndex "false")) := by
      decide +kernel
    cases hword.symm.trans h
  | empty hget =>
    rw [anyText_of_get? hget] at h
    have hlist : cellIndexOf (valueText? (.array [])) = .error (.config (.cellIndex "[]")) := by
      decide +kernel
    cases hlist.symm.trans h
  | blanks _ _ _ hkey => exact absurd hkey (by decide)

end Fields

/-! ### Steps that are not refused -/

section Steps

variable {template : Json} {w : Wording} {name : String} {field : Option String} {s : String}

theorem given_of_required (h : required name field = .ok s) : Given field :=
  given_of_trimmed? (trimmed?_of_required h)

theorem filter_of_requiredText (h : requiredText name field = .ok s) :
    field.filter (· ≠ "") = some s := by
  unfold requiredText at h
  split at h
  · rename_i text htext
    rw [htext, Except.ok.inj h]
  · cases h

theorem exists_of_cleaned {items : List String} (h : ¬(cleaned items).isEmpty = true) :
    ∃ s ∈ items, isBlankText s = false := by
  obtain ⟨t, ht⟩ := List.exists_mem_of_ne_nil _ (mt List.isEmpty_iff.mpr h)
  obtain ⟨s, hs, htrim⟩ := List.mem_filterMap.mp ht
  have hgiven : Given (some s) := given_of_trimmed? htrim
  obtain ⟨_, hsome, hblank⟩ := hgiven
  exact ⟨s, hs, Option.some.inj hsome ▸ hblank⟩

theorem counts_of_cleaned {key : String}
    (h : ¬(cleaned (textList template.fields key)).isEmpty = true) : Counts template key := by
  obtain ⟨s, hs, hblank⟩ := exists_of_cleaned h
  exact counts_of_textList hs hblank

/-- A step that chooses an option names it. -/
theorem counts_of_option {s : Select} {option : SelectOption}
    (hvalue : s.value = anyText template.fields "value")
    (hlabel : s.label = anyText template.fields "label")
    (htext : s.text = anyText template.fields "text") (h : s.option = .ok option) :
    ∃ key ∈ ["value", "label", "text"], Counts template key := by
  unfold Select.option at h
  dsimp only at h
  rw [hvalue, hlabel, htext] at h
  split at h
  · rename_i hgiven
    exact ⟨"value", by simp, counts_of_verbatim (by decide) hgiven⟩
  · rename_i hgiven
    exact ⟨"label", by simp, counts_of_verbatim (by decide) hgiven⟩
  · rename_i hgiven
    exact ⟨"text", by simp, counts_of_verbatim (by decide) hgiven⟩
  · cases h

/-- A step that waits for an address says for which. -/
theorem counts_of_criterion {s : WaitForUrl} {criterion : UrlCriterion}
    (hurl : s.url = anyText template.fields "url")
    (hpattern : plainText template.fields "pattern" = .ok s.pattern)
    (h : UrlCriterion.ofStep w s = .ok criterion) :
    Counts template "url" ∨ Counts template "pattern" := by
  unfold UrlCriterion.ofStep at h
  split at h
  · rename_i htext
    exact .inl (counts_of_anyText (hurl ▸ given_of_trimmed? htext))
  split at h
  · rename_i htext
    exact .inr (counts_of_plainText hpattern (given_of_trimmed? htext))
  · cases h

/-- A step that demands conditions of the page gives one. -/
theorem counts_of_expectation {s : AssertOnPage} {e : Expectation}
    (hpattern : plainText template.fields "urlPattern" = .ok s.urlPattern)
    (hselector : plainText template.fields "selector" = .ok s.selector)
    (htexts : s.anyText = textList template.fields "anyText") (h : Expectation.ofStep w s = .ok e) :
    Counts template "urlPattern" ∨ Counts template "selector" ∨ Counts template "anyText" := by
  unfold Expectation.ofStep at h
  simp only [pure_bind] at h
  split at h
  · rename_i htext
    exact .inl (counts_of_plainText hpattern (given_of_trimmed? htext))
  split at h
  · cases h
  rename_i hsome
  rw [Option.isNone_none, Bool.true_and, Bool.and_eq_true, not_and_or] at hsome
  rcases hsome with hsome | hsome
  · refine .inr (.inl (counts_of_plainText hselector ?_))
    cases htext : s.selector.bind Text.trimmed? with
    | none => simp [htext] at hsome
    | some text => exact given_of_trimmed? htext
  · obtain ⟨t, ht⟩ := List.exists_mem_of_ne_nil _ (mt List.isEmpty_iff.mpr hsome)
    obtain ⟨hmem, hne⟩ := List.mem_filter.mp ht
    obtain ⟨item, hitem, rfl⟩ := List.mem_map.mp hmem
    refine .inr (.inr (counts_of_textList (htexts ▸ hitem) ?_))
    by_contra hblank
    rw [Text.normal_of_blank (eq_true_of_ne_false hblank)] at hne
    exact absurd hne (by decide)

/-- A step that looks into a table looks for a row or for a cell, and a cell has an index. -/
theorem given_of_target {s : ClickTableCellLink} {target : TableTarget} {mode : MatchMode}
    (h : s.target = .ok (target, mode)) :
    (Given s.rowText ∨ Given s.cellText) ∧
      (Given s.cellText → ∃ n, cellIndexOf s.cellIndex = .ok (some n)) := by
  rcases ClickTableCellLink.target_cases h with ⟨_, n, -, hcell, hindex⟩ | ⟨_, _, -, hcell, hrow, -⟩
  · exact ⟨.inr (given_of_trimmed? hcell), fun _ => ⟨n, hindex⟩⟩
  · refine ⟨.inl (given_of_trimmed? hrow), fun hgiven => ?_⟩
    exact absurd hgiven (not_given_of_trimmed? hcell)

/-- A step that is not refused has, of each demand of its kind, a field that counts. -/
theorem counts_of_check {kind : Kind} {leaf : Leaf}
    (hread : ofFields kind template.fields = .ok (.leaf leaf)) (hcheck : leaf.check w = .ok ()) :
    ∀ alternatives ∈ kind.required, ∃ key ∈ alternatives, Counts template key := by
  -- The case split is that of the reading. In each case the fields are peeled off in reading order,
  -- then those that the check demands in the order of the check; both name the same field.
  cases kind with
  | goto =>
    obtain ⟨_, -, hstep⟩ := exists_of_bind_eq_ok hread
    cases hstep
    obtain ⟨_, hurl, -⟩ := exists_of_bind_eq_ok hcheck
    simpa [Kind.required] using counts_of_anyText (given_of_required hurl)
  | click =>
    obtain ⟨_, hselector, hstep⟩ := exists_of_bind_eq_ok hread
    cases hstep
    obtain ⟨_, hgiven, -⟩ := exists_of_bind_eq_ok hcheck
    simpa [Kind.required] using counts_of_plainText hselector (given_of_required hgiven)
  | clickAny =>
    cases hread
    change (if _ then _ else _) = _ at hcheck
    split at hcheck
    · cases hcheck
    · rename_i hsome
      simpa [Kind.required] using counts_of_cleaned hsome
  | fill | expectText | press =>
    obtain ⟨_, hselector, hstep⟩ := exists_of_bind_eq_ok hread
    cases hstep
    obtain ⟨_, hgiven, hcheck⟩ := exists_of_bind_eq_ok hcheck
    obtain ⟨_, htext, -⟩ := exists_of_bind_eq_ok hcheck
    have hselector := counts_of_plainText hselector (given_of_required hgiven)
    have hverbatim := counts_of_verbatim (by decide) (filter_of_requiredText htext)
    simpa [Kind.required] using ⟨hselector, hverbatim⟩
  | select =>
    obtain ⟨_, hselector, hstep⟩ := exists_of_bind_eq_ok hread
    cases hstep
    obtain ⟨_, hgiven, hcheck⟩ := exists_of_bind_eq_ok hcheck
    obtain ⟨_, hoption, -⟩ := exists_of_bind_eq_ok hcheck
    have hcounts := counts_of_option rfl rfl rfl hoption
    simpa [Kind.required] using
      ⟨counts_of_plainText hselector (given_of_required hgiven), by simpa using hcounts⟩
  | waitForSelector =>
    obtain ⟨_, hselector, hstep⟩ := exists_of_bind_eq_ok hread
    obtain ⟨_, -, hstep⟩ := exists_of_bind_eq_ok hstep
    cases hstep
    obtain ⟨_, hgiven, -⟩ := exists_of_bind_eq_ok hcheck
    simpa [Kind.required] using counts_of_plainText hselector (given_of_required hgiven)
  | waitForUrl =>
    obtain ⟨_, hpattern, hstep⟩ := exists_of_bind_eq_ok hread
    cases hstep
    obtain ⟨_, hcriterion, -⟩ := exists_of_bind_eq_ok hcheck
    simpa [Kind.required] using counts_of_criterion rfl hpattern hcriterion
  | assertOnPage =>
    obtain ⟨_, hselector, hstep⟩ := exists_of_bind_eq_ok hread
    obtain ⟨_, hpattern, hstep⟩ := exists_of_bind_eq_ok hstep
    cases hstep
    obtain ⟨_, hexpects, -⟩ := exists_of_bind_eq_ok hcheck
    simpa [Kind.required] using counts_of_expectation hpattern hselector rfl hexpects
  | clickRowAction =>
    obtain ⟨_, htable, hstep⟩ := exists_of_bind_eq_ok hread
    cases hstep
    obtain ⟨_, hgiven, hcheck⟩ := exists_of_bind_eq_ok hcheck
    obtain ⟨_, hrow, hcheck⟩ := exists_of_bind_eq_ok hcheck
    have htable := counts_of_plainText htable (given_of_required hgiven)
    have hrow := counts_of_anyText (given_of_required hrow)
    split at hcheck
    · cases hcheck
    · rename_i hsome
      rw [Bool.and_eq_true, not_and_or, Bool.not_eq_true', Bool.not_eq_false] at hsome
      have hclick : Counts template "actionSelectors" ∨ Counts template "fallbackClick" :=
        hsome.imp counts_of_cleaned counts_of_flag
      simpa [Kind.required] using ⟨htable, hrow, hclick⟩
  | clickTableCellLink =>
    obtain ⟨_, -, hstep⟩ := exists_of_bind_eq_ok hread
    obtain ⟨_, htable, hstep⟩ := exists_of_bind_eq_ok hstep
    cases hstep
    obtain ⟨_, hgiven, hcheck⟩ := exists_of_bind_eq_ok hcheck
    obtain ⟨⟨_, _⟩, htarget, -⟩ := exists_of_bind_eq_ok hcheck
    have htable := counts_of_plainText htable (given_of_required hgiven)
    have htarget := (given_of_target htarget).1.imp counts_of_anyText counts_of_anyText
    simpa [Kind.required] using ⟨htable, htarget⟩
  | ensureSidebarOpen =>
    obtain ⟨_, hselector, hstep⟩ := exists_of_bind_eq_ok hread
    obtain ⟨_, htoggle, hstep⟩ := exists_of_bind_eq_ok hstep
    cases hstep
    obtain ⟨_, hgiven, hcheck⟩ := exists_of_bind_eq_ok hcheck
    have hselector := counts_of_plainText hselector (given_of_required hgiven)
    split at hcheck
    · cases hcheck
    · rename_i hsome
      obtain ⟨s, hs, hblank⟩ := exists_of_cleaned hsome
      have htoggle : Counts template "toggleSelector" ∨ Counts template "toggleSelectors" := by
        refine (List.mem_append.mp hs).imp (fun hs => ?_) fun hs => counts_of_textList hs hblank
        exact counts_of_plainText htoggle ⟨s, Option.mem_toList.mp hs, hblank⟩
      simpa [Kind.required] using ⟨hselector, htoggle⟩
  -- No such template is read as a leaf.
  | trySteps | runAction => cases leaf <;> cases kind_of_ofFields hread

/-- A step that looks for a cell is not refused, so it says at which index. -/
theorem isPresent_cellIndex_of_check {leaf : Leaf}
    (hread : ofFields .clickTableCellLink template.fields = .ok (.leaf leaf))
    (hcheck : leaf.check w = .ok ()) (hcell : template.isPresent "cellText" = true) :
    template.isPresent "cellIndex" = true := by
  obtain ⟨_, -, hstep⟩ := exists_of_bind_eq_ok hread
  obtain ⟨_, -, hstep⟩ := exists_of_bind_eq_ok hstep
  cases hstep
  obtain ⟨_, -, hcheck⟩ := exists_of_bind_eq_ok hcheck
  obtain ⟨⟨_, _⟩, htarget, -⟩ := exists_of_bind_eq_ok hcheck
  have hgiven : Given (anyText template.fields "cellText") :=
    given_anyText (Json.not_blank_of_isPresent hcell)
  obtain ⟨n, hindex⟩ := (given_of_target htarget).2 hgiven
  exact isPresent_cellIndex hindex

/-- Of all that a template lacks, a step that is not refused reads something. -/
theorem overlooked_of_lackingFields {kind : Kind} {leaf : Leaf}
    (hread : ofFields kind template.fields = .ok (.leaf leaf)) (hcheck : leaf.check w = .ok ()) :
    ∀ alternatives ∈ FlowFile.lackingFields kind template,
      ∃ key ∈ alternatives, Overlooked template key := by
  intro alternatives hmem
  rcases List.mem_append.mp hmem with hmem | hmem
  · obtain ⟨hrequired, hnone⟩ := List.mem_filter.mp hmem
    obtain ⟨key, hkey, hcounts⟩ := counts_of_check hread hcheck alternatives hrequired
    refine ⟨key, hkey, hcounts.resolve_left fun hpresent => ?_⟩
    simp only [Bool.not_eq_true', List.any_eq_false] at hnone
    exact hnone key hkey hpresent
  · split at hmem
    · rename_i hcell
      obtain ⟨rfl, htext, hindex⟩ := hcell
      simp [isPresent_cellIndex_of_check hread hcheck htext] at hindex
    · exact absurd hmem List.not_mem_nil

end Steps

end Step

/-! ### Steps that succeed -/

/-- A template that succeeds on its own on some page, with some variables, time and limits. -/
def Runner.Succeeds (template : Json) : Prop :=
  ∃ host limits mode stepsOf name bindings timeout page log,
    ((onPage host limits mode stepsOf).run ⟨name, [template], bindings, timeout⟩).result page =
      .ok log

/-- A template without placeholders that succeeds on its own stands for a step that is not
refused, unless it runs other steps. -/
theorem Runner.Succeeds.exists_leaf {template : Json} (h : Succeeds template)
    (hkeys : Template.keysIn template = []) (htry : Step.kind? template ≠ some .trySteps)
    (hcall : Step.kind? template ≠ some .runAction) :
    ∃ w kind leaf, Step.kind? template = some kind ∧
      Step.ofFields kind template.fields = .ok (.leaf leaf) ∧ leaf.check w = .ok () := by
  obtain ⟨host, limits, mode, stepsOf, name, bindings, timeout, page, log, hrun⟩ := h
  have hrender : bindings.render mode template = .ok template :=
    bindings.render_of_keysIn_eq_nil _ hkeys
  -- The run of this one template is taken apart down to the step that it performs.
  rw [run, runAt_succ] at hrun
  obtain ⟨_, -, hrun⟩ := result_bind_eq_ok_iff.mp hrun
  rw [runSteps] at hrun
  obtain ⟨_, hrun, -⟩ := result_bind_eq_ok_iff.mp hrun
  simp only [runStep, logLine, result_bind_eq_ok_iff, result_ofExcept] at hrun
  obtain ⟨filled, hfilled, _, -, step, hread, _, hperform, -⟩ := hrun
  obtain rfl := Except.ok.inj (hrender.symm.trans hfilled)
  have hkind := Step.kind?_of_ofJson hread
  rcases Step.ofJson_of_kind? _ hkind with ⟨step', hread', hfields⟩ | ⟨_, _, hread'⟩
  · obtain rfl := Except.ok.inj (hread.symm.trans hread')
    cases step with
    | leaf leaf =>
      have hchecks := leaf.perform_checksFirst host limits.pollInterval
        (limits.timeoutOr timeout leaf.timeout)
      exact ⟨_, _, leaf, hkind, hfields, hchecks.check_of_ok hperform⟩
    | trySteps step => exact absurd hkind htry
    | runAction step => exact absurd hkind hcall
  · cases hread.symm.trans hread'

namespace FlowFile

/-- On its own a template has the issues that it has anywhere, if a sequence may have a step. -/
theorem stepIssues_singleton (file : FlowFile) (limits : Limits) (hmax : 1 ≤ limits.maxSteps)
    (flow : String) (template : Json) :
    file.stepIssues limits flow [template] =
      file.templateIssues (file.levelIssues limits limits.maxNesting 1) flow 0 template := by
  have hviolations : limits.violations flow 1 0 = [] :=
    (Limits.violations_eq_nil_iff _ _ _ _).mpr ⟨hmax, Nat.zero_le _⟩
  simp [stepIssues, levelIssues, hviolations]

/-- A step that runs no other steps has no issues but with its fields. -/
theorem templateIssues_leaf (file : FlowFile) (nested : String → List Json → List StepIssue)
    (flow : String) (index : Nat) {template : Json} {kind : Step.Kind}
    (hkind : Step.kind? template = some kind) (htry : kind ≠ .trySteps)
    (hcall : kind ≠ .runAction) :
    ∃ text, file.templateIssues nested flow index template =
      (lackingFields kind template).map (.noField flow index text ·) := by
  obtain ⟨text, htext, hname⟩ := Option.bind_eq_some_iff.mp hkind
  refine ⟨text, ?_⟩
  unfold templateIssues
  rw [htext]
  dsimp only
  rw [hname]
  cases kind with
  | trySteps => exact absurd rfl htry
  | runAction => exact absurd rfl hcall
  | _ => exact List.append_nil _

/-- Where a template without placeholders succeeds on some page and is not of a kind that runs other
steps, all that the check has to say about it is that fields are missing, and of each group of
fields that it misses the template gives one as false or as an empty list, or gives one that is
typed, compared or chosen as it is and holds blanks only. -/
theorem stepIssues_of_succeeds (file : FlowFile) (limits : Limits) (hmax : 1 ≤ limits.maxSteps)
    (flow : String) (template : Json) (hkeys : Template.keysIn template = [])
    (htry : Step.kind? template ≠ some .trySteps) (hcall : Step.kind? template ≠ some .runAction)
    (hsucceeds : Runner.Succeeds template) :
    ∀ issue ∈ file.stepIssues limits flow [template], ∃ text alternatives,
      issue = .noField flow 0 text alternatives ∧
        ∃ key ∈ alternatives, Step.Overlooked template key := by
  obtain ⟨w, kind, leaf, hkind, hread, hcheck⟩ := hsucceeds.exists_leaf hkeys htry hcall
  obtain ⟨text, hissues⟩ := file.templateIssues_leaf (file.levelIssues limits limits.maxNesting 1)
    flow 0 hkind (fun h => htry (h ▸ hkind)) (fun h => hcall (h ▸ hkind))
  rw [stepIssues_singleton file limits hmax, hissues]
  intro issue hissue
  obtain ⟨alternatives, hlacking, rfl⟩ := List.mem_map.mp hissue
  exact ⟨text, alternatives, rfl, Step.overlooked_of_lackingFields hread hcheck _ hlacking⟩

/-- A template whose step types the word for false. -/
def typesFalse : Json :=
  .object [("selector", .text "#a"), ("text", .bool false), ("type", .text "fill")]

/-- The word is typed where there is a field for it. -/
theorem typesFalse_succeeds : Runner.Succeeds typesFalse := by
  let page := { Page.opened "" with dom := Dom.empty.add 0 { tag := "input", id := some "a" } }
  let run := (Runner.onPage .brief .strict .lenient fun _ => none).run
    ⟨"type", [typesFalse], .empty, 300⟩
  have hok : (run.result page).isOk = true := by decide +kernel
  cases hrun : run.result page with
  | ok log => exact ⟨_, _, _, _, _, _, _, page, log, hrun⟩
  | error e =>
    rw [hrun] at hok
    exact absurd hok Bool.false_ne_true

/-- The check misses the text that is typed. -/
theorem stepIssues_typesFalse :
    let issues := FlowFile.stepIssues ⟨[]⟩ .strict "type" [typesFalse]
    issues = [.noField "type" 0 "fill" ["text"]] ∧ Runner.Succeeds typesFalse ∧
      ∀ issue ∈ issues, ∃ text alternatives, issue = .noField "type" 0 text alternatives ∧
        ∃ key ∈ alternatives, Step.Overlooked typesFalse key :=
  ⟨by decide +kernel, typesFalse_succeeds,
    stepIssues_of_succeeds ⟨[]⟩ .strict (by decide) "type" typesFalse (by decide +kernel)
      (by decide +kernel) (by decide +kernel) typesFalse_succeeds⟩

/-- So it is not so that the check has nothing to say about what succeeds. -/
theorem stepIssues_not_always_nil :
    ¬∀ (file : FlowFile) (limits : Limits) (flow : String) (template : Json),
      1 ≤ limits.maxSteps → Template.keysIn template = [] →
        Step.kind? template ≠ some .trySteps → Step.kind? template ≠ some .runAction →
          Runner.Succeeds template → file.stepIssues limits flow [template] = [] := by
  intro h
  have hnone := h ⟨[]⟩ .strict "type" typesFalse (by decide) (by decide +kernel)
    (by decide +kernel) (by decide +kernel) typesFalse_succeeds
  exact absurd hnone (by decide +kernel)

end FlowFile

end FlowPilot
