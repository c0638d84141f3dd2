import FlowPilot.Action.Fields
import FlowPilot.Flow.Validation
import FlowPilot.Proofs.Text.Blank

/-!
# What is present and what is read

The check of a flow file looks at templates as they stand, a step reads typed fields from them. Both
agree about what is given, with three exceptions: a list of blanks and a flag that says no count as
present, and a cell text that is false or an empty list does not, although it is read as a text.

## Main definitions

* `Step.Given`: a field that holds more than blanks.
* `Step.isHollow`: templates that have what the check demands in name only.
* `Step.Leaf.IsComplete`: steps that have every field without which they cannot start.

## Main statements

* `Step.Leaf.isComplete_of_ofFields`: a template that passes the check and is not hollow stands for
  a complete step.
* `Step.RunAction.exists_target`, `Step.TrySteps.branches`: the sequences that a step
  runs are those that the check looks at.
-/

namespace FlowPilot

open Text (isBlank isBlankText)

/-! ### Values as texts -/

namespace Binary64

theorem decimalText_not_blank (d : Nat) (k : Int) :
    ∃ c ∈ decimalText d k, isBlank c = false := by
  unfold decimalText
  dsimp only
  split
  · exact ⟨'.', by simp, by decide⟩
  split
  · exact ⟨'.', by simp, by decide⟩
  split
  · exact ⟨'.', by simp, by decide⟩
  · exact ⟨'e', by simp, by decide⟩

theorem toText_not_blank (x : Binary64) : ∃ c ∈ x.toText.toList, isBlank c = false := by
  cases x with
  | finite s m e =>
    by_cases hzero : m = 0
    · refine ⟨'0', ?_, by decide⟩
      cases s <;> simp [toText, hzero]
    · obtain ⟨c, hc, hblank⟩ :=
        decimalText_not_blank (Shortest.digits m e).1 (Shortest.digits m e).2
      refine ⟨c, ?_, hblank⟩
      cases s <;> simp [toText, hzero, hc]
  | infinite s => cases s <;> exact ⟨'n', by simp [toText], by decide⟩
  | undefined => exact ⟨'N', by simp [toText], by decide⟩

end Binary64

namespace Json

theorem toDigits_not_blank (n : Nat) : ∃ c ∈ Nat.toDigits 10 n, isBlank c = false := by
  obtain ⟨c, hc⟩ := List.exists_mem_of_ne_nil _ (Nat.toDigits_ne_nil (n := n) (b := 10))
  have hdigit := Nat.isDigit_of_mem_toDigits (by omega) (by omega) hc
  simp only [Char.isDigit, Bool.and_eq_true, decide_eq_true_eq, ge_iff_le,
    UInt32.le_iff_toNat_le] at hdigit
  have hlow : 48 ≤ c.toNat := hdigit.1
  have hhigh : c.toNat ≤ 57 := hdigit.2
  refine ⟨c, hc, ?_⟩
  simp only [isBlank, Bool.or_eq_false_iff, Bool.and_eq_false_iff, decide_eq_false_iff_not,
    beq_eq_false_iff_ne]
  omega

theorem number_not_blank (n : Number) : ∃ c ∈ n.toText.toList, isBlank c = false := by
  cases n with
  | int i =>
    cases i with
    | ofNat n =>
      simpa [Number.toText, Int.toString_eq_repr, Int.repr, Nat.repr_eq_ofList_toDigits]
        using toDigits_not_blank n
    | negSucc n =>
      exact ⟨'-', by simp [Number.toText, Int.toString_eq_repr, Int.repr], by decide⟩
  | real x => exact x.toText_not_blank

/-- The text of a value is not blank: it holds a digit, a letter, a quote or a bracket. -/
theorem isBlankText_compact (j : Json) : isBlankText j.compact = false := by
  refine Text.isBlankText_eq_false_iff.mpr ?_
  rw [compact, String.toList_ofList]
  cases j with
  | null => exact ⟨'n', by simp [compactChars], by decide⟩
  | bool b => cases b <;> exact ⟨'e', by simp [compactChars], by decide⟩
  | number n => exact number_not_blank n
  | text s => exact ⟨'"', by simp [compactChars, stringText], by decide⟩
  | array items => exact ⟨'[', by simp [compactChars], by decide⟩
  | object members => exact ⟨'\x7b', by simp [compactChars], by decide⟩

/-! ### Values that say something -/

/-- The members that a step reads its fields from. -/
abbrev fields (j : Json) : Members := (j.object?).getD []

/-- A value that says nothing. -/
def isBlankValue : Json → Bool
  | null => true
  | text s => isBlankText s
  | _ => false

/-- A value that says nothing where a list is read: no item says anything, nor does a single
value. -/
def isBlankList : Json → Bool
  | array items => items.all isBlankValue
  | j => j.isBlankValue

theorem get?_eq_lookup (j : Json) (key : String) : j.get? key = j.fields.lookup key := by
  cases j <;> rfl

theorem isSome_of_isPresent {j : Json} {key : String} (h : j.isPresent key = true) :
    (j.get? key).isSome := by
  unfold isPresent at h
  cases hvalue : j.get? key with
  | none =>
    rw [hvalue] at h
    exact absurd h Bool.false_ne_true
  | some value => rfl

/-- A list that is present is not empty. -/
theorem ne_nil_of_isPresent {j : Json} {key : String} {items : List Json}
    (h : j.isPresent key = true) (hitems : (j.get? key).bind array? = some items) :
    items ≠ [] := by
  obtain ⟨value, hvalue, harray⟩ := Option.bind_eq_some_iff.mp hitems
  rintro rfl
  cases value with
  | array items =>
    obtain rfl := Option.some.inj harray
    rw [isPresent, hvalue] at h
    exact absurd h Bool.false_ne_true
  | _ => cases harray

/-- What is present says something, unless it is a list. -/
theorem not_blank_of_isPresent {j : Json} {key : String} (h : j.isPresent key = true) :
    (j.get? key).all isBlankValue = false := by
  unfold isPresent at h
  cases hvalue : j.get? key with
  | none =>
    rw [hvalue] at h
    exact absurd h Bool.false_ne_true
  | some value =>
    rw [hvalue] at h
    cases value with
    | null => exact absurd h Bool.false_ne_true
    | text s => simpa [isBlankValue] using h
    | _ => rfl

end Json

namespace Step

/-! ### What a step reads from a field that says something -/

theorem valueText?_of_not_blank {j : Json} (h : j.isBlankValue = false) :
    ∃ s, valueText? j = some s ∧ isBlankText s = false := by
  cases j with
  | null => exact absurd h Bool.noConfusion
  | text s => exact ⟨s, rfl, h⟩
  | _ => exact ⟨_, rfl, Json.isBlankText_compact _⟩

/-- A field that holds more than blanks. -/
def Given (field : Option String) : Prop := ∃ s, field = some s ∧ isBlankText s = false

section Fields

variable {template : Json} {key : String}

theorem exists_lookup_of_all {p : Json → Bool} (h : (template.get? key).all p = false) :
    ∃ value, template.fields.lookup key = some value ∧ p value = false := by
  rw [Json.get?_eq_lookup] at h
  cases hvalue : template.fields.lookup key with
  | none => simp [hvalue] at h
  | some value => exact ⟨value, rfl, by simpa [hvalue] using h⟩

theorem given_anyText (h : (template.get? key).all Json.isBlankValue = false) :
    Given (anyText template.fields key) := by
  obtain ⟨value, hvalue, hblank⟩ := exists_lookup_of_all h
  obtain ⟨s, hs, hnot⟩ := valueText?_of_not_blank hblank
  exact ⟨s, by rw [anyText, hvalue, Option.bind_some, hs], hnot⟩

/-- A field that must be a text is that text. -/
theorem bind_text?_of_plainText {m : Json.Members} {field : Option String}
    (h : plainText m key = .ok field) : (m.lookup key).bind Json.text? = field := by
  unfold plainText at h
  cases hvalue : m.lookup key with
  | none =>
    rw [hvalue] at h
    exact Except.ok.inj h
  | some value =>
    rw [hvalue] at h
    cases value with
    | null => exact Except.ok.inj h
    | text s => exact Except.ok.inj h
    | _ => cases h

theorem given_plainText (h : (template.get? key).all Json.isBlankValue = false)
    {field : Option String} (hread : plainText template.fields key = .ok field) : Given field := by
  obtain ⟨value, hvalue, hblank⟩ := exists_lookup_of_all h
  have hfield := bind_text?_of_plainText hread
  rw [plainText, hvalue] at hread
  rw [hvalue, Option.bind_some] at hfield
  cases value with
  | text s => exact ⟨s, hfield.symm, hblank⟩
  | null => exact absurd hblank Bool.noConfusion
  | _ => cases hread

theorem cleaned_ne_nil {items : List String} {s : String} (hmem : s ∈ items)
    (hblank : isBlankText s = false) : Action.cleaned items ≠ [] := by
  have h : Text.trim s ∈ Action.cleaned items :=
    List.mem_filterMap.mpr ⟨s, hmem, Text.trimmed?_of_not_blank hblank⟩
  exact List.ne_nil_of_mem h

theorem cleaned_textList_ne_nil (h : (template.get? key).all Json.isBlankList = false) :
    Action.cleaned (textList template.fields key) ≠ [] := by
  obtain ⟨value, hvalue, hblank⟩ := exists_lookup_of_all h
  have hsingle (hnot : value.isBlankValue = false)
      (hlist : textList template.fields key = (valueText? value).toList) :
      Action.cleaned (textList template.fields key) ≠ [] := by
    obtain ⟨s, hs, hsays⟩ := valueText?_of_not_blank hnot
    exact cleaned_ne_nil (s := s) (by simp [hlist, hs]) hsays
  cases value with
  | array items =>
    obtain ⟨item, hitem, hsays⟩ : ∃ item ∈ items, item.isBlankValue = false := by
      simpa [Json.isBlankList] using hblank
    obtain ⟨s, hs, hnot⟩ := valueText?_of_not_blank hsays
    refine cleaned_ne_nil (s := s) ?_ hnot
    rw [textList, hvalue]
    exact List.mem_filterMap.mpr ⟨item, hitem, hs⟩
  | _ => exact hsingle hblank (by rw [textList, hvalue])

end Fields

/-! ### Templates that pass the check -/

/-- The kind of a template, if it names one that there is. -/
def kind? (template : Json) : Option Kind := (kindText? template).bind Kind.ofName?

/-- A field that says nothing to its step, given or not: a flag that says no, a list without an item
that says anything, or a blank. -/
def isSilent (template : Json) (key : String) : Bool :=
  if key = "fallbackClick" then !flag template.fields key
  else if ["selectors", "actionSelectors", "toggleSelectors"].contains key then
    (template.get? key).all Json.isBlankList
  else (template.get? key).all Json.isBlankValue

/-- A template that looks for a cell by a text that does not count as present, which is what false
and the empty list are, and that gives no index. -/
def seeksStrayCell (template : Json) : Bool :=
  !template.isPresent "cellText"
    && (anyText template.fields "cellText").any (!isBlankText ·)
    && (anyText template.fields "cellIndex").all isBlankText

/-- A template that meets a demand of its kind in name only: a field is present, and none says
anything. Or one that looks for a cell by a text that the check does not count. -/
def isHollow (template : Json) : Bool :=
  match kind? template with
  | none => false
  | some kind =>
    kind.required.any (fun alternatives =>
        alternatives.any template.isPresent && alternatives.all (isSilent template))
      || (kind == .clickTableCellLink && seeksStrayCell template)

/-- A step that has every field without which it cannot start. A step that demands conditions of the
page fails in a way of its own when it has none. -/
def Leaf.IsComplete : Leaf → Prop
  | goto s => Given s.url
  | click s => Given s.selector
  | clickAny s => Action.cleaned s.selectors ≠ []
  | fill s => Given s.selector ∧ Given s.text
  | select s => Given s.selector ∧ (Given s.value ∨ Given s.label ∨ Given s.text)
  | waitForSelector s => Given s.selector
  | waitForUrl s => Given s.url ∨ Given s.pattern
  | expectText s => Given s.selector ∧ Given s.text
  | press s => Given s.selector ∧ Given s.key
  | assertOnPage _ => True
  | clickRowAction s =>
    Given s.table ∧ Given s.rowText
      ∧ (Action.cleaned s.actionSelectors ≠ [] ∨ s.fallbackClick = true)
  | clickTableCellLink s =>
    Given s.table ∧ (Given s.rowText ∨ Given s.cellText) ∧ (Given s.cellText → Given s.cellIndex)
  | ensureSidebarOpen s =>
    Given s.selector ∧ Action.cleaned (s.toggleSelector.toList ++ s.toggleSelectors) ≠ []

section Complete

variable {template : Json} {kind : Kind}

/-- A template passes the check of its fields, and not in name only. -/
structure Passes (kind : Kind) (template : Json) : Prop where
  lacking : FlowFile.lackingFields kind template = []
  kind_eq : kind? template = some kind
  solid : isHollow template = false

/-- Of each demand one field is present. -/
theorem Passes.any_isPresent (h : Passes kind template) (alternatives : List String)
    (hmem : alternatives ∈ kind.required) : alternatives.any template.isPresent = true := by
  have hnone := (List.append_eq_nil_iff.mp h.lacking).1
  simpa using List.filter_eq_nil_iff.mp hnone alternatives hmem

/-- Of each demand one field says something. -/
theorem Passes.demand (h : Passes kind template) (alternatives : List String)
    (hmem : alternatives ∈ kind.required) :
    ∃ key ∈ alternatives, isSilent template key = false := by
  have hsolid := h.solid
  rw [isHollow, h.kind_eq] at hsolid
  have hgroup := List.any_eq_false.mp (Bool.or_eq_false_iff.mp hsolid).1 alternatives hmem
  simpa [h.any_isPresent alternatives hmem] using hgroup

/-- Of two fields that stand for each other one says something. -/
theorem Passes.either (h : Passes kind template) (key key' : String)
    (hmem : [key, key'] ∈ kind.required) :
    isSilent template key = false ∨ isSilent template key' = false := by
  simpa using h.demand [key, key'] hmem

theorem Passes.present (h : Passes kind template) {key : String} (hmem : [key] ∈ kind.required) :
    template.isPresent key = true := by
  simpa using h.any_isPresent [key] hmem

theorem Passes.given_anyText (h : Passes kind template) {key : String}
    (hmem : [key] ∈ kind.required) : Given (anyText template.fields key) :=
  Step.given_anyText (Json.not_blank_of_isPresent (h.present hmem))

theorem Passes.given_plainText (h : Passes kind template) {key : String} {field : Option String}
    (hread : plainText template.fields key = .ok field)
    (hmem : [key] ∈ kind.required) : Given field :=
  Step.given_plainText (Json.not_blank_of_isPresent (h.present hmem)) hread

/-- A cell that is looked for by its text has an index. -/
theorem Passes.given_cellIndex (h : Passes .clickTableCellLink template)
    (hcell : Given (anyText template.fields "cellText")) :
    Given (anyText template.fields "cellIndex") := by
  cases hpresent : template.isPresent "cellText" with
  | true =>
    refine Step.given_anyText (Json.not_blank_of_isPresent ?_)
    have hindex := (List.append_eq_nil_iff.mp h.lacking).2
    simpa [hpresent] using hindex
  | false =>
    obtain ⟨s, hs, hblank⟩ := hcell
    have hsolid := h.solid
    rw [isHollow, h.kind_eq] at hsolid
    have hindex : (anyText template.fields "cellIndex").all isBlankText = false := by
      simpa [seeksStrayCell, hpresent, hs, hblank] using (Bool.or_eq_false_iff.mp hsolid).2
    cases hfield : anyText template.fields "cellIndex" with
    | none => simp [hfield] at hindex
    | some t => exact ⟨t, rfl, by simpa [hfield] using hindex⟩

theorem exists_of_bind_eq_ok {ε α β : Type} {x : Except ε α} {f : α → Except ε β} {b : β}
    (h : (x >>= f) = .ok b) : ∃ a, x = .ok a ∧ f a = .ok b := by
  cases x with
  | error e => cases h
  | ok a => exact ⟨a, rfl, h⟩

/-- A step is of the kind that its template names. -/
theorem kind_of_ofFields {m : Json.Members} {step : Step} (h : ofFields kind m = .ok step) :
    step.kind = kind := by
  cases kind
  all_goals
    simp only [ofFields, bind, Except.bind, pure, Except.pure] at h
    (repeat' split at h) <;> cases h
    rfl

/-- A step declares the time that its template gives, unless it runs another flow. -/
theorem timeout_of_ofFields {m : Json.Members} {step : Step} (h : ofFields kind m = .ok step) :
    step.timeout = if kind = .runAction then none else time m "timeout" := by
  cases kind
  all_goals
    simp only [ofFields, bind, Except.bind, pure, Except.pure] at h
    (repeat' split at h) <;> cases h
    rfl

/-- A template that passes the check stands for a complete step. -/
theorem Leaf.isComplete_of_ofFields (h : Passes kind template) {s : Leaf}
    (hread : ofFields kind template.fields = .ok (.leaf s)) : s.IsComplete := by
  -- A field of a complete step is the one that the check found present, read as a text.
  cases kind with
  | goto =>
    obtain ⟨_, -, hstep⟩ := exists_of_bind_eq_ok hread
    cases hstep
    exact h.given_anyText (by decide)
  | click =>
    obtain ⟨_, hselector, hstep⟩ := exists_of_bind_eq_ok hread
    cases hstep
    exact h.given_plainText hselector (by decide)
  | clickAny =>
    cases hread
    obtain ⟨_, hkey, hsays⟩ := h.demand ["selectors"] (by decide)
    rw [List.mem_singleton.mp hkey] at hsays
    exact cleaned_textList_ne_nil (by simpa [isSilent] using hsays)
  | fill | expectText | press =>
    obtain ⟨_, hselector, hstep⟩ := exists_of_bind_eq_ok hread
    cases hstep
    exact ⟨h.given_plainText hselector (by decide), h.given_anyText (by decide)⟩
  | select =>
    obtain ⟨_, hselector, hstep⟩ := exists_of_bind_eq_ok hread
    cases hstep
    refine ⟨h.given_plainText hselector (by decide), ?_⟩
    obtain ⟨_, hkey, hsays⟩ := h.demand ["value", "label", "text"] (by decide)
    simp only [List.mem_cons, List.not_mem_nil, or_false] at hkey
    rcases hkey with rfl | rfl | rfl
    · exact .inl (Step.given_anyText (by simpa [isSilent] using hsays))
    · exact .inr (.inl (Step.given_anyText (by simpa [isSilent] using hsays)))
    · exact .inr (.inr (Step.given_anyText (by simpa [isSilent] using hsays)))
  | waitForSelector =>
    obtain ⟨_, hselector, hstep⟩ := exists_of_bind_eq_ok hread
    obtain ⟨_, -, hstep⟩ := exists_of_bind_eq_ok hstep
    cases hstep
    exact h.given_plainText hselector (by decide)
  | waitForUrl =>
    obtain ⟨_, hpattern, hstep⟩ := exists_of_bind_eq_ok hread
    cases hstep
    refine (h.either "url" "pattern" (by decide)).imp (fun hsays => ?_) fun hsays => ?_
    · exact Step.given_anyText (by simpa [isSilent] using hsays)
    · exact Step.given_plainText (by simpa [isSilent] using hsays) hpattern
  | assertOnPage =>
    obtain ⟨_, -, hstep⟩ := exists_of_bind_eq_ok hread
    obtain ⟨_, -, hstep⟩ := exists_of_bind_eq_ok hstep
    cases hstep
    -- No single field is missing here; that there is no condition at all is another fault.
    trivial
  | clickRowAction =>
    obtain ⟨_, htable, hstep⟩ := exists_of_bind_eq_ok hread
    cases hstep
    refine ⟨h.given_plainText htable (by decide), h.given_anyText (by decide), ?_⟩
    have hdemand := h.either "actionSelectors" "fallbackClick" (by decide)
    refine hdemand.imp (fun hsays => ?_) fun hsays => ?_
    · exact cleaned_textList_ne_nil (by simpa [isSilent] using hsays)
    · simpa [isSilent] using hsays
  | clickTableCellLink =>
    obtain ⟨_, -, hstep⟩ := exists_of_bind_eq_ok hread
    obtain ⟨_, htable, hstep⟩ := exists_of_bind_eq_ok hstep
    cases hstep
    refine ⟨h.given_plainText htable (by decide), ?_, h.given_cellIndex⟩
    refine (h.either "rowText" "cellText" (by decide)).imp (fun hsays => ?_) fun hsays => ?_
    · exact Step.given_anyText (by simpa [isSilent] using hsays)
    · exact Step.given_anyText (by simpa [isSilent] using hsays)
  | ensureSidebarOpen =>
    obtain ⟨_, hselector, hstep⟩ := exists_of_bind_eq_ok hread
    obtain ⟨toggleSelector, htoggle, hstep⟩ := exists_of_bind_eq_ok hstep
    cases hstep
    refine ⟨h.given_plainText hselector (by decide), ?_⟩
    have hdemand := h.either "toggleSelector" "toggleSelectors" (by decide)
    rcases hdemand with hsays | hsays
    · obtain ⟨s, rfl, hblank⟩ := Step.given_plainText (by simpa [isSilent] using hsays) htoggle
      exact cleaned_ne_nil (s := s) (by simp) hblank
    · rw [Action.cleaned, List.filterMap_append]
      refine List.append_ne_nil_of_right_ne_nil _ (cleaned_textList_ne_nil ?_)
      simpa [isSilent] using hsays
  | trySteps | runAction => cases s <;> cases kind_of_ofFields hread

/-- A step that runs a flow has one to run, which is the one that the check looked for. -/
theorem RunAction.exists_target (h : Passes .runAction template) {s : RunAction}
    (hread : ofFields .runAction template.fields = .ok (.runAction s)) :
    ∃ name, s.target = some name ∧ FlowFile.calledFlow template = some name := by
  obtain ⟨action, haction, hstep⟩ := exists_of_bind_eq_ok hread
  obtain ⟨actionName, hactionName, hstep⟩ := exists_of_bind_eq_ok hstep
  obtain ⟨name, hname, hstep⟩ := exists_of_bind_eq_ok hstep
  obtain ⟨vars, -, hstep⟩ := exists_of_bind_eq_ok hstep
  cases hstep
  have hcalled : FlowFile.calledFlow template =
      ([actionName, action, name].filterMap id).find? fun name => !isBlankText name := by
    simp only [FlowFile.calledFlow, Json.get?_eq_lookup, List.filterMap_cons, List.filterMap_nil,
      bind_text?_of_plainText haction, bind_text?_of_plainText hactionName,
      bind_text?_of_plainText hname, id]
  -- One of the three names is present, so the first one that is not blank exists; it need not be
  -- the one that was found present.
  obtain ⟨_, hkey, hsays⟩ := h.demand ["actionName", "action", "name"] (by decide)
  obtain ⟨flow, hflow, hblank⟩ : ∃ flow, some flow ∈ [actionName, action, name] ∧
      isBlankText flow = false := by
    simp only [List.mem_cons, List.not_mem_nil, or_false] at hkey
    rcases hkey with rfl | rfl | rfl
    · have hgiven := Step.given_plainText (by simpa [isSilent] using hsays) hactionName
      obtain ⟨flow, rfl, hblank⟩ := hgiven
      exact ⟨flow, by simp, hblank⟩
    · have hgiven := Step.given_plainText (by simpa [isSilent] using hsays) haction
      obtain ⟨flow, rfl, hblank⟩ := hgiven
      exact ⟨flow, by simp, hblank⟩
    · have hgiven := Step.given_plainText (by simpa [isSilent] using hsays) hname
      obtain ⟨flow, rfl, hblank⟩ := hgiven
      exact ⟨flow, by simp, hblank⟩
  have hfound : (([actionName, action, name].filterMap id).find?
      fun name => !isBlankText name).isSome = true :=
    List.find?_isSome.mpr
      ⟨flow, List.mem_filterMap.mpr ⟨some flow, hflow, rfl⟩, by simpa using hblank⟩
  obtain ⟨target, htarget⟩ := Option.isSome_iff_exists.mp hfound
  exact ⟨target, htarget, hcalled.trans htarget⟩

theorem array?_of_templates {key : String} {steps : List Json}
    (h : (template.get? key).isSome) (hread : templates template.fields key = .ok steps) :
    (template.get? key).bind Json.array? = some steps := by
  obtain ⟨value, hvalue⟩ := Option.isSome_iff_exists.mp h
  rw [Json.get?_eq_lookup] at hvalue ⊢
  rw [templates, hvalue] at hread
  rw [hvalue]
  cases value with
  | array items => exact congrArg some (Except.ok.inj hread)
  | _ => cases hread

/-- A step that tries sequences tries the lists that its template gives, if it gives anything. -/
theorem TrySteps.branches (hsteps : (template.get? "steps").isSome)
    (hfallback : (template.get? "fallbackSteps").isSome) {s : TrySteps}
    (hread : ofFields .trySteps template.fields = .ok (.trySteps s)) :
    (template.get? "steps").bind Json.array? = some s.steps ∧
      (template.get? "fallbackSteps").bind Json.array? = some s.fallbackSteps := by
  obtain ⟨fallbackSteps, hsecond, hstep⟩ := exists_of_bind_eq_ok hread
  obtain ⟨steps, hfirst, hstep⟩ := exists_of_bind_eq_ok hstep
  cases hstep
  exact ⟨array?_of_templates hsteps hfirst, array?_of_templates hfallback hsecond⟩

/-- A template of a known kind fails to be read only for a field of a wrong form. -/
theorem ofJson_of_kind? (w : Wording) (h : kind? template = some kind) :
    (∃ step, ofJson w template = .ok step ∧ ofFields kind template.fields = .ok step) ∨
      ∃ text detail, ofJson w template = .error (.config (.malformedStep text detail)) := by
  obtain ⟨text, htext, hkind⟩ := Option.bind_eq_some_iff.mp h
  cases hread : ofFields kind template.fields with
  | ok step => exact .inl ⟨step, by simp [ofJson, htext, hkind, hread], rfl⟩
  | error field => exact .inr ⟨_, _, by simp [ofJson, htext, hkind, hread]; rfl⟩

/-- A template that stands for a step names its kind. -/
theorem kind?_of_ofJson {w : Wording} {step : Step} (h : ofJson w template = .ok step) :
    kind? template = some step.kind := by
  unfold ofJson at h
  split at h
  · cases h
  rename_i text htext
  split at h
  · cases h
  rename_i kind hkind
  split at h
  · rename_i hread
    cases h
    rw [kind?, htext, Option.bind_some, hkind, kind_of_ofFields hread]
  · cases h

end Complete

end Step

end FlowPilot
