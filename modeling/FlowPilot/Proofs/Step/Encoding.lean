import FlowPilot.Proofs.Json.Sorted
import FlowPilot.Proofs.Step.Placeholder
import FlowPilot.Proofs.Step.Presence
import FlowPilot.Step.Encode

/-!
# Steps that are written and read again

A step writes every field in the form that it is meant to have: texts as texts, lists as lists,
flags as flags, and null for what it does not have. Fields are read from other forms too, but those
written like this are read as they are. So whatever forms the fields of a template have, the step
that it stands for is the one that its own template stands for.

Times and widths are left aside here, because they are rounded when they are read.

## Main definitions

* `Step.minWidth`: the width that a step declares.
* `Json.Lacks`: an object without a member.
* `Step.IsWrittenIn`: members that hold all that a step writes.

## Main statements

* `Json.lookup_sortMembers`: members with different keys keep their values when they are sorted.
* `Step.ofFields_of_isWrittenIn`: the fields of a step are read as they were written.
* `Step.ofJson_rewritten`: a step that was read is read again from what it writes.
-/

namespace FlowPilot

/-! ### Members of objects -/

namespace Json

/-- Members with different keys keep their values when they are sorted. -/
theorem lookup_sortMembers {members : Members} {key : String} {value : Json}
    (hkeys : (members.map Prod.fst).Nodup) (hmem : (key, value) ∈ members) :
    (sortMembers members).lookup key = some value := by
  -- the members are set one after the other, so the last one is split off
  induction members using List.reverseRecOn with
  | nil => exact absurd hmem List.not_mem_nil
  | append_singleton rest last ih =>
    rw [List.map_append, List.nodup_append] at hkeys
    obtain ⟨hrest, -, hlast⟩ := hkeys
    rw [sortMembers, List.foldl_append, List.foldl_cons, List.foldl_nil]
    rcases List.mem_append.mp hmem with hmem | hmem
    · have hne : key ≠ last.1 :=
        hlast key (List.mem_map_of_mem hmem) last.1 (List.mem_singleton.mpr rfl)
      rw [lookup_insertMember_of_ne hne]
      exact ih hrest hmem
    · obtain rfl := List.mem_singleton.mp hmem
      exact lookup_insertMember_self _ _ _

theorem mem_of_mem_sortMembers {members : Members} {m : String × Json}
    (h : m ∈ sortMembers members) : m ∈ members := by
  induction members using List.reverseRecOn with
  | nil => exact h
  | append_singleton rest last ih =>
    rw [sortMembers, List.foldl_append, List.foldl_cons, List.foldl_nil] at h
    rcases mem_insertMember h with rfl | h
    · exact List.mem_append_right _ List.mem_cons_self
    · exact List.mem_append_left _ (ih h)

theorem mem_of_lookup_sortMembers {members : Members} {key : String} {value : Json}
    (h : (sortMembers members).lookup key = some value) : (key, value) ∈ members := by
  obtain ⟨before, after, hsorted, -⟩ := List.lookup_eq_some_iff.mp h
  refine mem_of_mem_sortMembers ?_
  rw [hsorted]
  exact List.mem_append_right _ List.mem_cons_self

/-- A member that is absent or null. -/
def Lacks (j : Json) (key : String) : Prop := j.get? key = none ∨ j.get? key = some .null

end Json

namespace Step

open Json (orNull texts)

/-! ### Names of fixed lists -/

theorem Kind.ofName?_name (kind : Kind) : Kind.ofName? kind.name = some kind := by
  cases kind <;> decide +kernel

theorem Kind.name_not_blank (kind : Kind) : Text.isBlankText kind.name = false := by
  cases kind <;> decide +kernel

end Step

theorem LoadState.ofName?_name (state : LoadState) : ofName? state.name = some state := by
  cases state <;> decide +kernel

theorem ElementState.ofName?_name (state : ElementState) : ofName? state.name = some state := by
  cases state <;> decide +kernel

namespace Step

open Json (orNull texts)

/-! ### Fields that are read as they were written -/

section Fields

variable {m : Json.Members} {key : String}

theorem plainText_of_written {field : Option String}
    (h : m.lookup key = some (orNull .text field)) : plainText m key = .ok field := by
  rw [plainText, h]
  cases field <;> rfl

theorem anyText_of_written {field : Option String}
    (h : m.lookup key = some (orNull .text field)) : anyText m key = field := by
  rw [anyText, h]
  cases field <;> rfl

theorem textList_of_written {items : List String} (h : m.lookup key = some (texts items)) :
    textList m key = items := by
  have hsame : (items.map Json.text).filterMap valueText? = items := by
    rw [List.filterMap_map]
    exact List.filterMap_some
  rw [textList, h]
  exact hsame

theorem flag_of_written {value : Bool} (h : m.lookup key = some (.bool value)) :
    flag m key = value := by
  rw [flag, h]

theorem choice_of_written {α : Type} {ofName? : String → Option α} {name : α → String}
    (hname : ∀ a, ofName? (name a) = some a) {field : Option α}
    (h : m.lookup key = some (orNull (fun a => .text (name a)) field)) :
    choice ofName? m key = .ok field := by
  rw [choice, h]
  cases field with
  | none => rfl
  | some a => simp [orNull, Json.optional?, tagged?, Json.tag?, hname, demand]

theorem templates_of_written {steps : List Json} (h : m.lookup key = some (.array steps)) :
    templates m key = .ok steps := by
  rw [templates, h]
  rfl

theorem objectMembers_of_written {members : Json.Members}
    (h : m.lookup key = some (.object members)) : objectMembers m key = .ok members := by
  rw [objectMembers, h]
  rfl

theorem real_of_null (h : m.lookup key = none ∨ m.lookup key = some .null) :
    real m key = none := by
  rw [real]
  rcases h with h | h <;> rw [h] <;> rfl

theorem time_of_null (h : m.lookup key = none ∨ m.lookup key = some .null) :
    time m key = none := by
  rw [time, real_of_null h]
  rfl

end Fields

/-! ### Steps that are read as they were written -/

/-- The width that a step declares. -/
def minWidth : Step → Option Binary64
  | leaf (.ensureSidebarOpen s) => s.minWidth
  | _ => none

/-- Members that hold all that a step writes. -/
def IsWrittenIn (s : Step) (m : Json.Members) : Prop :=
  ∀ member ∈ s.members, m.lookup member.1 = some member.2

/-- The fields of a step are read as they were written, if its time and its width are. -/
theorem ofFields_of_isWrittenIn {s : Step} {m : Json.Members} (hm : s.IsWrittenIn m)
    (htime : time m "timeout" = s.timeout) (hwidth : real m "minWidth" = s.minWidth) :
    ofFields s.kind m = .ok s := by
  unfold IsWrittenIn at hm
  -- Each kind reads the members in the order in which it writes them.
  cases s with
  | leaf s =>
    cases s
    all_goals
      simp only [members, Leaf.members, List.cons_append, List.nil_append,
        List.forall_mem_cons] at hm
    case goto s =>
      obtain ⟨hurl, hwait, -⟩ := hm
      simp only [kind, Leaf.kind, ofFields, anyText_of_written hurl, htime,
        choice_of_written LoadState.ofName?_name hwait]
      rfl
    case click s =>
      simp only [kind, Leaf.kind, ofFields, plainText_of_written hm.1, htime]
      rfl
    case clickAny s =>
      obtain ⟨hselectors, hlog, -⟩ := hm
      simp only [kind, Leaf.kind, ofFields, textList_of_written hselectors, flag_of_written hlog,
        htime]
      rfl
    case fill s =>
      obtain ⟨hselector, htext, -⟩ := hm
      simp only [kind, Leaf.kind, ofFields, plainText_of_written hselector,
        anyText_of_written htext, htime]
      rfl
    case select s =>
      obtain ⟨hselector, hvalue, hlabel, htext, -⟩ := hm
      simp only [kind, Leaf.kind, ofFields, plainText_of_written hselector,
        anyText_of_written hvalue, anyText_of_written hlabel, anyText_of_written htext, htime]
      rfl
    case waitForSelector s =>
      obtain ⟨hselector, hstate, -⟩ := hm
      simp only [kind, Leaf.kind, ofFields, plainText_of_written hselector, htime,
        choice_of_written ElementState.ofName?_name hstate]
      rfl
    case waitForUrl s =>
      obtain ⟨hurl, hpattern, -⟩ := hm
      simp only [kind, Leaf.kind, ofFields, anyText_of_written hurl,
        plainText_of_written hpattern, htime]
      rfl
    case expectText s =>
      obtain ⟨hselector, htext, -⟩ := hm
      simp only [kind, Leaf.kind, ofFields, plainText_of_written hselector,
        anyText_of_written htext, htime]
      rfl
    case press s =>
      obtain ⟨hselector, hkey, -⟩ := hm
      simp only [kind, Leaf.kind, ofFields, plainText_of_written hselector,
        anyText_of_written hkey, htime]
      rfl
    case assertOnPage s =>
      obtain ⟨hpattern, hselector, htext, -⟩ := hm
      simp only [kind, Leaf.kind, ofFields, plainText_of_written hpattern,
        plainText_of_written hselector, textList_of_written htext, htime]
      rfl
    case clickRowAction s =>
      obtain ⟨htable, hrow, haction, hfallback, hlog, -⟩ := hm
      simp only [kind, Leaf.kind, ofFields, plainText_of_written htable, anyText_of_written hrow,
        textList_of_written haction, flag_of_written hfallback, flag_of_written hlog, htime]
      rfl
    case clickTableCellLink s =>
      obtain ⟨htable, hrow, hcell, hindex, hmatch, htarget, hlink, hfallback, hlog, -⟩ := hm
      simp only [kind, Leaf.kind, ofFields, plainText_of_written htable, anyText_of_written hrow,
        anyText_of_written hcell, anyText_of_written hindex, plainText_of_written hmatch,
        textList_of_written htarget, textList_of_written hlink, flag_of_written hfallback,
        flag_of_written hlog, htime]
      rfl
    case ensureSidebarOpen s =>
      obtain ⟨hselector, htoggle, htoggles, -⟩ := hm
      simp only [kind, Leaf.kind, ofFields, plainText_of_written hselector,
        plainText_of_written htoggle, textList_of_written htoggles, htime, hwidth]
      rfl
  | trySteps s =>
    simp only [members, List.forall_mem_cons] at hm
    obtain ⟨hsteps, hfallback, -⟩ := hm
    simp only [kind, ofFields, templates_of_written hsteps, templates_of_written hfallback, htime]
    rfl
  | runAction s =>
    simp only [members, List.forall_mem_cons] at hm
    obtain ⟨haction, hname, hother, hvars, -⟩ := hm
    simp only [kind, ofFields, plainText_of_written haction, plainText_of_written hname,
      plainText_of_written hother, objectMembers_of_written hvars]
    rfl

/-- No two members of a step have the same key. -/
theorem nodup_keys_members (s : Step) :
    ((("type", .text s.kind.name) :: s.members : Json.Members).map Prod.fst).Nodup := by
  cases s with
  | leaf s => cases s <;> simp [members, Leaf.members]
  | trySteps s => simp [members]
  | runAction s => simp [members]

theorem isWrittenIn_toJson (s : Step) :
    s.IsWrittenIn (Json.sortMembers (("type", .text s.kind.name) :: s.members)) :=
  fun _ hmember => Json.lookup_sortMembers s.nodup_keys_members (List.mem_cons_of_mem _ hmember)

/-- What a step writes stands for the step, if its time and its width are read as they are. -/
theorem ofJson_toJson (w : Wording) {s : Step}
    (htime : time (s.toJson.object?.getD []) "timeout" = s.timeout)
    (hwidth : real (s.toJson.object?.getD []) "minWidth" = s.minWidth) :
    ofJson w s.toJson = .ok s := by
  have htype : s.toJson.get? "type" = some (.text s.kind.name) :=
    Json.lookup_sortMembers s.nodup_keys_members List.mem_cons_self
  have hkind : kindText? s.toJson = some s.kind.name := by
    simp [kindText?, htype, Json.text?, Kind.name_not_blank]
  have hfields : ofFields s.kind (s.toJson.object?.getD []) = .ok s :=
    ofFields_of_isWrittenIn s.isWrittenIn_toJson htime hwidth
  simp only [ofJson, hkind, Kind.ofName?_name, hfields]

/-! ### Steps without times and widths -/

section Numbers

variable {s : Step} {value : Json}

theorem eq_null_of_timeout (h : s.timeout = none)
    (hmem : ("timeout", value) ∈ ("type", .text s.kind.name) :: s.members) : value = .null := by
  cases s with
  | leaf s =>
    change s.timeout = none at h
    cases s <;> simp_all [members, Leaf.members, orNull]
  | trySteps s =>
    change s.timeout = none at h
    simpa [members, orNull, h] using hmem
  | runAction s => simp [members] at hmem

theorem eq_null_of_minWidth (h : s.minWidth = none)
    (hmem : ("minWidth", value) ∈ ("type", .text s.kind.name) :: s.members) : value = .null := by
  cases s with
  | leaf s => cases s <;> simp_all [members, Leaf.members, minWidth, orNull]
  | trySteps s => simp [members] at hmem
  | runAction s => simp [members] at hmem

/-- A member that can only be null is absent or null. -/
theorem lacks_toJson {key : String}
    (h : ∀ {value}, (key, value) ∈ ("type", .text s.kind.name) :: s.members → value = .null) :
    s.toJson.Lacks key := by
  cases hlookup : s.toJson.get? key with
  | none => exact .inl hlookup
  | some value =>
    obtain rfl : value = .null := h (Json.mem_of_lookup_sortMembers hlookup)
    exact .inr hlookup

end Numbers

theorem real_of_lacks {j : Json} {key : String} (h : j.Lacks key) : real j.fields key = none :=
  real_of_null (by rwa [Json.Lacks, Json.get?_eq_lookup] at h)

theorem time_of_lacks {j : Json} {key : String} (h : j.Lacks key) : time j.fields key = none :=
  time_of_null (by rwa [Json.Lacks, Json.get?_eq_lookup] at h)

/-- A step without time and width is read from what it writes. -/
theorem ofJson_toJson_of_none (w : Wording) {s : Step} (htimeout : s.timeout = none)
    (hwidth : s.minWidth = none) : ofJson w s.toJson = .ok s := by
  refine ofJson_toJson w ?_ ?_
  · rw [htimeout]
    exact time_of_lacks (lacks_toJson (eq_null_of_timeout htimeout))
  · rw [hwidth]
    exact real_of_lacks (lacks_toJson (eq_null_of_minWidth hwidth))

section Read

variable {w : Wording} {template : Json} {step : Step}

/-- Only side bars have a width, and it is the one that their template gives. -/
theorem minWidth_of_ofFields {kind : Kind} {m : Json.Members} (h : ofFields kind m = .ok step) :
    step.minWidth = if kind = .ensureSidebarOpen then real m "minWidth" else none := by
  cases kind
  all_goals
    simp only [ofFields, bind, Except.bind, pure, Except.pure] at h
    (repeat' split at h) <;> cases h
    rfl

theorem ofFields_of_ofJson (h : ofJson w template = .ok step) :
    ofFields step.kind template.fields = .ok step := by
  rcases ofJson_of_kind? w (kind?_of_ofJson h) with ⟨_, hread, hfields⟩ | ⟨_, _, hread⟩
  · obtain rfl := Except.ok.inj (h.symm.trans hread)
    exact hfields
  · cases h.symm.trans hread

/-- A step that was read from a template without time and width, whatever forms the other fields
had, is read again from what it writes. -/
theorem ofJson_rewritten (hread : ofJson w template = .ok step)
    (htimeout : template.Lacks "timeout") (hwidth : template.Lacks "minWidth") :
    ofJson w step.toJson = .ok step := by
  have hfields := ofFields_of_ofJson hread
  refine ofJson_toJson_of_none w ?_ ?_
  · rw [timeout_of_ofFields hfields, time_of_lacks htimeout, ite_self]
  · rw [minWidth_of_ofFields hfields, real_of_lacks hwidth, ite_self]

/-- The law at a step whose index is a number, whose links are a single text and whose flags are a
text and a list, with a member that no step has and a time that is null. -/
theorem ofJson_rewritten_link :
    let template := Json.object
      [("cellIndex", .nat 2), ("cellText", .null), ("fallbackClick", .text "No"),
       ("linkSelectors", .text "a"), ("logUrl", .array []), ("note", .bool true),
       ("rowText", .bool false), ("table", .text "#t"), ("timeout", .null),
       ("type", .text "clickTableCellLink")]
    let step := Step.leaf (.clickTableCellLink
      ⟨some "#t", some "false", none, some "2", none, [], ["a"], false, true, none⟩)
    ofJson .brief template = .ok step ∧ template.Lacks "timeout" ∧ template.Lacks "minWidth" ∧
      ofJson .brief step.toJson = .ok step := by
  intro template step
  have hread : ofJson .brief template = .ok step := by rfl
  have htimeout : template.Lacks "timeout" := .inr rfl
  have hwidth : template.Lacks "minWidth" := .inl rfl
  exact ⟨hread, htimeout, hwidth, ofJson_rewritten hread htimeout hwidth⟩

end Read

end Step

end FlowPilot
