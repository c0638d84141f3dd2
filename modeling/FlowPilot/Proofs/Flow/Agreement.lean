import FlowPilot.Proofs.Flow.Validation

/-!
# Two checks of one file

The check of a whole file looks at every flow at once, the check of one flow is made before that
flow runs. They walk the file by different ways: the first one takes the steps before a confirmation
from the section on categories as it is read, and looks at none of them if that fails, the second
one takes these steps as they stand. So a file that is found clean as a whole is accepted flow by
flow if the members of that section have the forms in which they are read, and only then.

## Main definitions

* `FlowFile.IsLegible`: the section on categories has the form in which it is read.

## Main statements

* `FlowFile.exists_ofOptional_iff`: the section can be read exactly if it is legible.
* `FlowFile.levelIssues_eq_nil_of_name`: whether a sequence has issues does not depend on its name.
* `FlowFile.accepted_of_clean`: of the files that are found clean, exactly the legible ones are
  accepted by every check.
-/

namespace FlowPilot

/-! ### Optional members -/

/-- A member that is a text, unless it is left out or null. -/
def Json.IsTextOrAbsent (member : Option Json) : Prop :=
  member = none ∨ member = some .null ∨ ∃ s, member = some (.text s)

/-- A member that is a list, unless it is left out. -/
def Json.IsListOrAbsent (member : Option Json) : Prop :=
  member = none ∨ ∃ items, member = some (.array items)

instance (member : Option Json) : Decidable (Json.IsTextOrAbsent member) :=
  match member with
  | none => .isTrue (.inl rfl)
  | some .null => .isTrue (.inr (.inl rfl))
  | some (.text s) => .isTrue (.inr (.inr ⟨s, rfl⟩))
  | some (.bool _) | some (.number _) | some (.array _) | some (.object _) =>
    .isFalse (by simp [Json.IsTextOrAbsent])

instance (member : Option Json) : Decidable (Json.IsListOrAbsent member) :=
  match member with
  | none => .isTrue (.inl rfl)
  | some (.array items) => .isTrue (.inr ⟨items, rfl⟩)
  | some .null | some (.bool _) | some (.number _) | some (.text _) | some (.object _) =>
    .isFalse (by simp [Json.IsListOrAbsent])

theorem Json.isTextOrAbsent_iff (member : Option Json) :
    IsTextOrAbsent member ↔ ∃ s, optional? text? member = some s := by
  cases member with
  | none => simp [IsTextOrAbsent, optional?]
  | some j => cases j <;> simp [IsTextOrAbsent, optional?, text?]

theorem Json.exists_optional (member : Option Json) :
    ∃ value, optional? some member = some value := by
  cases member with
  | none => exact ⟨none, rfl⟩
  | some j => cases j <;> exact ⟨_, rfl⟩

namespace CategorySection

variable {get : String → Option Json} {s : CategorySection}

/-- The members that are texts. -/
def textMembers : List String :=
  ["category_selector", "confirm_selector", "category_mode", "category_option_selector",
   "confirm_success_selector"]

/-- A member in the form in which it is read, or its name. -/
def demanded {α : Type} (get : String → Option Json) (key : String)
    (read : Option Json → Option α) : Except String α :=
  match read (get key) with
  | some a => .ok a
  | none => .error key

theorem demanded_eq_ok_iff {α : Type} {key : String} {read : Option Json → Option α} {a : α} :
    demanded get key read = .ok a ↔ read (get key) = some a := by
  rw [demanded]
  cases read (get key) <;> simp

/-- The steps of a section, none if they are left out. -/
def readSteps : Option Json → Option (List Json)
  | none => some []
  | some j => j.array?

theorem isListOrAbsent_iff (member : Option Json) :
    Json.IsListOrAbsent member ↔ ∃ steps, readSteps member = some steps := by
  cases member with
  | none => simp [Json.IsListOrAbsent, readSteps]
  | some j => cases j <;> simp [Json.IsListOrAbsent, readSteps, Json.array?]

/-- A section is read exactly if each of its members is. -/
theorem ofLookup_eq_ok_iff :
    ofLookup get = .ok s ↔
      Json.optional? Json.text? (get "category_selector") = some s.categorySelector ∧
        Json.optional? Json.text? (get "confirm_selector") = some s.confirmSelector ∧
        Json.optional? some (get "category_map") = some s.categoryMap ∧
        Json.optional? Json.text? (get "category_mode") = some s.categoryMode ∧
        Json.optional? Json.text? (get "category_option_selector") = some s.optionSelector ∧
        readSteps (get "steps_before_confirm") = some s.stepsBeforeConfirm ∧
        Json.optional? Json.text? (get "confirm_success_selector") = some s.successSelector := by
  -- The local readers of the definition, with names.
  have heq : ofLookup get = (do
      let categorySelector ← demanded get "category_selector" (Json.optional? Json.text?)
      let confirmSelector ← demanded get "confirm_selector" (Json.optional? Json.text?)
      let categoryMap ← demanded get "category_map" (Json.optional? some)
      let categoryMode ← demanded get "category_mode" (Json.optional? Json.text?)
      let optionSelector ← demanded get "category_option_selector" (Json.optional? Json.text?)
      let stepsBeforeConfirm ← demanded get "steps_before_confirm" readSteps
      let successSelector ← demanded get "confirm_success_selector" (Json.optional? Json.text?)
      return ⟨categorySelector, confirmSelector, categoryMap, categoryMode, optionSelector,
        stepsBeforeConfirm, successSelector⟩) := rfl
  rw [heq]
  constructor
  · intro h
    obtain ⟨_, h1, h⟩ := Step.exists_of_bind_eq_ok h
    obtain ⟨_, h2, h⟩ := Step.exists_of_bind_eq_ok h
    obtain ⟨_, h3, h⟩ := Step.exists_of_bind_eq_ok h
    obtain ⟨_, h4, h⟩ := Step.exists_of_bind_eq_ok h
    obtain ⟨_, h5, h⟩ := Step.exists_of_bind_eq_ok h
    obtain ⟨_, h6, h⟩ := Step.exists_of_bind_eq_ok h
    obtain ⟨_, h7, h⟩ := Step.exists_of_bind_eq_ok h
    cases h
    simp only [demanded_eq_ok_iff] at h1 h2 h3 h4 h5 h6 h7
    exact ⟨h1, h2, h3, h4, h5, h6, h7⟩
  · simp only [← demanded_eq_ok_iff]
    rintro ⟨h1, h2, h3, h4, h5, h6, h7⟩
    rw [h1, h2, h3, h4, h5, h6, h7]
    rfl

/-- The forms of its members decide whether a section can be read. -/
theorem exists_ofLookup_iff :
    (∃ s, ofLookup get = .ok s) ↔
      (∀ key ∈ textMembers, Json.IsTextOrAbsent (get key)) ∧
        Json.IsListOrAbsent (get "steps_before_confirm") := by
  constructor
  · rintro ⟨s, hs⟩
    obtain ⟨h1, h2, -, h4, h5, h6, h7⟩ := ofLookup_eq_ok_iff.mp hs
    refine ⟨fun key hkey => (Json.isTextOrAbsent_iff _).mpr ?_, ?_⟩
    · simp only [textMembers, List.mem_cons, List.not_mem_nil, or_false] at hkey
      rcases hkey with rfl | rfl | rfl | rfl | rfl
      · exact ⟨_, h1⟩
      · exact ⟨_, h2⟩
      · exact ⟨_, h4⟩
      · exact ⟨_, h5⟩
      · exact ⟨_, h7⟩
    · exact (isListOrAbsent_iff _).mpr ⟨_, h6⟩
  · rintro ⟨htexts, hsteps⟩
    have htext : ∀ key ∈ textMembers, ∃ s, Json.optional? Json.text? (get key) = some s :=
      fun key hkey => (Json.isTextOrAbsent_iff _).mp (htexts key hkey)
    obtain ⟨categorySelector, h1⟩ := htext "category_selector" (by decide)
    obtain ⟨confirmSelector, h2⟩ := htext "confirm_selector" (by decide)
    obtain ⟨categoryMap, h3⟩ := Json.exists_optional (get "category_map")
    obtain ⟨categoryMode, h4⟩ := htext "category_mode" (by decide)
    obtain ⟨optionSelector, h5⟩ := htext "category_option_selector" (by decide)
    obtain ⟨steps, h6⟩ := (isListOrAbsent_iff _).mp hsteps
    obtain ⟨successSelector, h7⟩ := htext "confirm_success_selector" (by decide)
    exact ⟨⟨categorySelector, confirmSelector, categoryMap, categoryMode, optionSelector, steps,
      successSelector⟩, ofLookup_eq_ok_iff.mpr ⟨h1, h2, h3, h4, h5, h6, h7⟩⟩

end CategorySection

namespace FlowFile

variable {file : FlowFile} {limits : Limits}

/-! ### The section on categories -/

/-- A member of the section on categories. -/
def categoryMember (file : FlowFile) (key : String) : Option Json :=
  (file.section? applySection).bind (·.get? key)

/-- The section on categories has the form in which it is read: its texts are texts and its steps a
list, where they are given. -/
def IsLegible (file : FlowFile) : Prop :=
  (∀ key ∈ CategorySection.textMembers, Json.IsTextOrAbsent (file.categoryMember key)) ∧
    Json.IsListOrAbsent (file.categoryMember "steps_before_confirm")

instance (file : FlowFile) : Decidable file.IsLegible := inferInstanceAs (Decidable (_ ∧ _))

/-- In a file that names where categories are chosen, the section is an object. -/
theorem exists_section_of_categoryIssues (h : file.categoryIssues = []) :
    ∃ members, file.section? applySection = some (.object members) := by
  have hselector :
      ((file.section? applySection).getD .null).isPresent "category_selector" = true := by
    by_contra hlacks
    simp [categoryIssues, hlacks] at h
  cases hsection : file.section? applySection with
  | none => simp [hsection, Json.isPresent, Json.get?] at hselector
  | some j =>
    cases j with
    | object members => exact ⟨members, rfl⟩
    | _ => simp [hsection, Json.isPresent, Json.get?] at hselector

/-- How a section is refused makes no difference where one is read. -/
theorem category_eq_ok_iff (w : Wording) {s : CategorySection} :
    file.category w = .ok s ↔ CategorySection.ofOptional (file.section? applySection) = .ok s := by
  rw [category]
  cases CategorySection.ofOptional (file.section? applySection) <;> simp

theorem ofOptional_section {members : Json.Members}
    (hsection : file.section? applySection = some (.object members)) :
    CategorySection.ofOptional (file.section? applySection) =
      CategorySection.ofLookup file.categoryMember := by
  have hmember : file.categoryMember = fun key => members.lookup key := by
    funext key
    rw [categoryMember, hsection]
    rfl
  rw [hmember, hsection]
  rfl

/-- The section can be read exactly if it is legible. -/
theorem exists_ofOptional_iff {members : Json.Members}
    (hsection : file.section? applySection = some (.object members)) :
    (∃ s, CategorySection.ofOptional (file.section? applySection) = .ok s) ↔ file.IsLegible := by
  rw [IsLegible, ← CategorySection.exists_ofLookup_iff, ofOptional_section hsection]

/-- The steps of a section that is read are those that stand there. -/
theorem stepsBeforeConfirm_of_ofOptional {members : Json.Members} {s : CategorySection}
    (hsection : file.section? applySection = some (.object members))
    (hs : CategorySection.ofOptional (file.section? applySection) = .ok s) :
    s.stepsBeforeConfirm = file.stepsFor applySection := by
  rw [ofOptional_section hsection] at hs
  obtain ⟨-, -, -, -, -, hsteps, -⟩ := CategorySection.ofLookup_eq_ok_iff.mp hs
  have hfor : file.stepsFor applySection =
      ((file.categoryMember "steps_before_confirm").bind Json.array?).getD [] := by
    rw [stepsFor, if_pos rfl, categoryMember]
  rw [hfor]
  cases hmember : file.categoryMember "steps_before_confirm" with
  | none =>
    rw [hmember] at hsteps
    exact (Option.some.inj hsteps).symm
  | some j =>
    rw [hmember, CategorySection.readSteps] at hsteps
    rw [Option.bind_some, hsteps]
    rfl

/-! ### Issues and places -/

theorem mem_nestedIn {flow : String} {index : Nat} {template : Json} {steps : List Json}
    {place : String} :
    (place, steps) ∈ nestedIn flow index template ↔
      ∃ key ∈ ["steps", "fallbackSteps"], (template.get? key).bind Json.array? = some steps ∧
        place = stepPlace flow index ++ "." ++ key := by
  simp only [nestedIn, List.mem_filterMap, Option.map_eq_some_iff, Prod.mk.injEq]
  refine exists_congr fun key => and_congr_right fun _ => ?_
  constructor
  · rintro ⟨_, hsteps, rfl, rfl⟩
    exact ⟨hsteps, rfl⟩
  · rintro ⟨hsteps, rfl⟩
    exact ⟨steps, hsteps, rfl, rfl⟩

/-- Whether a template has issues does not depend on its place. -/
theorem templateIssues_eq_nil_of_place {nested : String → List Json → List StepIssue}
    (hnested : ∀ place place' steps, nested place steps = [] → nested place' steps = [])
    {flow : String} {index : Nat} {template : Json}
    (h : file.templateIssues nested flow index template = []) (flow' : String) (index' : Nat) :
    file.templateIssues nested flow' index' template = [] := by
  unfold templateIssues at h ⊢
  cases htext : Step.kindText? template with
  | none => simp [htext] at h
  | some text =>
    cases hkind : Step.Kind.ofName? text with
    | none => simp [htext, hkind] at h
    | some kind =>
      simp only [htext, hkind, List.append_eq_nil_iff, List.map_eq_nil_iff] at h ⊢
      obtain ⟨hlacking, hinside⟩ := h
      refine ⟨hlacking, ?_⟩
      cases kind with
      | trySteps =>
        -- the sequences inside are the same, only their names differ
        refine List.flatMap_eq_nil_iff.mpr fun (place, steps) hmem => ?_
        obtain ⟨key, hkey, hsteps, -⟩ := mem_nestedIn.mp hmem
        have hthere := List.flatMap_eq_nil_iff.mp hinside
          (stepPlace flow index ++ "." ++ key, steps) (mem_nestedIn.mpr ⟨key, hkey, hsteps, rfl⟩)
        exact hnested _ _ _ hthere
      | runAction =>
        dsimp only at hinside ⊢
        cases hcalled : calledFlow template with
        | none => rfl
        | some name =>
          rw [hcalled] at hinside
          by_cases hhas : file.hasSteps name
          · simp [hhas]
          · simp [hhas] at hinside
      | _ => rfl

/-- Whether a sequence has issues does not depend on its name. -/
theorem levelIssues_eq_nil_of_name (levels : Nat) :
    ∀ depth flow flow' (steps : List Json), file.levelIssues limits levels depth flow steps = [] →
      file.levelIssues limits levels depth flow' steps = [] := by
  have hlimits : ∀ flow flow' (steps : List Json) depth,
      (limits.violations flow steps.length depth).map StepIssue.limit = [] →
        (limits.violations flow' steps.length depth).map StepIssue.limit = [] := by
    intro flow flow' steps depth h
    rw [List.map_eq_nil_iff, Limits.violations_eq_nil_iff] at h ⊢
    exact h
  induction levels with
  | zero => exact fun depth flow flow' steps => hlimits flow flow' steps depth
  | succ levels ih =>
    intro depth flow flow' steps h
    obtain ⟨hviolations, htemplates⟩ := List.append_eq_nil_iff.mp h
    refine List.append_eq_nil_iff.mpr ⟨hlimits flow flow' steps depth hviolations, ?_⟩
    -- the sequences inside have new names as well, which is where the induction comes in
    refine List.flatMap_eq_nil_iff.mpr fun (template, index) hmem => ?_
    have htemplate := List.flatMap_eq_nil_iff.mp htemplates (template, index) hmem
    exact templateIssues_eq_nil_of_place (ih (depth + 1)) htemplate flow' index

/-! ### The two checks -/

theorem demandFlow_eq_ok_iff {name : String} :
    file.demandFlow limits name = .ok () ↔
      file.sectionIssues name = [] ∧
        file.stepIssues limits name (file.stepsFor name) = [] := by
  rw [demandFlow, ← List.map_eq_nil_iff (f := ConfigIssue.setting),
    ← List.map_eq_nil_iff (f := ConfigIssue.step), ← List.append_eq_nil_iff]
  split
  · rename_i hnone
    exact ⟨fun _ => hnone, fun _ => rfl⟩
  · rename_i hissues
    exact ⟨nofun, fun hnone => absurd hnone hissues⟩

/-- A file is found clean if nothing is missing for the flows of the assistant, and if the steps of
all flows have no issues, nor have those of the section on categories as far as it can be read. -/
theorem issues_eq_nil_iff :
    file.issues limits = [] ↔
      (∀ name ∈ [providerFlow, invoiceFlow, applySection], file.sectionIssues name = []) ∧
        (∀ entry ∈ file.members, ∀ steps, (entry.2.get? "steps").bind Json.array? = some steps →
          file.stepIssues limits entry.1 steps = []) ∧
        ∀ s, CategorySection.ofOptional (file.section? applySection) = .ok s →
          file.stepIssues limits (applySection ++ ".steps_before_confirm") s.stepsBeforeConfirm =
            [] := by
  rw [issues, List.append_eq_nil_iff, List.append_eq_nil_iff, and_assoc, List.map_eq_nil_iff,
    List.flatMap_eq_nil_iff, List.flatMap_eq_nil_iff]
  refine and_congr Iff.rfl (and_congr ?_ ?_)
  · refine forall₂_congr fun (name, j) _ => ?_
    dsimp only
    cases (j.get? "steps").bind Json.array? <;> simp
  · cases CategorySection.ofOptional (file.section? applySection) <;> simp

/-- The steps of a flow of a clean file have no issues. -/
theorem stepIssues_of_clean (h : file.issues limits = []) {name : String} {steps : List Json}
    (hsteps : file.steps? name = some steps) : file.stepIssues limits name steps = [] := by
  obtain ⟨flow, hflow, hsteps⟩ := Option.bind_eq_some_iff.mp hsteps
  obtain ⟨before, after, hmembers, -⟩ := List.lookup_eq_some_iff.mp hflow
  have hmem : (name, flow) ∈ file.members := by simp [hmembers]
  exact (issues_eq_nil_iff.mp h).2.1 (name, flow) hmem steps hsteps

/-- A flow with steps of a clean file is accepted. -/
theorem accepted_of_hasSteps (h : file.issues limits = []) {name : String}
    (hname : name ≠ applySection) (hsteps : file.hasSteps name = true) :
    file.demandFlow limits name = .ok () := by
  refine demandFlow_eq_ok_iff.mpr ⟨?_, ?_⟩
  · rw [sectionIssues, if_neg hname, if_pos hsteps]
  · rw [stepsFor, if_neg hname]
    cases hfound : file.steps? name with
    | none => simp [hasSteps, hfound] at hsteps
    | some steps => exact stepIssues_of_clean h hfound

/-- The flows of the assistant have steps in a clean file. -/
theorem hasSteps_of_clean (h : file.issues limits = []) {name : String}
    (hname : name ∈ [providerFlow, invoiceFlow]) : file.hasSteps name = true := by
  have hsection := (issues_eq_nil_iff.mp h).1 name (List.mem_append_left [applySection] hname)
  have hother : name ≠ applySection := by
    rintro rfl
    exact absurd hname (by decide)
  by_contra hnone
  simp [sectionIssues, hother, hnone] at hsection

/-- Where the section on categories of a clean file is legible, it is accepted. -/
theorem accepted_of_isLegible (h : file.issues limits = []) (hlegible : file.IsLegible) :
    file.demandFlow limits applySection = .ok () := by
  obtain ⟨hsections, -, hsteps⟩ := issues_eq_nil_iff.mp h
  have hcategory := hsections applySection (by simp)
  obtain ⟨members, hsection⟩ :=
    exists_section_of_categoryIssues (by rwa [sectionIssues, if_pos rfl] at hcategory)
  obtain ⟨s, hs⟩ := (exists_ofOptional_iff hsection).mpr hlegible
  -- the check of the whole file looks at the same steps, under another name
  have hclean := hsteps s hs
  rw [stepsBeforeConfirm_of_ofOptional hsection hs] at hclean
  exact demandFlow_eq_ok_iff.mpr ⟨hcategory, levelIssues_eq_nil_of_name _ _ _ _ _ hclean⟩

/-- In a file that is found clean, every flow apart from the section on categories is accepted. All
flows are accepted and that section can be read besides, exactly if the section is legible. -/
theorem accepted_of_clean (w : Wording) (file : FlowFile) (limits : Limits)
    (h : file.issues limits = []) :
    (∀ name, name ≠ applySection → name ∈ [providerFlow, invoiceFlow] ∨ file.hasSteps name = true →
      file.demandFlow limits name = .ok ()) ∧
      (((∀ name, name ∈ [providerFlow, invoiceFlow, applySection] ∨ file.hasSteps name = true →
        file.demandFlow limits name = .ok ()) ∧ ∃ s, file.category w = .ok s) ↔
          file.IsLegible) := by
  have hother : ∀ name, name ≠ applySection →
      name ∈ [providerFlow, invoiceFlow] ∨ file.hasSteps name = true →
        file.demandFlow limits name = .ok () := by
    rintro name hname (hassistant | hsteps)
    · exact accepted_of_hasSteps h hname (hasSteps_of_clean h hassistant)
    · exact accepted_of_hasSteps h hname hsteps
  -- The check of the whole file looks at the members of the section, so it is an object.
  have hcategory := (issues_eq_nil_iff.mp h).1 applySection (by simp)
  obtain ⟨members, hsection⟩ :=
    exists_section_of_categoryIssues (by rwa [sectionIssues, if_pos rfl] at hcategory)
  have hread : (∃ s, file.category w = .ok s) ↔ file.IsLegible :=
    (exists_congr fun _ => category_eq_ok_iff w).trans (exists_ofOptional_iff hsection)
  refine ⟨hother, fun h => hread.mp h.2, fun hlegible => ⟨fun name hname => ?_, hread.mpr hlegible⟩⟩
  by_cases happly : name = applySection
  · rw [happly]
    exact accepted_of_isLegible h hlegible
  · refine hother name happly (hname.imp_left fun hmem => ?_)
    simpa [happly] using hmem

/-- A small file with steps before a confirmation and a selector for the category. -/
def smallFile (selector : Json) (steps : List Json) : FlowFile :=
  let look := Json.object [("type", .text "goto"), ("url", .text "https://a.test")]
  let flow := Json.object [("steps", .array [look])]
  ⟨[(applySection, .object
      [("category_map", .object [("Salud", .text "SAL")]), ("category_selector", selector),
       ("confirm_selector", .text "#ok"), ("steps_before_confirm", .array steps)]),
    (invoiceFlow, flow), (providerFlow, flow)]⟩

/-- The law at a file whose section on categories is legible. -/
theorem accepted_small_file :
    let press :=
      Json.object [("key", .text "Enter"), ("selector", .text "#c"), ("type", .text "press")]
    let file := smallFile (.text "#c") [press]
    file.issues .strict = [] ∧ file.IsLegible ∧ file.demandFlow .strict applySection = .ok () ∧
      ∃ s, file.category .brief = .ok s := by
  intro press file
  have hclean : file.issues .strict = [] := by decide +kernel
  have hlegible : file.IsLegible := by decide +kernel
  obtain ⟨hflows, hread⟩ := (accepted_of_clean .brief file .strict hclean).2.mpr hlegible
  exact ⟨hclean, hlegible, hflows applySection (.inl (by decide)), hread⟩

/-- A selector that is a number hides the steps behind it from the check of the whole file: it finds
nothing, although the section cannot be read and one of its steps lacks a key. -/
theorem clean_file_refused :
    let press := Json.object [("selector", .text "#c"), ("type", .text "press")]
    let file := smallFile (.number (.int 5)) [press]
    file.issues .strict = [] ∧
      file.demandFlow .strict applySection =
        .error (.configInvalid [.step (.noField applySection 0 "press" ["key"])]) ∧
      (file.category .brief).isOk = false := by
  decide +kernel

end FlowFile

end FlowPilot
