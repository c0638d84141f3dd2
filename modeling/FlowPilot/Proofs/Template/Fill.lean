import FlowPilot.Template.Render

/-!
# Filling templates

Templates without placeholders stay as they are when they are filled. So a second filling changes
nothing where the first one left no placeholder.

## Main statements

* `Bindings.fill_of_keys_eq_nil`, `Bindings.fillJson_of_keysIn_eq_nil`: templates without
  placeholders are left alone.
* `Bindings.get?_fillJson`, `Bindings.array?_fillJson`: filling keeps the form of a template.
* `Bindings.render_lenient`: lenient rendering never fails.
-/

namespace FlowPilot

namespace Template

/-- Without placeholders every character is a piece of its own. -/
theorem piecesAfter_eq_map_literal {cs : List Char} (h : ∀ key, .hole key ∉ piecesAfter 0 cs) :
    piecesAfter 0 cs = cs.map .literal := by
  induction cs with
  | nil => rfl
  | cons c cs ih =>
    rw [piecesAfter] at h ⊢
    cases hhole : hole? (c :: cs) with
    | some found =>
      obtain ⟨key, rest⟩ := found
      rw [hhole] at h
      exact absurd List.mem_cons_self (h key)
    | none =>
      rw [hhole] at h
      have hrest : ∀ key, .hole key ∉ piecesAfter 0 cs :=
        fun key hkey => h key (List.mem_cons_of_mem _ hkey)
      exact congrArg (List.cons (Piece.literal c)) (ih hrest)

/-- A template without keys has no placeholder. -/
theorem hole_not_mem_of_keys_eq_nil {template : String} (h : keys template = []) (key : String) :
    .hole key ∉ pieces template := by
  intro hkey
  have hmem : key ∈ keys template := List.mem_filterMap.mpr ⟨.hole key, hkey, rfl⟩
  rw [h] at hmem
  exact List.not_mem_nil hmem

end Template

namespace Bindings

/-- A template without placeholders stays as it is. -/
theorem fill_of_keys_eq_nil (b : Bindings) {template : String}
    (h : Template.keys template = []) : b.fill template = template := by
  have hpieces : Template.pieces template = template.toList.map .literal :=
    Template.piecesAfter_eq_map_literal (Template.hole_not_mem_of_keys_eq_nil h)
  have hchars : (template.toList.map Template.Piece.literal).flatMap b.fillPiece =
      template.toList := by
    rw [List.flatMap_map]
    exact List.flatMap_singleton' _
  rw [fill, hpieces, hchars, String.ofList_toList]

mutual

/-- A JSON value without placeholders stays as it is. -/
theorem fillJson_of_keysIn_eq_nil (b : Bindings) :
    ∀ j : Json, Template.keysIn j = [] → b.fillJson j = j
  | .text _, h => congrArg Json.text (b.fill_of_keys_eq_nil h)
  | .array items, h => congrArg Json.array (fillItems_of_keysIn_eq_nil b items h)
  | .object members, h => congrArg Json.object (fillMembers_of_keysIn_eq_nil b members h)
  | .null, _ => rfl
  | .bool _, _ => rfl
  | .number _, _ => rfl

theorem fillItems_of_keysIn_eq_nil (b : Bindings) :
    ∀ items : List Json, Template.keysInItems items = [] → b.fillItems items = items
  | [], _ => rfl
  | item :: rest, h => by
    obtain ⟨hitem, hrest⟩ := List.append_eq_nil_iff.mp h
    rw [fillItems, fillJson_of_keysIn_eq_nil b item hitem, fillItems_of_keysIn_eq_nil b rest hrest]

theorem fillMembers_of_keysIn_eq_nil (b : Bindings) :
    ∀ members : Json.Members, Template.keysInMembers members = [] → b.fillMembers members = members
  | [], _ => rfl
  | (key, value) :: rest, h => by
    obtain ⟨hvalue, hrest⟩ := List.append_eq_nil_iff.mp h
    rw [fillMembers, fillJson_of_keysIn_eq_nil b value hvalue,
      fillMembers_of_keysIn_eq_nil b rest hrest]

end

/-! ### The form of filled templates -/

theorem fillItems_eq_map (b : Bindings) (items : List Json) :
    b.fillItems items = items.map b.fillJson := by
  induction items with
  | nil => rfl
  | cons item rest ih => rw [fillItems, List.map_cons, ih]

theorem lookup_fillMembers (b : Bindings) (key : String) (members : Json.Members) :
    (b.fillMembers members).lookup key = (members.lookup key).map b.fillJson := by
  induction members with
  | nil => rfl
  | cons member rest ih =>
    obtain ⟨name, value⟩ := member
    rw [fillMembers, List.lookup_cons, List.lookup_cons]
    cases key == name with
    | true => rfl
    | false => exact ih

/-- Filling a template fills its members and leaves their names. -/
theorem get?_fillJson (b : Bindings) (key : String) (j : Json) :
    (b.fillJson j).get? key = (j.get? key).map b.fillJson := by
  cases j with
  | object members => exact b.lookup_fillMembers key members
  | _ => rfl

/-- Filling a template makes a list of a list, and of nothing else. -/
theorem array?_fillJson (b : Bindings) (j : Json) :
    (b.fillJson j).array? = j.array?.map b.fillItems := by
  cases j <;> rfl

theorem fillItems_length (b : Bindings) (items : List Json) :
    (b.fillItems items).length = items.length := by
  rw [fillItems_eq_map, List.length_map]

/-- Rendering a template without placeholders gives the template, whatever the mode is. -/
theorem render_of_keysIn_eq_nil (b : Bindings) (mode : RenderMode) {template : Json}
    (h : Template.keysIn template = []) : b.render mode template = .ok template := by
  have hunbound : b.unbound template = [] := by simp [unbound, h]
  cases mode <;> simp [render, hunbound, b.fillJson_of_keysIn_eq_nil template h]

/-- Lenient rendering fills the template and never fails. -/
theorem render_lenient (b : Bindings) (template : Json) :
    b.render .lenient template = .ok (b.fillJson template) := by
  unfold render
  cases b.unbound template <;> rfl

/-- A template that is rendered is filled in. -/
theorem eq_fillJson_of_render (b : Bindings) {mode : RenderMode} {template filled : Json}
    (h : b.render mode template = .ok filled) : filled = b.fillJson template := by
  unfold render at h
  split at h
  · cases h
  · exact (Except.ok.inj h).symm

end Bindings

end FlowPilot
