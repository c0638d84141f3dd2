import FlowPilot.Proofs.Template.Segments

/-!
# Templates that open no brace of their own

Filling in a template may leave placeholders: the texts of variables are inserted as they are, and
braces of the template may close around them. Neither happens where the texts hold no opening brace
and the template has none besides those of its placeholders.

## Main definitions

* `Template.tight`: templates that open no brace besides those of their placeholders.
* `Bindings.IsBraceless`: variables whose texts hold no opening brace.

## Main statements

* `Bindings.keysIn_fillJson_of_tight`: filling in such a template leaves no placeholder.
-/

namespace FlowPilot

namespace Template

/-- A text that opens no brace besides those of its placeholders. -/
def isTight (s : String) : Bool :=
  (pieces s).all fun
    | .literal c => c != '\x7b'
    | .hole _ => true

mutual

/-- A JSON value whose texts open no brace besides those of their placeholders. -/
def tight : Json → Bool
  | .text s => isTight s
  | .array items => tightItems items
  | .object members => tightMembers members
  | .null | .bool _ | .number _ => true

/-- The same for the items of an array. -/
def tightItems : List Json → Bool
  | [] => true
  | item :: rest => tight item && tightItems rest

/-- The same for the members of an object. -/
def tightMembers : List (String × Json) → Bool
  | [] => true
  | (_, value) :: rest => tight value && tightMembers rest

end

theorem keys_of_not_mem_brace {s : String} (h : ∀ c ∈ s.toList, c ≠ '\x7b') : keys s = [] := by
  have hpieces := piecesAfter_plain s.toList [] h
  rw [List.append_nil] at hpieces
  rw [keys, pieces, hpieces, piecesAfter, List.append_nil, List.filterMap_map]
  exact List.filterMap_eq_nil_iff.mpr fun _ _ => rfl

end Template

namespace Bindings

open Template

/-- No variable has a text with an opening brace. -/
def IsBraceless (b : Bindings) : Prop :=
  ∀ key text, b.get? key = some text → '\x7b' ∉ text.toList

variable {b : Bindings}

theorem isBraceless_of_entries (h : ∀ entry ∈ b.entries, '\x7b' ∉ entry.2.toList) :
    b.IsBraceless := by
  intro key text htext
  obtain ⟨before, after, hentries, -⟩ := List.lookup_eq_some_iff.mp htext
  refine h (key, text) ?_
  rw [hentries]
  exact List.mem_append_right _ List.mem_cons_self

theorem keys_fill_of_isTight (hb : b.IsBraceless) {s : String} (h : isTight s = true) :
    keys (b.fill s) = [] := by
  refine keys_of_not_mem_brace fun c hc => ?_
  rw [fill, String.toList_ofList] at hc
  obtain ⟨piece, hpiece, hmem⟩ := List.mem_flatMap.mp hc
  have htight := List.all_eq_true.mp h piece hpiece
  cases piece with
  | literal d =>
    obtain rfl : c = d := List.mem_singleton.mp hmem
    exact bne_iff_ne.mp htight
  | hole key =>
    rintro rfl
    have htext : (b.text key).toList ≠ [] := List.ne_nil_of_mem hmem
    cases hget : b.get? key with
    | none => simp [text, hget] at htext
    | some value =>
      rw [fillPiece, text, hget] at hmem
      exact hb key value hget hmem

mutual

/-- Where no variable has a text with an opening brace, filling in a template that opens none of its
own leaves no placeholder. -/
theorem keysIn_fillJson_of_tight (hb : b.IsBraceless) :
    ∀ j : Json, tight j = true → keysIn (b.fillJson j) = []
  | .text _, h => keys_fill_of_isTight hb h
  | .array items, h => keysIn_fillItems_of_tight hb items h
  | .object members, h => keysIn_fillMembers_of_tight hb members h
  | .null, _ => rfl
  | .bool _, _ => rfl
  | .number _, _ => rfl

theorem keysIn_fillItems_of_tight (hb : b.IsBraceless) :
    ∀ items : List Json, tightItems items = true → keysInItems (b.fillItems items) = []
  | [], _ => rfl
  | item :: rest, h => by
    obtain ⟨hitem, hrest⟩ := Bool.and_eq_true_iff.mp h
    rw [fillItems, keysInItems, keysIn_fillJson_of_tight hb item hitem,
      keysIn_fillItems_of_tight hb rest hrest]
    rfl

theorem keysIn_fillMembers_of_tight (hb : b.IsBraceless) :
    ∀ members : Json.Members, tightMembers members = true →
      keysInMembers (b.fillMembers members) = []
  | [], _ => rfl
  | (_, value) :: rest, h => by
    obtain ⟨hvalue, hrest⟩ := Bool.and_eq_true_iff.mp h
    rw [fillMembers, keysInMembers, keysIn_fillJson_of_tight hb value hvalue,
      keysIn_fillMembers_of_tight hb rest hrest]
    rfl

end

end Bindings

end FlowPilot
