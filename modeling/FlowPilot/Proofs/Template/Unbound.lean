import FlowPilot.Proofs.Json.Places
import FlowPilot.Proofs.Template.Fill

/-!
# Unset variables

Strict rendering looks for unset variables before it fills a template. It finds the very
placeholders that filling replaces, and reports the variables in the order in which a reader meets
them first.

## Main definitions

* `Template.Place`, `Template.NamedAt`: the places of the placeholders inside a JSON value.
* `Template.Place.Before`: reading order.
* `Template.FirstBefore`: one variable is met before another one.

## Main statements

* `Template.mem_placesIn`, `Template.placesIn_pairwise`: the keys of a JSON value are read from its
  placeholders in reading order.
* `Bindings.render_strict_reports`: what strict rendering gives and what it reports.
-/

namespace FlowPilot

namespace Template

/-! ### Places of placeholders -/

/-- A place of a placeholder: the steps to a text, and the index of a piece of that text. -/
structure Place where
  path : List Json.Step
  index : Nat
  deriving DecidableEq, Repr

/-- A place comes before another one in reading order. -/
def Place.Before (place other : Place) : Prop :=
  List.Lex Json.Step.Before place.path other.path ∨
    place.path = other.path ∧ place.index < other.index

/-- There is a placeholder at some place, and it names a variable. -/
def NamedAt (j : Json) (place : Place) (key : String) : Prop :=
  ∃ s, j.at? place.path = some (.text s) ∧ (pieces s)[place.index]? = some (.hole key)

/-- A variable is named before another one is for the first time. -/
def FirstBefore (j : Json) (key other : String) : Prop :=
  ∃ place, NamedAt j place key ∧ ∀ later, NamedAt j later other → place.Before later

/-- The variable that a piece names. -/
def Piece.key? : Piece → Option String
  | hole key => some key
  | literal _ => none

/-- The placeholders of a text that some steps lead to. -/
def placesInText (path : List Json.Step) (s : String) : List (Place × String) :=
  (pieces s).zipIdx.filterMap fun found =>
    found.1.key?.map fun key => (⟨path, found.2⟩, key)

/-- The placeholders inside a JSON value, in reading order. -/
def placesIn (j : Json) : List (Place × String) :=
  j.textsIn.flatMap fun (path, s) => placesInText path s

theorem Piece.key?_eq_some_iff {piece : Piece} {key : String} :
    piece.key? = some key ↔ piece = .hole key := by
  cases piece <;> simp [key?]

theorem keys_eq_filterMap (s : String) : keys s = (pieces s).filterMap Piece.key? := rfl

theorem map_snd_placesInText (path : List Json.Step) (s : String) :
    (placesInText path s).map Prod.snd = keys s := by
  have hkeys : keys s = ((pieces s).zipIdx.map Prod.fst).filterMap Piece.key? := by
    rw [List.zipIdx_map_fst, keys_eq_filterMap]
  rw [hkeys, placesInText, List.map_filterMap, List.filterMap_map]
  congr 1
  funext found
  rw [Option.map_map]
  exact Option.map_id'

theorem mem_placesInText {path : List Json.Step} {s : String} {place : Place} {key : String} :
    (place, key) ∈ placesInText path s ↔
      place.path = path ∧ (pieces s)[place.index]? = some (.hole key) := by
  rw [placesInText, List.mem_filterMap]
  constructor
  · rintro ⟨found, hmem, heq⟩
    obtain ⟨name, hname, heq⟩ := Option.map_eq_some_iff.mp heq
    cases heq
    rw [← Piece.key?_eq_some_iff.mp hname]
    exact ⟨rfl, List.mem_zipIdx_iff_getElem?.mp hmem⟩
  · rintro ⟨rfl, hpiece⟩
    exact ⟨(.hole key, place.index), List.mem_zipIdx_iff_getElem?.mpr hpiece, rfl⟩

theorem placesInText_pairwise (path : List Json.Step) (s : String) :
    (placesInText path s).Pairwise fun a b => a.1.Before b.1 := by
  have hindex : (pieces s).zipIdx.Pairwise fun a b => a.2 < b.2 := by
    rw [← List.pairwise_map (f := Prod.snd) (R := (· < ·)), List.zipIdx_map_snd]
    exact List.pairwise_lt_range'
  refine List.pairwise_filterMap.mpr (hindex.imp fun hlt found hfound other hother => ?_)
  obtain ⟨key, -, rfl⟩ := Option.map_eq_some_iff.mp hfound
  obtain ⟨key', -, rfl⟩ := Option.map_eq_some_iff.mp hother
  exact .inr ⟨rfl, hlt⟩

mutual

/-- The keys inside a JSON value are those of its texts. -/
theorem keysIn_eq_flatMap : ∀ j : Json, keysIn j = j.textsIn.flatMap fun found => keys found.2
  | .text _ => (List.append_nil _).symm
  | .array items => keysInItems_eq_flatMap items 0
  | .object members => keysInMembers_eq_flatMap members
  | .null => rfl
  | .bool _ => rfl
  | .number _ => rfl

theorem keysInItems_eq_flatMap : ∀ (items : List Json) (first : Nat),
    keysInItems items = (Json.textsInItems first items).flatMap fun found => keys found.2
  | [], _ => rfl
  | item :: rest, first => by
    rw [keysInItems, Json.textsInItems, List.flatMap_append, List.flatMap_map,
      keysIn_eq_flatMap item, keysInItems_eq_flatMap rest]

theorem keysInMembers_eq_flatMap : ∀ members : Json.Members,
    keysInMembers members = (Json.textsInMembers members).flatMap fun found => keys found.2
  | [] => rfl
  | (key, value) :: rest => by
    rw [keysInMembers, Json.textsInMembers, List.flatMap_append, List.flatMap_map,
      keysIn_eq_flatMap value, keysInMembers_eq_flatMap rest]

end

theorem map_snd_placesIn (j : Json) : (placesIn j).map Prod.snd = keysIn j := by
  rw [placesIn, List.map_flatMap, keysIn_eq_flatMap]
  simp only [map_snd_placesInText]

section Sorted

variable {j : Json}

theorem mem_placesIn (hsorted : j.IsSorted) {place : Place} {key : String} :
    (place, key) ∈ placesIn j ↔ NamedAt j place key := by
  rw [placesIn, List.mem_flatMap]
  constructor
  · rintro ⟨⟨path, s⟩, htext, hplace⟩
    obtain ⟨rfl, hpiece⟩ := mem_placesInText.mp hplace
    exact ⟨s, (Json.mem_textsIn hsorted).mp htext, hpiece⟩
  · rintro ⟨s, htext, hpiece⟩
    exact ⟨(place.path, s), (Json.mem_textsIn hsorted).mpr htext,
      mem_placesInText.mpr ⟨rfl, hpiece⟩⟩

theorem placesIn_pairwise (hsorted : j.IsSorted) :
    (placesIn j).Pairwise fun a b => a.1.Before b.1 := by
  refine List.pairwise_flatMap.mpr ⟨fun found _ => placesInText_pairwise found.1 found.2, ?_⟩
  refine (Json.textsIn_pairwise hsorted).imp ?_
  rintro ⟨path, s⟩ ⟨path', s'⟩ hlex ⟨place, key⟩ hplace ⟨place', key'⟩ hplace'
  obtain ⟨rfl, -⟩ := mem_placesInText.mp hplace
  obtain ⟨rfl, -⟩ := mem_placesInText.mp hplace'
  exact .inl hlex

theorem mem_keysIn (hsorted : j.IsSorted) {key : String} :
    key ∈ keysIn j ↔ ∃ place, NamedAt j place key := by
  rw [← map_snd_placesIn, List.mem_map]
  constructor
  · rintro ⟨⟨place, key⟩, hmem, rfl⟩
    exact ⟨place, (mem_placesIn hsorted).mp hmem⟩
  · rintro ⟨place, hplace⟩
    exact ⟨(place, key), (mem_placesIn hsorted).mpr hplace, rfl⟩

end Sorted

/-! ### First occurrences -/

/-- One key differs from another one and comes before all occurrences of that. -/
def MetFirst (places : List (Place × String)) (key other : String) : Prop :=
  key ≠ other ∧ ∃ place, (place, key) ∈ places ∧
    ∀ later, (later, other) ∈ places → place.Before later

theorem mem_of_mem_cons {place later : Place} {key other : String}
    {places : List (Place × String)} (hother : other ≠ key)
    (h : (later, other) ∈ (place, key) :: places) : (later, other) ∈ places := by
  rcases List.mem_cons.mp h with heq | hmem
  · exact absurd (congrArg Prod.snd heq) hother
  · exact hmem

theorem MetFirst.cons {places : List (Place × String)} {key other front : String}
    (h : MetFirst places key other) (hother : other ≠ front) (place : Place) :
    MetFirst ((place, front) :: places) key other := by
  obtain ⟨hne, first, hfirst, hbefore⟩ := h
  exact ⟨hne, first, List.mem_cons_of_mem _ hfirst, fun later hlater =>
    hbefore later (mem_of_mem_cons hother hlater)⟩

theorem of_mem_eraseDups_filter {p : String → Bool} {keys : List String} {key : String}
    (h : key ∈ (keys.filter p).eraseDups) : p key = true :=
  (List.mem_filter.mp (List.mem_eraseDups.mp h)).2

/-- Some of the keys, each one kept where it comes first, are in the order in which they come
first. -/
theorem pairwise_eraseDups_filter {places : List (Place × String)}
    (h : places.Pairwise fun a b => a.1.Before b.1) (p : String → Bool) :
    ((places.map Prod.snd).filter p).eraseDups.Pairwise (MetFirst places) := by
  -- dropping the other occurrences of a key is one more condition on the keys to come
  induction places generalizing p with
  | nil => exact List.Pairwise.nil
  | cons first rest ih =>
    obtain ⟨place, key⟩ := first
    obtain ⟨hfirst, hrest⟩ := List.pairwise_cons.mp h
    have hkept : ∀ q : String → Bool, q key = false →
        ((rest.map Prod.snd).filter q).eraseDups.Pairwise (MetFirst ((place, key) :: rest)) := by
      intro q hq
      refine (ih hrest q).imp_of_mem fun _ hother hmet => hmet.cons ?_ place
      rintro rfl
      rw [of_mem_eraseDups_filter hother] at hq
      exact Bool.noConfusion hq
    rw [List.map_cons]
    cases hp : p key with
    | false =>
      rw [List.filter_cons_of_neg (by simp [hp])]
      exact hkept p hp
    | true =>
      rw [List.filter_cons_of_pos hp, List.eraseDups_cons, List.filter_filter]
      refine List.pairwise_cons.mpr ⟨fun other hother => ?_, hkept _ (by simp)⟩
      have hne : other ≠ key := by
        have hkeep := of_mem_eraseDups_filter hother
        simp only [Bool.and_eq_true, Bool.not_eq_true', beq_eq_false_iff_ne] at hkeep
        exact hkeep.1
      exact ⟨hne.symm, place, List.mem_cons_self, fun later hmem =>
        hfirst (later, other) (mem_of_mem_cons hne hmem)⟩

end Template

namespace Bindings

open Template

/-! ### Rendering -/

section Sorted

variable {template : Json}

theorem mem_unbound (b : Bindings) (hsorted : template.IsSorted) {key : String} :
    key ∈ b.unbound template ↔ b.get? key = none ∧ ∃ place, NamedAt template place key := by
  rw [unbound, List.mem_eraseDups, List.mem_filter, mem_keysIn hsorted, Option.isNone_iff_eq_none,
    and_comm]

theorem unbound_pairwise (b : Bindings) (hsorted : template.IsSorted) :
    (b.unbound template).Pairwise fun key other =>
      key ≠ other ∧ FirstBefore template key other := by
  rw [unbound, ← map_snd_placesIn]
  refine (pairwise_eraseDups_filter (placesIn_pairwise hsorted) _).imp ?_
  rintro key other ⟨hne, place, hplace, hbefore⟩
  exact ⟨hne, place, (mem_placesIn hsorted).mp hplace, fun later hlater =>
    hbefore later ((mem_placesIn hsorted).mpr hlater)⟩

end Sorted

/-- Strict rendering fails exactly if some variable is unset. -/
theorem render_strict (b : Bindings) (template : Json) :
    b.render .strict template =
      if b.unbound template = [] then .ok (b.fillJson template)
      else .error (.configInvalid ((b.unbound template).map .unsetVariable)) := by
  unfold render
  cases b.unbound template <;> rfl

/-- Lenient rendering never fails. Strict rendering succeeds exactly if every placeholder names a
variable with a text, and then gives what lenient rendering gives. Else it reports, in one error,
each variable without a text that is named somewhere, once, in the order in which a reader meets
them, and no other variable. -/
theorem render_strict_reports (b : Bindings) {template : Json} (hsorted : template.IsSorted) :
    (∃ filled, b.render .lenient template = .ok filled) ∧
    ((∃ filled, b.render .strict template = .ok filled) ↔
      ∀ place key, NamedAt template place key → (b.get? key).isSome) ∧
    (∀ filled, b.render .strict template = .ok filled → b.render .lenient template = .ok filled) ∧
    ∀ fault, b.render .strict template = .error fault →
      ∃ keys : List String, fault = .configInvalid (keys.map .unsetVariable) ∧ keys ≠ [] ∧
        keys.Nodup ∧
        (∀ key, key ∈ keys ↔ b.get? key = none ∧ ∃ place, NamedAt template place key) ∧
        keys.Pairwise (FirstBefore template) := by
  have hunbound : b.unbound template = [] ↔
      ∀ place key, NamedAt template place key → (b.get? key).isSome := by
    rw [List.eq_nil_iff_forall_not_mem]
    constructor
    · intro hnone place key hnamed
      by_contra hunset
      exact hnone key ((b.mem_unbound hsorted).mpr
        ⟨Option.not_isSome_iff_eq_none.mp hunset, place, hnamed⟩)
    · intro hset key hmem
      obtain ⟨hunset, place, hnamed⟩ := (b.mem_unbound hsorted).mp hmem
      have hsome := hset place key hnamed
      rw [hunset] at hsome
      exact Bool.noConfusion hsome
  rw [← hunbound, b.render_strict, b.render_lenient]
  -- Strict rendering branches on nothing else.
  by_cases hnone : b.unbound template = []
  · rw [if_pos hnone]
    exact ⟨⟨_, rfl⟩, iff_of_true ⟨_, rfl⟩ hnone, fun _ h => h, fun _ h => by cases h⟩
  · rw [if_neg hnone]
    refine ⟨⟨_, rfl⟩, iff_of_false ?_ hnone, ?_, ?_⟩
    · rintro ⟨filled, h⟩
      cases h
    · intro filled h
      cases h
    · intro fault h
      have hpairwise := b.unbound_pairwise hsorted
      exact ⟨b.unbound template, (Except.error.inj h).symm, hnone, hpairwise.imp And.left,
        fun key => b.mem_unbound hsorted, hpairwise.imp And.right⟩

/-- The law at an object that is not given in key order, and that names a variable twice. -/
theorem render_strict_reports_nested :
    let b : Bindings := ⟨[("ruc", "1792049504001")]⟩
    let template := Json.ofMembers [
      ("b", .array [.text "\x7b\x7by\x7d\x7d\x7b\x7b x \x7d\x7d", .number (.int 5000)]),
      ("a", Json.ofMembers [("text", .text "\x7b\x7bruc\x7d\x7d/\x7b\x7bx\x7d\x7d")])]
    template.IsSorted ∧
      b.render .strict template = .error (.configInvalid [.unsetVariable "x", .unsetVariable "y"]) ∧
      FirstBefore template "x" "y" := by
  intro b template
  have hsorted : template.IsSorted := by
    refine Json.isSorted_ofMembers (List.forall_mem_cons.mpr ⟨.array ?_,
      List.forall_mem_singleton.mpr
        (Json.isSorted_ofMembers (List.forall_mem_singleton.mpr (.text _)))⟩)
    exact List.forall_mem_cons.mpr ⟨.text _, List.forall_mem_singleton.mpr (.number _)⟩
  have hunbound : b.unbound template = ["x", "y"] := by decide +kernel
  have hrender : b.render .strict template =
      .error (.configInvalid [.unsetVariable "x", .unsetVariable "y"]) := by
    rw [render_strict, hunbound]
    rfl
  obtain ⟨-, -, -, hreport⟩ := render_strict_reports b hsorted
  obtain ⟨keys, hkeys, -, -, -, horder⟩ := hreport _ hrender
  have hlist : keys = ["x", "y"] := by
    have hmap := (Fault.configInvalid.inj hkeys).symm
    simpa [List.map_eq_cons_iff] using hmap
  rw [hlist] at horder
  exact ⟨hsorted, hrender, (List.pairwise_pair.mp horder)⟩

end Bindings

end FlowPilot
