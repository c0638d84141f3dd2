import FlowPilot.Proofs.Json.Sorted

/-!
# Places in JSON values

A value inside another one is found along the steps that lead to it: an index into an array, or a
key into an object. What is found there is described by its node, which tells everything but what
lies further inside. A value is read in the order of its items, and of its keys.

## Main definitions

* `Json.Step`: an index or a key.
* `Json.at?`: the value at the end of some steps.
* `Json.Node`, `Json.node`: what a value is, without what is inside of it.
* `Json.textsIn`: the texts inside a value with the steps that lead to them.

## Main statements

* `Json.mem_textsIn`: every text inside a value is found where the steps lead.
* `Json.textsIn_pairwise`: the texts are in reading order.
-/

namespace FlowPilot.Json

/-! ### Finding values -/

/-- A step into an array or an object. -/
inductive Step
  | item (index : Nat)
  | member (key : String)
  deriving DecidableEq, Repr

/-- The value behind a step. -/
def behind? : Json → Step → Option Json
  | array items, .item i => items[i]?
  | object members, .member key => members.lookup key
  | _, _ => none

/-- The value at the end of some steps. -/
def at? : Json → List Step → Option Json
  | j, [] => some j
  | j, step :: path => (j.behind? step).bind fun inner => at? inner path

/-- What a value is, without what is inside of it. -/
inductive Node
  | null
  | bool (value : Bool)
  | number (value : Number)
  | text (value : String)
  | array (length : Nat)
  | object (keys : List String)
  deriving DecidableEq, Repr

/-- The node of a value. -/
def node : Json → Node
  | null => .null
  | bool value => .bool value
  | number value => .number value
  | text value => .text value
  | array items => .array items.length
  | object members => .object (members.map Prod.fst)

/-! ### Texts -/

mutual

/-- The texts inside a value with the steps that lead to them, in reading order. -/
def textsIn : Json → List (List Step × String)
  | text s => [([], s)]
  | array items => textsInItems 0 items
  | object members => textsInMembers members
  | null | bool _ | number _ => []

/-- The texts inside the items of an array, from an index on. -/
def textsInItems : (index : Nat) → List Json → List (List Step × String)
  | _, [] => []
  | i, item :: rest =>
    item.textsIn.map (fun (path, s) => (.item i :: path, s)) ++ textsInItems (i + 1) rest

/-- The texts inside the members of an object. -/
def textsInMembers : Members → List (List Step × String)
  | [] => []
  | (key, value) :: rest =>
    value.textsIn.map (fun (path, s) => (.member key :: path, s)) ++ textsInMembers rest

end

theorem mem_map_step {step : Step} {found : List (List Step × String)} {path : List Step}
    {s : String} :
    (path, s) ∈ found.map (fun (path, s) => (step :: path, s)) ↔
      ∃ rest, path = step :: rest ∧ (rest, s) ∈ found := by
  constructor
  · intro h
    obtain ⟨⟨rest, s'⟩, hmem, heq⟩ := List.mem_map.mp h
    cases heq
    exact ⟨rest, rfl, hmem⟩
  · rintro ⟨rest, rfl, hmem⟩
    exact List.mem_map.mpr ⟨(rest, s), hmem, rfl⟩

/-- A smaller key in front hides no other one. -/
theorem lookup_cons_of_lookup {key other : String} {value inner : Json} {members : Members}
    (hfirst : ∀ m ∈ members, key < m.1) (h : members.lookup other = some inner) :
    ((key, value) :: members).lookup other = some inner := by
  rw [List.lookup_cons]
  cases heq : other == key with
  | false => exact h
  | true =>
    obtain ⟨before, after, rfl, -⟩ := List.lookup_eq_some_iff.mp h
    have hlt := hfirst (other, inner) (List.mem_append_right _ List.mem_cons_self)
    rw [eq_of_beq heq] at hlt
    exact absurd hlt (String.lt_irrefl key)

mutual

/-- A text is found where the steps lead to one, and only there. -/
theorem mem_textsIn : ∀ {j : Json}, j.IsSorted → ∀ {path : List Step} {s : String},
    (path, s) ∈ j.textsIn ↔ j.at? path = some (text s)
  | .text t, _, path, s => by
    cases path with
    | nil => simp [textsIn, at?, eq_comm]
    | cons step path => cases step <;> simp [textsIn, at?, behind?]
  | .array items, .array hitems, path, s => by
    rw [textsIn, mem_textsInItems hitems]
    cases path with
    | nil => simp [at?]
    | cons step path => cases step <;> simp [at?, behind?, Option.bind_eq_some_iff]
  | .object members, .object hkeys hmembers, path, s => by
    rw [textsIn, mem_textsInMembers hkeys hmembers]
    cases path with
    | nil => simp [at?]
    | cons step path => cases step <;> simp [at?, behind?, Option.bind_eq_some_iff]
  | .null, _, path, s => by cases path <;> simp [textsIn, at?, behind?]
  | .bool _, _, path, s => by cases path <;> simp [textsIn, at?, behind?]
  | .number _, _, path, s => by cases path <;> simp [textsIn, at?, behind?]

theorem mem_textsInItems : ∀ {items : List Json}, (∀ item ∈ items, item.IsSorted) →
    ∀ {first : Nat} {path : List Step} {s : String}, (path, s) ∈ textsInItems first items ↔
      ∃ i inner rest, path = .item (first + i) :: rest ∧ items[i]? = some inner ∧
        inner.at? rest = some (text s)
  | [], _, first, path, s => by simp [textsInItems]
  | item :: items, hitems, first, path, s => by
    rw [textsInItems, List.mem_append, mem_map_step,
      mem_textsInItems fun other hother => hitems other (List.mem_cons_of_mem _ hother)]
    constructor
    · rintro (⟨rest, rfl, hrest⟩ | ⟨i, inner, rest, rfl, hinner, hrest⟩)
      · exact ⟨0, item, rest, rfl, rfl, (mem_textsIn (hitems item List.mem_cons_self)).mp hrest⟩
      · exact ⟨i + 1, inner, rest, by rw [Nat.add_right_comm, Nat.add_assoc], hinner, hrest⟩
    · rintro ⟨i, inner, rest, rfl, hinner, hrest⟩
      cases i with
      | zero =>
        cases hinner
        exact .inl ⟨rest, rfl, (mem_textsIn (hitems _ List.mem_cons_self)).mpr hrest⟩
      | succ i =>
        exact .inr ⟨i, inner, rest, by rw [Nat.add_right_comm, Nat.add_assoc], hinner, hrest⟩

theorem mem_textsInMembers : ∀ {members : Members},
    (members.Pairwise fun m n => m.1 < n.1) → (∀ m ∈ members, m.2.IsSorted) →
    ∀ {path : List Step} {s : String}, (path, s) ∈ textsInMembers members ↔
      ∃ key inner rest, path = .member key :: rest ∧ members.lookup key = some inner ∧
        inner.at? rest = some (text s)
  | [], _, _, path, s => by simp [textsInMembers]
  | (key, value) :: members, hkeys, hmembers, path, s => by
    obtain ⟨hfirst, hrest⟩ := List.pairwise_cons.mp hkeys
    have hvalue := hmembers (key, value) List.mem_cons_self
    rw [textsInMembers, List.mem_append, mem_map_step,
      mem_textsInMembers hrest fun m hm => hmembers m (List.mem_cons_of_mem _ hm)]
    constructor
    · rintro (⟨rest, rfl, hfound⟩ | ⟨other, inner, rest, rfl, hinner, hfound⟩)
      · exact ⟨key, value, rest, rfl, List.lookup_cons_self, (mem_textsIn hvalue).mp hfound⟩
      · exact ⟨other, inner, rest, rfl, lookup_cons_of_lookup hfirst hinner, hfound⟩
    · rintro ⟨other, inner, rest, rfl, hinner, hfound⟩
      -- Keys differ, so a path through an equal key goes through the first member.
      rw [List.lookup_cons] at hinner
      cases heq : other == key with
      | true =>
        rw [heq] at hinner
        cases hinner
        exact .inl ⟨rest, by rw [eq_of_beq heq], (mem_textsIn hvalue).mpr hfound⟩
      | false =>
        rw [heq] at hinner
        exact .inr ⟨other, inner, rest, rfl, hinner, hfound⟩

end

/-! ### Reading order -/

/-- One step comes before another one in the same value. -/
def Step.Before : Step → Step → Prop
  | .item i, .item k => i < k
  | .member key, .member other => key < other
  | _, _ => False

theorem pairwise_map_step {step : Step} {found : List (List Step × String)}
    (h : found.Pairwise fun a b => List.Lex Step.Before a.1 b.1) :
    (found.map fun (path, s) => (step :: path, s)).Pairwise fun a b =>
      List.Lex Step.Before a.1 b.1 :=
  List.pairwise_map.mpr (h.imp fun hlex => .cons hlex)

mutual

/-- The texts are in reading order. -/
theorem textsIn_pairwise : ∀ {j : Json}, j.IsSorted →
    j.textsIn.Pairwise fun a b => List.Lex Step.Before a.1 b.1
  | .text _, _ => List.pairwise_singleton _ _
  | .array _, .array hitems => textsInItems_pairwise hitems 0
  | .object _, .object hkeys hmembers => textsInMembers_pairwise hkeys hmembers
  | .null, _ => List.Pairwise.nil
  | .bool _, _ => List.Pairwise.nil
  | .number _, _ => List.Pairwise.nil

theorem textsInItems_pairwise : ∀ {items : List Json}, (∀ item ∈ items, item.IsSorted) →
    ∀ first : Nat, (textsInItems first items).Pairwise fun a b => List.Lex Step.Before a.1 b.1
  | [], _, _ => List.Pairwise.nil
  | item :: items, hitems, first => by
    have hrest : ∀ other ∈ items, other.IsSorted :=
      fun other hother => hitems other (List.mem_cons_of_mem _ hother)
    refine List.pairwise_append.mpr
      ⟨pairwise_map_step (textsIn_pairwise (hitems item List.mem_cons_self)),
        textsInItems_pairwise hrest (first + 1), ?_⟩
    -- texts of different items are told apart by their first steps
    rintro ⟨path, s⟩ hs ⟨path', s'⟩ hs'
    obtain ⟨rest, rfl, -⟩ := mem_map_step.mp hs
    obtain ⟨i, inner, rest', rfl, -⟩ := (mem_textsInItems hrest).mp hs'
    exact .rel (show first < first + 1 + i by omega)

theorem textsInMembers_pairwise : ∀ {members : Members},
    (members.Pairwise fun m n => m.1 < n.1) → (∀ m ∈ members, m.2.IsSorted) →
    (textsInMembers members).Pairwise fun a b => List.Lex Step.Before a.1 b.1
  | [], _, _ => List.Pairwise.nil
  | (key, value) :: members, hkeys, hmembers => by
    obtain ⟨hfirst, hrest⟩ := List.pairwise_cons.mp hkeys
    have hmembers' : ∀ m ∈ members, m.2.IsSorted :=
      fun m hm => hmembers m (List.mem_cons_of_mem _ hm)
    refine List.pairwise_append.mpr
      ⟨pairwise_map_step (textsIn_pairwise (hmembers _ List.mem_cons_self)),
        textsInMembers_pairwise hrest hmembers', ?_⟩
    rintro ⟨path, s⟩ hs ⟨path', s'⟩ hs'
    obtain ⟨rest, rfl, -⟩ := mem_map_step.mp hs
    obtain ⟨other, inner, rest', rfl, hinner, -⟩ := (mem_textsInMembers hrest hmembers').mp hs'
    obtain ⟨before, after, hsplit, -⟩ := List.lookup_eq_some_iff.mp hinner
    exact .rel (hfirst (other, inner) (hsplit ▸ List.mem_append_right _ List.mem_cons_self))

end

end FlowPilot.Json
