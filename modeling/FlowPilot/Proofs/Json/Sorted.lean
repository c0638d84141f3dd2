import FlowPilot.Json.Parser
import Mathlib.Data.String.Basic

/-!
# Key order

The members of an object are kept in the order of their keys, each key once, whatever the order in
which they are set or written.

## Main definitions

* `Json.IsSorted`: the members of all objects inside a value are in key order.

## Main statements

* `Json.isSorted_ofMembers`: an object is sorted if its values are.
* `Json.isSorted_of_parse?`: every value that is read is sorted.
-/

namespace FlowPilot.Json

/-- The members of every object inside a value are in key order, each key once. -/
inductive IsSorted : Json → Prop
  | null : IsSorted null
  | bool (value : Bool) : IsSorted (bool value)
  | number (value : Number) : IsSorted (number value)
  | text (value : String) : IsSorted (text value)
  | array {items : List Json} (hitems : ∀ item ∈ items, IsSorted item) : IsSorted (array items)
  | object {members : Members} (hkeys : members.Pairwise fun m n => m.1 < n.1)
      (hmembers : ∀ m ∈ members, IsSorted m.2) : IsSorted (object members)

/-! ### Setting members -/

theorem mem_insertMember {key : String} {value : Json} {members : Members} {m : String × Json}
    (h : m ∈ insertMember key value members) : m = (key, value) ∨ m ∈ members := by
  induction members with
  | nil => exact .inl (List.mem_singleton.mp h)
  | cons first rest ih =>
    obtain ⟨k, v⟩ := first
    rw [insertMember] at h
    split at h
    · exact List.mem_cons.mp h
    split at h
    · exact (List.mem_cons.mp h).imp_right (List.mem_cons_of_mem _)
    · rcases List.mem_cons.mp h with rfl | h
      · exact .inr List.mem_cons_self
      · exact (ih h).imp_right (List.mem_cons_of_mem _)

/-- Setting a member keeps the key order. -/
theorem pairwise_insertMember (key : String) (value : Json) {members : Members}
    (h : members.Pairwise fun m n => m.1 < n.1) :
    (insertMember key value members).Pairwise fun m n => m.1 < n.1 := by
  induction members with
  | nil => exact List.pairwise_singleton _ _
  | cons first rest ih =>
    obtain ⟨k, v⟩ := first
    obtain ⟨hfirst, hrest⟩ := List.pairwise_cons.mp h
    rw [insertMember]
    split
    next hlt =>
      refine List.pairwise_cons.mpr ⟨fun m hm => ?_, h⟩
      rcases List.mem_cons.mp hm with rfl | hm
      · exact hlt
      · exact String.lt_trans hlt (hfirst m hm)
    next hnot =>
      split
      next heq => exact List.pairwise_cons.mpr ⟨fun m hm => heq ▸ hfirst m hm, hrest⟩
      -- The key goes behind the first member, and so do the others.
      next hne =>
        have hlt : k < key := lt_of_le_of_ne (not_lt.mp hnot) (Ne.symm hne)
        refine List.pairwise_cons.mpr ⟨fun m hm => ?_, ih hrest⟩
        rcases mem_insertMember hm with rfl | hm
        · exact hlt
        · exact hfirst m hm

theorem isSorted_insertMember {key : String} {value : Json} {members : Members}
    (hvalue : value.IsSorted) (h : (object members).IsSorted) :
    (object (insertMember key value members)).IsSorted := by
  cases h with
  | object hkeys hmembers =>
    refine .object (pairwise_insertMember key value hkeys) fun m hm => ?_
    rcases mem_insertMember hm with rfl | hm
    · exact hvalue
    · exact hmembers m hm

/-- The members of an object may be given in any order. -/
theorem isSorted_ofMembers {members : Members} (h : ∀ m ∈ members, m.2.IsSorted) :
    (ofMembers members).IsSorted := by
  -- What is set so far stays sorted.
  have hfold : ∀ (rest sorted : Members), (∀ m ∈ rest, m.2.IsSorted) →
      (object sorted).IsSorted →
      (object (rest.foldl (fun sorted m => insertMember m.1 m.2 sorted) sorted)).IsSorted := by
    intro rest
    induction rest with
    | nil => exact fun _ _ hsorted => hsorted
    | cons m rest ih =>
      intro sorted hrest hsorted
      exact ih _ (fun n hn => hrest n (List.mem_cons_of_mem _ hn))
        (isSorted_insertMember (hrest m List.mem_cons_self) hsorted)
  exact hfold members [] h (.object .nil fun m hm => absurd hm List.not_mem_nil)

/-! ### Reading -/

section Reading

variable {j : Json} {cs rest : List Char}

theorem isSorted_of_real? {negative : Bool} {significand : Nat} {exponent : Int}
    (h : real? negative significand exponent = some j) : j.IsSorted := by
  obtain ⟨f, -, rfl⟩ := Option.map_eq_some_iff.mp h
  exact .number _

theorem isSorted_of_map_real? {negative : Bool} {significand : Nat} {exponent : Int}
    (h : (real? negative significand exponent).map (·, cs) = some (j, rest)) : j.IsSorted := by
  obtain ⟨j', hj', heq⟩ := Option.map_eq_some_iff.mp h
  cases heq
  exact isSorted_of_real? hj'

theorem isSorted_of_exponentPart? {negative : Bool} {significand : Nat} {start : Int}
    (h : exponentPart? negative significand start cs = some (j, rest)) : j.IsSorted := by
  unfold exponentPart? at h
  rcases signed cs with ⟨down, cs⟩
  dsimp only at h
  split at h
  · cases h
  split at h
  · split at h
    · cases h
    · cases h
      exact .number _
  · exact isSorted_of_map_real? h

theorem isSorted_of_fractionPart? {negative : Bool} {significand : Nat} {start : Int}
    (h : fractionPart? negative significand start cs = some (j, rest)) : j.IsSorted := by
  unfold fractionPart? at h
  rcases takeDigits significand 0 cs with ⟨significand, taken, cs⟩
  dsimp only at h
  split at h
  · cases h
  split at h
  · exact isSorted_of_exponentPart? h
  · exact isSorted_of_map_real? h

theorem isSorted_integer (negative : Bool) (significand : Nat) :
    (integer negative significand).IsSorted := by
  unfold integer
  split
  · exact .number _
  · split <;> exact .number _

theorem isSorted_of_unsignedNumber? {negative : Bool}
    (h : unsignedNumber? negative cs = some (j, rest)) : j.IsSorted := by
  unfold unsignedNumber? at h
  extract_lets whole? at h
  clear_value whole?
  split at h
  · cases h
  split at h
  · exact isSorted_of_fractionPart? h
  split at h
  · exact isSorted_of_exponentPart? h
  split at h
  · cases h
    exact isSorted_integer _ _
  · exact isSorted_of_map_real? h

theorem isSorted_of_number? (h : number? cs = some (j, rest)) : j.IsSorted := by
  unfold number? at h
  split at h <;> exact isSorted_of_unsignedNumber? h

end Reading

mutual

theorem isSorted_of_value? (depth : Nat) : ∀ (left : Nat) {cs rest : List Char} {j : Json},
    value? depth left cs = some (j, rest) → j.IsSorted
  | 0, _, _, _, h => by simp [value?] at h
  | left + 1, cs, rest, j, h => by
    rw [value?.eq_def] at h
    dsimp only at h
    split at h
    · cases h
    · cases h; exact .null
    · cases h; exact .bool _
    · cases h; exact .bool _
    · obtain ⟨⟨s, _⟩, -, heq⟩ := Option.map_eq_some_iff.mp h
      cases heq
      exact .text s
    · split at h
      · cases h
      split at h
      · cases h
        exact .array fun item hitem => absurd hitem List.not_mem_nil
      · obtain ⟨⟨items, _⟩, hitems, heq⟩ := Option.map_eq_some_iff.mp h
        cases heq
        exact .array (isSorted_of_items? _ left hitems)
    · split at h
      · cases h
      split at h
      · cases h
        exact .object .nil fun m hm => absurd hm List.not_mem_nil
      · obtain ⟨⟨members, _⟩, hmembers, heq⟩ := Option.map_eq_some_iff.mp h
        cases heq
        -- The members come in any order; building the object sorts them.
        exact isSorted_ofMembers (isSorted_of_members? _ left hmembers)
    · exact isSorted_of_number? h

theorem isSorted_of_items? (depth : Nat) : ∀ (left : Nat) {cs rest : List Char} {items : List Json},
    items? depth left cs = some (items, rest) → ∀ item ∈ items, item.IsSorted
  | 0, _, _, _, h => by simp [items?] at h
  | left + 1, cs, rest, items, h => by
    rw [items?.eq_def] at h
    dsimp only at h
    split at h
    · cases h
    rename_i item after hitem
    split at h
    · obtain ⟨⟨others, _⟩, hothers, heq⟩ := Option.map_eq_some_iff.mp h
      cases heq
      exact List.forall_mem_cons.mpr
        ⟨isSorted_of_value? depth left hitem, isSorted_of_items? depth left hothers⟩
    · cases h
      exact List.forall_mem_singleton.mpr (isSorted_of_value? depth left hitem)
    · cases h

theorem isSorted_of_members? (depth : Nat) : ∀ (left : Nat) {cs rest : List Char}
    {members : Members}, members? depth left cs = some (members, rest) →
      ∀ m ∈ members, m.2.IsSorted
  | 0, _, _, _, h => by simp [members?] at h
  | left + 1, cs, rest, members, h => by
    rw [members?.eq_def] at h
    dsimp only at h
    split at h
    · split at h
      · cases h
      split at h
      · split at h
        · cases h
        rename_i value after hvalue
        split at h
        · obtain ⟨⟨others, _⟩, hothers, heq⟩ := Option.map_eq_some_iff.mp h
          cases heq
          exact List.forall_mem_cons.mpr
            ⟨isSorted_of_value? depth left hvalue, isSorted_of_members? depth left hothers⟩
        · cases h
          exact List.forall_mem_singleton.mpr (isSorted_of_value? depth left hvalue)
        · cases h
      · cases h
    · cases h

end

/-- Every value that is read is sorted, in whatever order its text has the members. -/
theorem isSorted_of_parse? {s : String} {j : Json} (h : parse? s = some j) : j.IsSorted := by
  unfold parse? at h
  dsimp only at h
  split at h
  next value rest hvalue =>
    split at h
    · cases h
      exact isSorted_of_value? _ _ hvalue
    · cases h
  · cases h

end FlowPilot.Json
