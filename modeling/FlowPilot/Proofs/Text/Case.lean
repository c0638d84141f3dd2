import FlowPilot.Proofs.Text.Category
import FlowPilot.Text.Case

/-!
# Case mapping is done once

What a case mapping makes of a character is left alone by the same mapping: the small form of a
character consists of characters that are their own small forms, and so does its capital form. This
is a property of the tables: what they give for code points that they change they do not change.

## Main definitions

* `Text.Case.taken`, `Text.Case.given`: the code points that a mapping changes, and what it gives
  for them.
* `Text.Case.OwnForm`: a code point that a case mapping leaves alone.

## Main statements

* `Text.Case.ownForm_of_mem_formOf`: forms of a mapping that is done once are left alone.
* `Text.smallForm_of_mem`, `Text.capitalForm_of_mem`: small and capital forms are final.
-/

namespace FlowPilot.Text

namespace Case

/-! ### What a mapping changes -/

/-- The code points that a shift moves. -/
def Shift.sources (s : Shift) : List Nat :=
  List.range' s.first ((s.last - s.first) / s.step + 1) s.step

theorem Shift.mem_sources {s : Shift} {n m : Nat} (h : s.image? n = some m) :
    n ∈ s.sources ∧ m = s.target + (n - s.first) := by
  unfold image? at h
  split at h
  next hmoves =>
    obtain ⟨hfirst, hlast, hstep⟩ := hmoves
    refine ⟨List.mem_range'.mpr ⟨(n - s.first) / s.step, ?_, ?_⟩, (Option.some.inj h).symm⟩
    · exact Nat.lt_succ_of_le (Nat.div_le_div_right (by omega))
    · have hsplit := Nat.div_add_mod (n - s.first) s.step
      omega
  next => cases h

/-- The code points that a mapping changes. -/
def taken (several : List (Nat × List Nat)) (shifts : List Shift) : List Nat :=
  several.map (·.1) ++ shifts.flatMap Shift.sources

/-- What a mapping gives for the code points that it changes. -/
def given (several : List (Nat × List Nat)) (shifts : List Shift) : List Nat :=
  several.flatMap (·.2) ++ shifts.flatMap fun s => s.sources.map fun n => s.target + (n - s.first)

/-- A code point that a case mapping leaves alone. -/
def OwnForm (several : List (Nat × List Nat)) (shifts : List Shift) (n : Nat) : Prop :=
  formOf several shifts n = [n]

section Forms

variable {several : List (Nat × List Nat)} {shifts : List Shift} {n m : Nat}

theorem ownForm_of_unmoved (hseveral : several.lookup n = none)
    (hshifts : ∀ s ∈ shifts, s.image? n = none) : OwnForm several shifts n := by
  have hmoved : shifts.findSome? (·.image? n) = none := List.findSome?_eq_none_iff.mpr hshifts
  rw [OwnForm, formOf, hseveral, hmoved]

theorem ownForm_of_not_mem_taken (h : n ∉ taken several shifts) : OwnForm several shifts n := by
  rw [taken, List.mem_append, not_or] at h
  obtain ⟨hseveral, hshifts⟩ := h
  refine ownForm_of_unmoved (List.lookup_eq_none_iff.mpr fun entry hentry => ?_) fun s hs => ?_
  · rw [bne_iff_ne]
    rintro rfl
    exact hseveral (List.mem_map_of_mem hentry)
  · cases himage : s.image? n with
    | none => rfl
    | some m => exact absurd (List.mem_flatMap_of_mem hs (Shift.mem_sources himage).1) hshifts

/-- A form is written in the table of several letters, or a shift leads to it, or it is the code
point itself, which nothing moves then. -/
theorem mem_formOf (h : m ∈ formOf several shifts n) :
    (∃ entry ∈ several, entry.1 = n ∧ m ∈ entry.2) ∨ (∃ s ∈ shifts, s.image? n = some m) ∨
      m = n ∧ OwnForm several shifts n := by
  unfold formOf at h
  cases hentry : several.lookup n with
  | some form =>
    rw [hentry] at h
    obtain ⟨before, after, hsplit, -⟩ := List.lookup_eq_some_iff.mp hentry
    exact .inl ⟨(n, form), by simp [hsplit], rfl, h⟩
  | none =>
    cases hmoved : shifts.findSome? (·.image? n) with
    | some image =>
      obtain ⟨s, hs, himage⟩ := List.exists_of_findSome?_eq_some hmoved
      rw [hentry, hmoved, List.mem_singleton] at h
      exact .inr (.inl ⟨s, hs, h ▸ himage⟩)
    | none =>
      rw [hentry, hmoved, List.mem_singleton] at h
      exact .inr (.inr ⟨h, ownForm_of_unmoved hentry (List.findSome?_eq_none_iff.mp hmoved)⟩)

theorem mem_given_of_mem_formOf (h : m ∈ formOf several shifts n) :
    m ∈ given several shifts ∨ m = n ∧ OwnForm several shifts n := by
  rcases mem_formOf h with ⟨entry, hentry, -, hm⟩ | ⟨s, hs, himage⟩ | hself
  · exact .inl (List.mem_append_left _ (List.mem_flatMap_of_mem hentry hm))
  · obtain ⟨hsource, rfl⟩ := Shift.mem_sources himage
    exact .inl (List.mem_append_right _ (List.mem_flatMap_of_mem hs (List.mem_map_of_mem hsource)))
  · exact .inr hself

/-- Tables of a mapping that is done once: what they give they do not change, nor the code point
zero, which stands for those that no character has. -/
def IsFinal (several : List (Nat × List Nat)) (shifts : List Shift) : Prop :=
  points (0 :: given several shifts) &&& points (taken several shifts) = 0

instance : Decidable (IsFinal several shifts) := inferInstanceAs (Decidable (_ = _))

theorem ownForm_of_mem_given (h : IsFinal several shifts) (hm : m ∈ 0 :: given several shifts) :
    OwnForm several shifts m := by
  refine ownForm_of_not_mem_taken fun htaken => ?_
  have hout := testBit_eq_false_of_land h (testBit_points_iff.mpr hm)
  rw [testBit_points_iff.mpr htaken] at hout
  cases hout

theorem ownForm_of_mem_formOf (h : IsFinal several shifts) (hm : m ∈ formOf several shifts n) :
    OwnForm several shifts m := by
  rcases mem_given_of_mem_formOf hm with hm | ⟨rfl, hown⟩
  · exact ownForm_of_mem_given h (List.mem_cons_of_mem 0 hm)
  · exact hown

end Forms

theorem toSmall_isFinal : IsFinal toSmallSeveral toSmall := by decide +kernel

theorem toCapital_isFinal : IsFinal toCapitalSeveral toCapital := by decide +kernel

/-- Below 128 only the first shift of a table counts if all others start later. -/
theorem formOf_ascii {several : List (Nat × List Nat)} {letters : Shift} {rest : List Shift}
    (hseveral : (several.all fun entry => Nat.ble 128 entry.1) = true)
    (hrest : (rest.all fun s => Nat.ble 128 s.first) = true) {n : Nat} (hn : n < 128) :
    formOf several (letters :: rest) n = [(letters.image? n).getD n] := by
  have hsingle : several.lookup n = none := by
    rw [List.lookup_eq_none_iff]
    intro entry hentry
    have hlarge := Nat.le_of_ble_eq_true (List.all_eq_true.mp hseveral entry hentry)
    rw [bne_iff_ne]
    omega
  have hunmoved : rest.findSome? (·.image? n) = none := by
    rw [List.findSome?_eq_none_iff]
    intro s hs
    have hlarge := Nat.le_of_ble_eq_true (List.all_eq_true.mp hrest s hs)
    exact if_neg fun hmoves => by omega
  rw [formOf, hsingle, List.findSome?_cons]
  cases letters.image? n with
  | some m => rfl
  | none => simp [hunmoved]

end Case

/-! ### Forms of characters -/

theorem toNat_ofNat {n : Nat} (h : n.isValidChar) : (Char.ofNat n).toNat = n := by
  rw [Char.ofNat, dif_pos h]
  rfl

/-- A code point that no character has stands for the character with the code point zero. -/
theorem ofNat_of_not_valid {n : Nat} (h : ¬n.isValidChar) : Char.ofNat n = Char.ofNat 0 := by
  rw [Char.ofNat, dif_neg h]
  rfl

/-- The letters below 128 that a form treats apart are in its table too, as the first shift. -/
theorem form_eq {ascii : Char → Char} {several : List (Nat × List Nat)} {rest : List Case.Shift}
    (letters : Case.Shift) (hseveral : (several.all fun entry => Nat.ble 128 entry.1) = true)
    (hrest : (rest.all fun s => Nat.ble 128 s.first) = true)
    (hascii : ∀ n < 128, ascii (Char.ofNat n) = Char.ofNat ((letters.image? n).getD n)) (c : Char) :
    (if c.toNat < 128 then [ascii c]
      else (Case.formOf several (letters :: rest) c.toNat).map Char.ofNat) =
      (Case.formOf several (letters :: rest) c.toNat).map Char.ofNat := by
  split
  next hc =>
    rw [Case.formOf_ascii hseveral hrest hc]
    simpa using hascii c.toNat hc
  next => rfl

theorem smallForm_eq (c : Char) :
    smallForm c = (Case.formOf Case.toSmallSeveral Case.toSmall c.toNat).map Char.ofNat :=
  form_eq ⟨0x41, 0x5A, 1, 0x61⟩ (by decide +kernel) (by decide +kernel) (by decide +kernel) c

theorem capitalForm_eq (c : Char) :
    capitalForm c = (Case.formOf Case.toCapitalSeveral Case.toCapital c.toNat).map Char.ofNat :=
  form_eq ⟨0x61, 0x7A, 1, 0x41⟩ (by decide +kernel) (by decide +kernel) (by decide +kernel) c

/-- A code point that a form consists of gives a character that is left alone. -/
theorem map_formOf_ofNat {several : List (Nat × List Nat)} {shifts : List Case.Shift}
    (h : Case.IsFinal several shifts) {n m : Nat} (hm : m ∈ Case.formOf several shifts n) :
    (Case.formOf several shifts (Char.ofNat m).toNat).map Char.ofNat = [Char.ofNat m] := by
  by_cases hvalid : m.isValidChar
  · rw [toNat_ofNat hvalid, Case.ownForm_of_mem_formOf h hm, List.map_singleton]
  · rw [ofNat_of_not_valid hvalid]
    exact congrArg (List.map Char.ofNat) (Case.ownForm_of_mem_given h List.mem_cons_self)

theorem smallForm_of_mem {c d : Char} (h : d ∈ smallForm c) : smallForm d = [d] := by
  rw [smallForm_eq] at h ⊢
  obtain ⟨m, hm, rfl⟩ := List.mem_map.mp h
  exact map_formOf_ofNat Case.toSmall_isFinal hm

theorem capitalForm_of_mem {c d : Char} (h : d ∈ capitalForm c) : capitalForm d = [d] := by
  rw [capitalForm_eq] at h ⊢
  obtain ⟨m, hm, rfl⟩ := List.mem_map.mp h
  exact map_formOf_ofNat Case.toCapital_isFinal hm

end FlowPilot.Text
