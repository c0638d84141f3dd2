import FlowPilot.Invoice

/-!
# What an invoice number shows

An invoice number shows fifteen digits in three groups. Which fifteen these are depends on how many
digits its sources have, and on nothing else that stands in them. The digits of the number are the
number without its hyphens, and they lead back to it.

## Main definitions

* `Invoice.Grouped`: a text that shows fifteen digits in groups.

## Main statements

* `Invoice.grouped?_eq_some_iff`: digits are grouped if there are fifteen of them.
* `Invoice.number_grouped`: the digits that a number shows, and the way back to the number.
-/

namespace FlowPilot.Invoice

/-- A text that shows digits in groups of three, three and nine, with a hyphen between them. -/
inductive Grouped : List Char → String → Prop
  | intro {branch till serial : List Char} (hbranch : branch.length = 3) (htill : till.length = 3)
      (hserial : serial.length = 9) :
      Grouped (branch ++ till ++ serial)
        (String.ofList (branch ++ '-' :: (till ++ '-' :: serial)))

/-! ### Grouping -/

theorem Grouped.length {ds : List Char} {s : String} (h : Grouped ds s) : ds.length = 15 := by
  obtain ⟨hbranch, htill, hserial⟩ := h
  simp [hbranch, htill, hserial]

theorem grouped?_eq_some_iff {ds : List Char} {s : String} :
    grouped? ds = some s ↔ Grouped ds s := by
  constructor
  · intro h
    unfold grouped? at h
    split at h
    next hlength =>
      have hdigits : ds.take 3 ++ (ds.drop 3).take 3 ++ ds.drop 6 = ds := by
        have hrest : (ds.drop 3).take 3 ++ ds.drop 6 = ds.drop 3 := by
          rw [show ds.drop 6 = (ds.drop 3).drop 3 by rw [List.drop_drop], List.take_append_drop]
        rw [List.append_assoc, hrest, List.take_append_drop]
      have hgrouped : Grouped (ds.take 3 ++ (ds.drop 3).take 3 ++ ds.drop 6)
          (String.ofList (ds.take 3 ++ '-' :: ((ds.drop 3).take 3 ++ '-' :: ds.drop 6))) :=
        .intro (by simp [hlength]) (by simp [hlength]) (by simp [hlength])
      rw [hdigits] at hgrouped
      rw [← Option.some.inj h]
      simpa using hgrouped
    next => cases h
  · intro h
    have hlength := h.length
    obtain ⟨hbranch, htill, hserial⟩ := h
    rename_i branch till serial
    have htake : (branch ++ till ++ serial).take 3 = branch := by simp [hbranch]
    have hmiddle : ((branch ++ till ++ serial).drop 3).take 3 = till := by
      rw [List.append_assoc, List.drop_left' hbranch, List.take_left' htill]
    have hdrop : (branch ++ till ++ serial).drop 6 = serial :=
      List.drop_left' (by simp [hbranch, htill])
    rw [grouped?, if_pos hlength, htake, hmiddle, hdrop]
    simp

/-- Digits that are not fifteen are not grouped. -/
theorem grouped?_eq_none {ds : List Char} (h : ds.length ≠ 15) : grouped? ds = none := if_neg h

theorem exists_grouped {ds : List Char} (h : ds.length = 15) :
    ∃ s, grouped? ds = some s ∧ Grouped ds s := by
  have hsome : grouped? ds = some _ := if_pos h
  exact ⟨_, hsome, grouped?_eq_some_iff.mp hsome⟩

/-! ### The digits of a number -/

theorem isDigit_of_mem_digitsOf {s : String} {c : Char} (h : c ∈ digitsOf s) : isDigit c = true :=
  (List.mem_filter.mp h).2

theorem ne_hyphen_of_isDigit {c : Char} (h : isDigit c = true) : (c != '-') = true := by
  rw [bne_iff_ne]
  rintro rfl
  exact absurd h (by decide)

section Digits

variable {ds : List Char} {s : String}

/-- A number shows its own digits. -/
theorem Grouped.digitsOf_eq (h : Grouped ds s) (hds : ∀ d ∈ ds, isDigit d = true) :
    digitsOf s = ds := by
  have hall : ds.filter isDigit = ds := List.filter_eq_self.mpr hds
  obtain ⟨hbranch, htill, hserial⟩ := h
  have hhyphen : isDigit '-' = false := by decide
  simpa [digitsOf, List.filter_append, List.filter_cons, hhyphen] using hall

/-- Without its hyphens a number is its digits. -/
theorem Grouped.compact_eq (h : Grouped ds s) (hds : ∀ d ∈ ds, isDigit d = true) :
    compact s = String.ofList ds := by
  have hall : ds.filter (· != '-') = ds :=
    List.filter_eq_self.mpr fun d hd => ne_hyphen_of_isDigit (hds d hd)
  obtain ⟨hbranch, htill, hserial⟩ := h
  rw [compact, String.toList_ofList]
  congr 1
  simpa [List.filter_append, List.filter_cons] using hall

/-- Whatever shows the digits of a number becomes that number. -/
theorem Grouped.number_eq {source : String} (h : Grouped (digitsOf source) s) (accessKey : String) :
    number source accessKey = s := by
  rw [number, grouped?_eq_some_iff.mpr h]
  rfl

/-- A number that shows digits is found again from itself and from its digits alone. -/
theorem Grouped.number_again (h : Grouped ds s) (hds : ∀ d ∈ ds, isDigit d = true)
    (accessKey : String) : number s accessKey = s ∧ number (compact s) accessKey = s := by
  have hcompact : digitsOf (compact s) = ds := by
    rw [h.compact_eq hds, digitsOf, String.toList_ofList]
    exact List.filter_eq_self.mpr hds
  exact ⟨Grouped.number_eq ((h.digitsOf_eq hds).symm ▸ h) accessKey,
    Grouped.number_eq (hcompact.symm ▸ h) accessKey⟩

end Digits

/-- The number is that of the plan if this has fifteen digits, whatever the access key is, else it
is cut from an access key of forty-nine digits, else it is empty. A number that is not empty shows
fifteen digits, is these digits without its hyphens, and stays what it is when it is read again,
with or without the hyphens and beside any access key. -/
theorem number_grouped (source accessKey : String) :
    (if (digitsOf source).length = 15 then Grouped (digitsOf source) (number source accessKey)
      else if (digitsOf accessKey).length = 49 then
        Grouped ((digitsOf accessKey).extract 24 39) (number source accessKey)
      else number source accessKey = "") ∧
    (number source accessKey = "" ∨
      (digitsOf (number source accessKey)).length = 15 ∧
      compact (number source accessKey) = String.ofList (digitsOf (number source accessKey)) ∧
      ∀ other, number (number source accessKey) other = number source accessKey ∧
        number (compact (number source accessKey)) other = number source accessKey) := by
  -- The second part follows from the digits that the number shows, wherever they come from.
  have hagain : ∀ {ds : List Char} {s : String}, Grouped ds s → (∀ d ∈ ds, isDigit d = true) →
      s = "" ∨ (digitsOf s).length = 15 ∧ compact s = String.ofList (digitsOf s) ∧
        ∀ other, number s other = s ∧ number (compact s) other = s := by
    intro ds s h hds
    rw [h.digitsOf_eq hds]
    exact .inr ⟨h.length, h.compact_eq hds, h.number_again hds⟩
  by_cases hsource : (digitsOf source).length = 15
  · obtain ⟨s, -, hgrouped⟩ := exists_grouped hsource
    rw [if_pos hsource, hgrouped.number_eq accessKey]
    exact ⟨hgrouped, hagain hgrouped fun d hd => isDigit_of_mem_digitsOf hd⟩
  rw [if_neg hsource]
  have hnumber : number source accessKey = (ofAccessKey? accessKey).getD "" := by
    rw [number, grouped?_eq_none hsource]
    rfl
  by_cases hkey : (digitsOf accessKey).length = 49
  · have hserial : ((digitsOf accessKey).extract 24 39).length = 15 := by simp [hkey]
    obtain ⟨s, hs, hgrouped⟩ := exists_grouped hserial
    have hcut : ofAccessKey? accessKey = some s := by
      rw [ofAccessKey?, if_pos hkey]
      exact hs
    rw [if_pos hkey, hnumber, hcut, Option.getD_some]
    refine ⟨hgrouped, hagain hgrouped fun d hd => isDigit_of_mem_digitsOf (s := accessKey) ?_⟩
    exact List.mem_of_mem_drop (List.mem_of_mem_take hd)
  · have hempty : number source accessKey = "" := by
      rw [hnumber, ofAccessKey?, if_neg hkey]
      rfl
    rw [if_neg hkey]
    exact ⟨hempty, .inl hempty⟩

/-- Blanks and letters around the digits of a number do not count. -/
example : number "N. 001 052 004601882" "" = "001-052-004601882" := by decide +kernel

end FlowPilot.Invoice
