import FlowPilot.Evidence
import FlowPilot.Proofs.Text.Normal

/-!
# Names of pictures

Whatever a label is made from, it is short, is never empty and holds harmless characters alone, so
that it is its own label. The name of a picture joins the moment, the label and the suffix; colons
and dots are taken out of the moment, and so the dot of the suffix is the only one, and nothing in
the name separates directories.

## Main definitions

* `Evidence.IsLabel`: a text that is a label.
* `Evidence.IsMoment`: a moment as RFC 3339 writes it.
* `Evidence.IsPlain`: a text without dots and without separators of directories.

## Main statements

* `Evidence.label_eq_self_iff`: labels are the texts that are their own labels.
* `Evidence.exists_plain_fileName`: the name of a picture is plain up to its suffix.
-/

namespace FlowPilot.Evidence

open Text

variable {c : Char} {s t moment : String}

/-! ### Plain texts -/

/-- A text without dots and without separators of directories. -/
def IsPlain (s : String) : Prop := ∀ c ∈ s.toList, c ≠ '/' ∧ c ≠ '\\' ∧ c ≠ '.'

instance (s : String) : Decidable (IsPlain s) :=
  List.decidableBAll (fun c => c ≠ '/' ∧ c ≠ '\\' ∧ c ≠ '.') s.toList

theorem IsPlain.append (hs : IsPlain s) (ht : IsPlain t) : IsPlain (s ++ t) := by
  intro c hc
  rw [String.toList_append, List.mem_append] at hc
  exact hc.elim (hs c) (ht c)

/-! ### Labels -/

/-- A text that is a label. -/
structure IsLabel (s : String) : Prop where
  length_pos : 1 ≤ s.length
  length_le : s.length ≤ maxLabelLength
  chars : ∀ c ∈ s.toList, isLabelChar c = true

theorem lt_of_isLabelChar (h : isLabelChar c = true) : c.toNat < 128 := by
  simp only [isLabelChar, Bool.or_eq_true, Bool.and_eq_true, decide_eq_true_eq, beq_iff_eq] at h
  rcases h with ((h | h) | rfl) | rfl
  · exact Nat.lt_of_le_of_lt h.2 (by decide)
  · exact Nat.lt_of_le_of_lt h.2 (by decide)
  · decide
  · decide

/-- No character of labels is trimmed away, and none has another small form. -/
theorem stays_of_isLabelChar (h : isLabelChar c = true) : isBlank c = false ∧ IsLowered c := by
  have hall : ∀ n < 128, isLabelChar (Char.ofNat n) = true →
      isBlank (Char.ofNat n) = false ∧ smallForm (Char.ofNat n) = [Char.ofNat n] ∧
        Char.ofNat n ≠ capitalSigma := by
    decide +kernel
  have hc := hall c.toNat (lt_of_isLabelChar h)
  rw [Char.ofNat_toNat] at hc
  exact hc h

theorem IsLabel.isPlain (h : IsLabel s) : IsPlain s := by
  intro c hc
  have hchar := h.chars c hc
  refine ⟨?_, ?_, ?_⟩
  all_goals
    rintro rfl
    exact absurd hchar (by decide)

theorem isLabel_label (raw : String) : IsLabel (label raw) := by
  unfold label
  dsimp only
  split
  · exact ⟨by decide, by decide, List.all_eq_true.mp (by decide)⟩
  next cs hne =>
    refine ⟨?_, ?_, fun c hc => ?_⟩
    · rw [String.length_ofList]
      exact List.length_pos_iff.mpr hne
    · rw [String.length_ofList]
      exact List.length_take_le _ _
    · rw [String.toList_ofList] at hc
      obtain ⟨d, -, rfl⟩ := List.mem_map.mp (List.mem_of_mem_take hc)
      split
      · assumption
      · rfl

theorem label_of_isLabel (h : IsLabel s) : label s = s := by
  have htrim : trim s = s := trim_of_not_blank fun c hc => (stays_of_isLabelChar (h.chars c hc)).1
  have hlower : lower s = s := by
    rw [lower, lowerFrom_of_isLowered fun c hc => (stays_of_isLabelChar (h.chars c hc)).2,
      String.ofList_toList]
  have hsafe : (s.toList.map fun c => if isLabelChar c then c else '_') = s.toList :=
    (List.map_congr_left fun c hc => if_pos (h.chars c hc)).trans (List.map_id _)
  have hclip : s.toList.take maxLabelLength = s.toList := List.take_of_length_le h.length_le
  unfold label
  dsimp only
  rw [htrim, hlower, hsafe, hclip]
  split
  next hnil => exact absurd h.length_pos (by rw [String.length, hnil]; decide)
  next => exact String.ofList_toList

theorem label_eq_self_iff : label s = s ↔ IsLabel s :=
  ⟨fun h => h ▸ isLabel_label s, label_of_isLabel⟩

/-! ### Names -/

/-- The characters of moments as RFC 3339 writes them. -/
def isMomentChar (c : Char) : Bool :=
  ('0' ≤ c && c ≤ '9') || ['T', 'Z', '+', '-', ':', '.'].contains c

/-- A moment as RFC 3339 writes it. -/
def IsMoment (s : String) : Prop := ∀ c ∈ s.toList, isMomentChar c = true

instance (s : String) : Decidable (IsMoment s) :=
  List.decidableBAll (fun c => isMomentChar c = true) s.toList

theorem stamp_isPlain (h : IsMoment moment) : IsPlain (stamp moment) := by
  intro c hc
  rw [stamp, String.toList_ofList] at hc
  obtain ⟨d, hd, rfl⟩ := List.mem_map.mp hc
  split
  next => decide
  next hkept =>
    simp only [Bool.or_eq_true, beq_iff_eq, not_or] at hkept
    refine ⟨?_, ?_, hkept.2⟩
    all_goals
      rintro rfl
      exact absurd (h _ hd) (by decide)

/-- The name of a picture is a plain text, which is not empty, and the suffix. -/
theorem exists_plain_fileName (h : IsMoment moment) (raw : String) :
    ∃ base, fileName moment raw = base ++ ".png" ∧ base ≠ "" ∧ IsPlain base := by
  have hlabel := isLabel_label raw
  have hjoint : IsPlain "_" := by decide
  refine ⟨stamp moment ++ "_" ++ label raw, rfl, fun hempty => ?_,
    ((stamp_isPlain h).append hjoint).append hlabel.isPlain⟩
  have hlength : (stamp moment ++ "_" ++ label raw).length = 0 := congrArg String.length hempty
  have hpos := hlabel.length_pos
  rw [String.length_append] at hlength
  omega

end FlowPilot.Evidence
