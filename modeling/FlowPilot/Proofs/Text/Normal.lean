import FlowPilot.Proofs.Text.Case
import FlowPilot.Proofs.Text.Runs
import FlowPilot.Table.MatchMode

/-!
# What normal forms keep

The normal form of a text is made of its words, so it does not depend on the blanks, and it is a
normal form itself. A part of a text, wherever it begins and ends, is found again between the normal
forms. The capital sigma is the one letter whose small form depends on what stands around it; where
it does not occur, the small form of a part is a part of the small form.

## Main definitions

* `Text.Recased`: a text whose characters were replaced one by one, blanks by themselves.

## Main statements

* `Text.lower_lower`: small letters stay what they are.
* `Text.lower_infix`: the small form of a part is a part of the small form.
* `Text.normal_canonical`: parts are found in normal forms, normal forms depend on the words alone
  and are their own normal forms.
-/

namespace FlowPilot.Text

/-! ### Small letters -/

/-- A character that small forms consist of. -/
def IsLowered (c : Char) : Prop := smallForm c = [c] ∧ c ≠ capitalSigma

theorem isLowered_of_mem_smallForm {c d : Char} (h : d ∈ smallForm c) : IsLowered d := by
  have hfinal := smallForm_of_mem h
  refine ⟨hfinal, ?_⟩
  rintro rfl
  exact absurd hfinal (by decide +kernel)

theorem isLowered_of_mem_lowerFrom {c : Char} {cs : List Char} :
    ∀ {before : List Char}, c ∈ lowerFrom before cs → IsLowered c := by
  induction cs with
  | nil => exact fun h => absurd h List.not_mem_nil
  | cons d cs ih =>
    intro before h
    rw [lowerFrom] at h
    rcases List.mem_append.mp h with h | h
    · split at h
      · rw [List.mem_singleton] at h
        split at h <;> subst h <;> exact ⟨by decide +kernel, by decide⟩
      · exact isLowered_of_mem_smallForm h
    · exact ih h

/-- Small letters stay, whatever precedes them. -/
theorem lowerFrom_of_isLowered {cs : List Char} (h : ∀ c ∈ cs, IsLowered c) :
    ∀ before : List Char, lowerFrom before cs = cs := by
  induction cs with
  | nil => exact fun _ => rfl
  | cons c cs ih =>
    intro before
    obtain ⟨hform, hsigma⟩ := h c List.mem_cons_self
    rw [lowerFrom, if_neg hsigma, hform, ih fun d hd => h d (List.mem_cons_of_mem c hd)]
    rfl

theorem lower_lower (s : String) : lower (lower s) = lower s := by
  have hlow : ∀ c ∈ lowerFrom [] s.toList, IsLowered c := fun c hc => isLowered_of_mem_lowerFrom hc
  rw [lower, lower, String.toList_ofList, lowerFrom_of_isLowered hlow]

/-- Without a capital sigma every character has its small form, whatever stands around it. -/
theorem lowerFrom_eq_flatMap {cs : List Char} (h : capitalSigma ∉ cs) :
    ∀ before : List Char, lowerFrom before cs = cs.flatMap smallForm := by
  induction cs with
  | nil => exact fun _ => rfl
  | cons c cs ih =>
    intro before
    obtain ⟨hc, hcs⟩ := not_or.mp (mt List.mem_cons.mpr h)
    rw [lowerFrom, if_neg (Ne.symm hc), ih hcs, List.flatMap_cons]

theorem lower_infix {part cs : List Char} (h : part <:+: cs) (hsigma : capitalSigma ∉ cs) :
    lowerFrom [] part <:+: lowerFrom [] cs := by
  have hpart : capitalSigma ∉ part := fun hmem => hsigma (h.subset hmem)
  obtain ⟨before, after, rfl⟩ := h
  rw [lowerFrom_eq_flatMap hpart, lowerFrom_eq_flatMap hsigma]
  exact ⟨before.flatMap smallForm, after.flatMap smallForm, by simp⟩

/-! ### Blanks -/

/-- The code points of blanks. -/
def blankRanges : List (Nat × Nat) :=
  [(0x9, 0xD), (0x20, 0x20), (0x85, 0x85), (0xA0, 0xA0), (0x1680, 0x1680), (0x2000, 0x200A),
   (0x2028, 0x2029), (0x202F, 0x202F), (0x205F, 0x205F), (0x3000, 0x3000)]

theorem inRanges_blankRanges {c : Char} (h : isBlank c = true) :
    inRanges blankRanges c.toNat = true := by
  simp only [isBlank, Bool.or_eq_true, Bool.and_eq_true, decide_eq_true_eq, beq_iff_eq] at h
  simp only [inRanges, blankRanges, List.any_cons, List.any_nil, Bool.or_eq_true,
    Bool.and_eq_true, decide_eq_true_eq, Bool.false_eq_true, or_false]
  omega

/-- The small form of a character that is no blank holds no blank. -/
theorem not_blank_of_mem_smallForm {c d : Char} (hc : isBlank c = false) (hd : d ∈ smallForm c) :
    isBlank d = false := by
  rw [smallForm_eq] at hd
  obtain ⟨m, hm, rfl⟩ := List.mem_map.mp hd
  rcases Case.mem_given_of_mem_formOf hm with hgiven | ⟨rfl, -⟩
  · have hnone : points (Case.given Case.toSmallSeveral Case.toSmall) &&& spans blankRanges =
        0 := by decide +kernel
    have hout := testBit_eq_false_of_land hnone (testBit_points_iff.mpr hgiven)
    rw [testBit_spans] at hout
    by_contra hblank
    have hrange := inRanges_blankRanges (by simpa using hblank)
    by_cases hvalid : m.isValidChar
    · rw [toNat_ofNat hvalid, hout] at hrange
      cases hrange
    · rw [ofNat_of_not_valid hvalid] at hblank
      exact hblank (by decide)
  · rwa [Char.ofNat_toNat]

/-- A text whose characters were replaced one by one: blanks stay between words, and all else is
replaced by something that holds no blank. -/
inductive Recased : List Char → List Char → Prop
  | nil : Recased [] []
  | blank {cs text : List Char} (h : Recased cs text) : Recased (' ' :: cs) (' ' :: text)
  | letter {c : Char} {form cs text : List Char} (hc : isBlank c = false) (hne : form ≠ [])
      (hform : ∀ d ∈ form, isBlank d = false) (h : Recased cs text) :
      Recased (c :: cs) (form ++ text)

theorem recased_lowerFrom {cs : List Char} (h : ∀ c ∈ cs, isBlank c = true → c = ' ') :
    ∀ before : List Char, Recased cs (lowerFrom before cs) := by
  induction cs with
  | nil => exact fun _ => .nil
  | cons c cs ih =>
    intro before
    have hrest := ih (fun d hd => h d (List.mem_cons_of_mem c hd)) (c :: before)
    by_cases hblank : isBlank c = true
    · obtain rfl := h c List.mem_cons_self hblank
      exact .blank hrest
    · have hc : isBlank c = false := by simpa using hblank
      rw [lowerFrom]
      split
      · refine .letter hc (List.cons_ne_nil _ _) (fun d hd => ?_) hrest
        rw [List.mem_singleton] at hd
        split at hd <;> subst hd <;> decide
      · exact .letter hc (smallForm_ne_nil c) (fun d hd => not_blank_of_mem_smallForm hc hd) hrest

theorem Recased.append {cs cs' text : List Char} (h : Recased (cs ++ cs') text) :
    ∃ first second, text = first ++ second ∧ Recased cs first ∧ Recased cs' second := by
  induction cs generalizing text with
  | nil => exact ⟨[], text, rfl, .nil, h⟩
  | cons c cs ih =>
    cases h with
    | blank h =>
      obtain ⟨first, second, rfl, hfirst, hsecond⟩ := ih h
      exact ⟨' ' :: first, second, rfl, .blank hfirst, hsecond⟩
    | letter hc hne hform h =>
      obtain ⟨first, second, rfl, hfirst, hsecond⟩ := ih h
      exact ⟨_ ++ first, second, (List.append_assoc _ _ _).symm, .letter hc hne hform hfirst,
        hsecond⟩

/-- A word: some characters, none of them a blank. -/
abbrev IsWord (cs : List Char) : Prop := cs ≠ [] ∧ ∀ c ∈ cs, (!isBlank c) = true

/-- Of a word a word is made. -/
theorem Recased.isWord {cs text : List Char} (hcs : IsWord cs) (h : Recased cs text) :
    IsWord text := by
  have hkept : (cs ≠ [] → text ≠ []) ∧ ∀ d ∈ text, (!isBlank d) = true := by
    obtain ⟨-, hletters⟩ := hcs
    induction h with
    | nil => exact ⟨fun hne => hne, fun d hd => absurd hd List.not_mem_nil⟩
    | blank => exact absurd (hletters ' ' List.mem_cons_self) (by decide)
    | letter _ hne hform _ ih =>
      have hrest := (ih fun c hc => hletters c (List.mem_cons_of_mem _ hc)).2
      refine ⟨fun _ => by simp [hne], fun d hd => ?_⟩
      exact (List.mem_append.mp hd).elim (fun hd => by simpa using hform d hd) (hrest d)
  exact ⟨hkept.1 hcs.1, hkept.2⟩

/-- Of words with single blanks between them as many words with single blanks are made. -/
theorem Recased.exists_words {ws : List (List Char)} (hws : ∀ w ∈ ws, IsWord w) {text : List Char}
    (h : Recased (joined [' '] ws) text) :
    ∃ ws', ws'.length = ws.length ∧ (∀ w ∈ ws', IsWord w) ∧ text = joined [' '] ws' := by
  induction ws generalizing text with
  | nil =>
    cases h
    exact ⟨[], rfl, fun w hw => absurd hw List.not_mem_nil, rfl⟩
  | cons w ws ih =>
    have hw := hws w List.mem_cons_self
    cases ws with
    | nil => exact ⟨[text], rfl, List.forall_mem_singleton.mpr (h.isWord hw), rfl⟩
    | cons second others =>
      rw [joined_cons [' '] w (List.cons_ne_nil second others), List.append_assoc] at h
      obtain ⟨first, rest, rfl, hfirst, hrest⟩ := h.append
      -- The blank between two words is no letter, so the text falls apart there as well.
      cases hrest with
      | letter hc => exact absurd hc (by decide)
      | blank hafter =>
        obtain ⟨ws', hlength, hws', rfl⟩ :=
          ih (fun v hv => hws v (List.mem_cons_of_mem w hv)) hafter
        refine ⟨first :: ws', by simp [hlength], ?_, ?_⟩
        · exact List.forall_mem_cons.mpr ⟨hfirst.isWord hw, hws'⟩
        · have hne : ws' ≠ [] := List.ne_nil_of_length_pos (by simp [hlength])
          rw [joined_cons [' '] first hne, List.append_assoc]
          rfl

/-! ### Normal forms -/

theorem isWord_of_mem_words {w cs : List Char} (h : w ∈ words cs) : IsWord w := of_mem_runsOf h

theorem words_joined {ws : List (List Char)} (hws : ∀ w ∈ ws, IsWord w) :
    words (joined [' '] ws) = ws :=
  runsOf_joined (List.cons_ne_nil ' ' []) (List.forall_mem_singleton.mpr rfl) hws

theorem eq_blank_of_mem_words {c : Char} {cs : List Char} (h : c ∈ joined [' '] (words cs))
    (hblank : isBlank c = true) : c = ' ' := by
  rcases mem_joined h with h | ⟨w, hw, hc⟩
  · exact List.mem_singleton.mp h
  · have hletter := (isWord_of_mem_words hw).2 c hc
    simp [hblank] at hletter

theorem mem_of_mem_joined_words {c : Char} {cs : List Char} (h : c ∈ joined [' '] (words cs)) :
    c = ' ' ∨ c ∈ cs := by
  rcases mem_joined h with h | ⟨w, hw, hc⟩
  · exact .inl (List.mem_singleton.mp h)
  · exact .inr (subset_of_mem_runsOf hw hc)

theorem normal_eq (s : String) :
    normal s = String.ofList (lowerFrom [] (joined [' '] (words s.toList))) := by
  rw [normal, singleSpaced, lower, String.toList_ofList]

/-- A normal form consists of words of small letters with single blanks between them. -/
theorem exists_words_normal (s : String) :
    ∃ ws, (∀ w ∈ ws, IsWord w) ∧ (normal s).toList = joined [' '] ws := by
  have hblanks : ∀ c ∈ joined [' '] (words s.toList), isBlank c = true → c = ' ' :=
    fun c hc hblank => eq_blank_of_mem_words hc hblank
  have hrecased := recased_lowerFrom hblanks []
  obtain ⟨ws, -, hws, htext⟩ := hrecased.exists_words fun w hw => isWord_of_mem_words hw
  exact ⟨ws, hws, by rw [normal_eq, String.toList_ofList, htext]⟩

theorem normal_normal (s : String) : normal (normal s) = normal s := by
  obtain ⟨ws, hws, htext⟩ := exists_words_normal s
  have hspaced : singleSpaced (normal s) = normal s := by
    rw [singleSpaced, htext, words_joined hws, ← htext, String.ofList_toList]
  rw [normal, hspaced, normal, lower_lower]

theorem occursIn_iff {needle text : List Char} :
    occursIn needle text = true ↔ needle <:+: text := by
  induction text with
  | nil => simp [occursIn]
  | cons c cs ih => simp [occursIn, ih, List.infix_cons_iff]

theorem contains_iff {text needle : String} :
    contains text needle = true ↔ needle.toList <:+: text.toList := occursIn_iff

/-- A part of a text is found between the normal forms. -/
theorem contains_normal {candidate target : String} (hsigma : capitalSigma ∉ candidate.toList)
    (h : contains candidate target = true) :
    contains (normal candidate) (normal target) = true := by
  have hspaced : capitalSigma ∉ joined [' '] (words candidate.toList) := by
    intro hmem
    rcases mem_of_mem_joined_words hmem with hblank | hmem
    · exact absurd hblank (by decide)
    · exact hsigma hmem
  rw [contains_iff, normal_eq, normal_eq, String.toList_ofList, String.toList_ofList]
  exact lower_infix (joined_runsOf_part [' '] (contains_iff.mp h)) hspaced

/-- Where no capital sigma occurs, a text that holds another one holds it also in normal form, so a
search by normal forms misses nothing that a plain search finds. Texts of the same words have the
same normal form, whatever blanks stand between, before and after them. Normal forms are their own
normal forms. -/
theorem normal_canonical :
    (∀ candidate target : String, capitalSigma ∉ candidate.toList → capitalSigma ∉ target.toList →
      contains candidate target = true →
      MatchMode.includes.holds (normal candidate) (normal target) = true) ∧
    (∀ (ws : List (List Char)) (s t : String), HasRuns (!isBlank ·) ws s.toList →
      HasRuns (!isBlank ·) ws t.toList → normal s = normal t) ∧
    ∀ s : String, normal (normal s) = normal s := by
  refine ⟨fun candidate target hsigma _ h => contains_normal hsigma h, ?_, normal_normal⟩
  intro ws s t hs ht
  rw [normal_eq, normal_eq, words, words, hs.runsOf_eq, ht.runsOf_eq]

/-- A part that begins and ends inside words, with other blanks and letters of two capital forms. -/
theorem normal_canonical_part :
    contains "Razón\tSOCIAL  İstanbul\n" "zón\tSOCIAL  İs" = true ∧
      MatchMode.includes.holds (normal "Razón\tSOCIAL  İstanbul\n") (normal "zón\tSOCIAL  İs") =
        true := by
  have hcontains : contains "Razón\tSOCIAL  İstanbul\n" "zón\tSOCIAL  İs" = true := by
    decide +kernel
  exact ⟨hcontains, normal_canonical.1 _ _ (by decide +kernel) (by decide +kernel) hcontains⟩

end FlowPilot.Text
