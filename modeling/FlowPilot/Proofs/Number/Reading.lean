import FlowPilot.Json.Printer
import FlowPilot.Proofs.Number.Shortest
import FlowPilot.Proofs.Template.Segments
import FlowPilot.Proofs.Text.Runs

/-!
# Numbers are read as they were written

The text of an integer or of a double is read as the same double. A double is written with its
shortest digits in one of four layouts. Each layout is read as the digits and the power of ten that
were written, and these round to the double.

## Main statements

* `Binary64.ofDecimal_of_roundsTo`: the limits on the size of a decimal exclude no double.
* `unsignedDecimal?_decimalText`: every layout is read as what was written.
* `binary64?_toText`, `binary64?_toString`: doubles and integers are read back.
-/

namespace FlowPilot

/-! ### Digits -/

theorem isDigit_iff {c : Char} : isDigit c = true ↔ 48 ≤ c.toNat ∧ c.toNat ≤ 57 := by
  simp only [isDigit, Bool.and_eq_true, decide_eq_true_eq]
  exact Iff.rfl

theorem isDigit_of_mem_toDigits {n : ℕ} {c : Char} (h : c ∈ Nat.toDigits 10 n) :
    isDigit c = true := by
  have hdigit := Nat.isDigit_of_mem_toDigits (by decide) le_rfl h
  simp only [Char.isDigit, Bool.and_eq_true, decide_eq_true_eq, ge_iff_le,
    UInt32.le_iff_toNat_le] at hdigit
  exact isDigit_iff.mpr hdigit

theorem digitsValue_eq (cs : List Char) : digitsValue cs = Nat.ofDigitChars 10 cs 0 := rfl

theorem digitsValue_toDigits (n : ℕ) : digitsValue (Nat.toDigits 10 n) = n := by
  rw [digitsValue_eq]
  exact Nat.ofDigitChars_toDigits (by decide) le_rfl

theorem digitsValue_append_zeros (cs : List Char) (n : ℕ) :
    digitsValue (cs ++ List.replicate n '0') = 10 ^ n * digitsValue cs := by
  rw [digitsValue_eq, Nat.ofDigitChars_append, Nat.ofDigitChars_replicate_zero]
  rfl

theorem digitsValue_zeros_append (n : ℕ) (cs : List Char) :
    digitsValue (List.replicate n '0' ++ cs) = digitsValue cs := by
  rw [digitsValue_eq, Nat.ofDigitChars_append, Nat.ofDigitChars_replicate_zero, Nat.mul_zero]
  rfl

/-! ### Sizes -/

namespace Binary64

/-- A power of ten is larger than the power of two with three times the exponent. -/
theorem two_zpow_le_ten_zpow {j : ℤ} (hj : 0 ≤ j) : (2 : ℚ) ^ (3 * j) ≤ 10 ^ j := by
  rw [zpow_mul]
  exact zpow_le_zpow_left₀ hj (by norm_num) (by norm_num)

section Decimals

variable {m d : ℕ} {e k : ℤ}

/-- A decimal lies between the powers of ten that its number of digits says. -/
theorem decimal_bounds (hd : 0 < d) :
    (10 : ℚ) ^ ((Nat.toDigits 10 d).length + k - 1) ≤ d * 10 ^ k ∧
      (d : ℚ) * 10 ^ k < 10 ^ ((Nat.toDigits 10 d).length + k) := by
  have hpos : (0 : ℚ) < 10 ^ k := by positivity
  have hlength := Nat.length_toDigits_pos (b := 10) (n := d)
  constructor
  · have hlow : ((10 ^ ((Nat.toDigits 10 d).length - 1) : ℕ) : ℚ) ≤ d := by
      exact_mod_cast Shortest.pow_length_toDigits_le hd
    have hexp : ((Nat.toDigits 10 d).length : ℤ) + k - 1 =
        ((Nat.toDigits 10 d).length - 1 : ℕ) + k := by omega
    rw [hexp, zpow_add₀ (by norm_num), zpow_natCast]
    push_cast at hlow
    gcongr
  · have hhigh : (d : ℚ) < ((10 ^ (Nat.toDigits 10 d).length : ℕ) : ℚ) := by
      exact_mod_cast Shortest.lt_pow_length_toDigits d
    rw [zpow_add₀ (by norm_num), zpow_natCast]
    push_cast at hhigh
    gcongr

/-- A decimal that rounds to a positive double is read as this double. -/
theorem ofDecimal_of_roundsTo (s : Bool) (hdouble : IsDouble m e) (hm : 0 < m)
    (h : RoundsTo m e (d * 10 ^ k)) : ofDecimal s d k = finite s m e := by
  have hpos : (0 : ℚ) < 2 ^ e := by positivity
  have hone : (1 : ℚ) ≤ m := by exact_mod_cast hm
  have hbits : (m : ℚ) + 1 ≤ 2 ^ 53 := by exact_mod_cast hdouble.bits
  have hreach := reach_le m e
  -- The least double is far above the least decimal that is looked at, the greatest far below.
  have hlow : (2 : ℚ) ^ (-1075 : ℤ) ≤ d * 10 ^ k :=
    calc (2 : ℚ) ^ (-1075 : ℤ) = 1 / 2 * 2 ^ minExponent := by
          rw [show (-1075 : ℤ) = minExponent - 1 by rfl, zpow_sub_one₀ two_ne_zero]; ring
      _ ≤ 1 / 2 * 2 ^ e := by
          gcongr
          · exact one_le_two
          · exact hdouble.least
      _ ≤ (m - reach m e) * 2 ^ e := by gcongr; linarith
      _ ≤ d * 10 ^ k := h.low
  have hhigh : (d : ℚ) * 10 ^ k < 2 ^ (1024 : ℤ) :=
    calc (d : ℚ) * 10 ^ k ≤ (m + 1 / 2) * 2 ^ e := h.high
      _ < 2 ^ 53 * 2 ^ e := by gcongr; linarith
      _ ≤ 2 ^ 53 * 2 ^ maxExponent := by
          gcongr
          · exact one_le_two
          · exact hdouble.greatest
      _ = 2 ^ (1024 : ℤ) := by
          rw [show (1024 : ℤ) = 53 + maxExponent by rfl, zpow_add₀ two_ne_zero]; norm_cast
  have hd : 0 < d := by
    by_contra hzero
    rw [Nat.eq_zero_of_not_pos hzero, Nat.cast_zero, zero_mul] at hlow
    exact absurd hlow (not_le.mpr (by positivity))
  obtain ⟨hfirst, hlast⟩ := decimal_bounds (k := k) hd
  have hsmall : ¬((Nat.toDigits 10 d).length : ℤ) + k < -400 := by
    intro htop
    have hle : (10 : ℚ) ^ (((Nat.toDigits 10 d).length : ℤ) + k) ≤ 10 ^ (-401 : ℤ) :=
      zpow_le_zpow_right₀ (by norm_num) (by omega)
    have hten : (10 : ℚ) ^ (-401 : ℤ) ≤ 2 ^ (-1203 : ℤ) := by
      rw [zpow_neg, zpow_neg]
      exact inv_anti₀ (by positivity) (two_zpow_le_ten_zpow (j := 401) (by decide))
    have hlt := zpow_lt_of_lt (hlow.trans_lt (hlast.trans_le (hle.trans hten)))
    omega
  have hlarge : ¬400 < ((Nat.toDigits 10 d).length : ℤ) + k := by
    intro htop
    have hten := two_zpow_le_ten_zpow (j := ((Nat.toDigits 10 d).length : ℤ) + k - 1) (by omega)
    have hlt := zpow_lt_of_lt ((hten.trans hfirst).trans_lt hhigh)
    omega
  unfold ofDecimal
  dsimp only
  rw [if_neg (not_or.mpr ⟨hd.ne', hsmall⟩), if_neg hlarge]
  split
  next hk =>
    refine ofRatio_of_roundsTo s hdouble one_pos ?_
    rwa [Nat.cast_mul, zpow_toNat hk, Nat.cast_ofNat, Nat.cast_one, div_one]
  next hk =>
    refine ofRatio_of_roundsTo s hdouble (Nat.pow_pos (by decide)) ?_
    rwa [zpow_toNat (by omega), Nat.cast_ofNat, zpow_neg, div_inv_eq_mul]

end Decimals

/-- A whole number is read as the double nearest to it. -/
theorem ofDecimal_whole (s : Bool) (n : ℕ) : ofDecimal s n 0 = ofRatio s n 1 := by
  unfold ofDecimal
  dsimp only
  split
  next hzero =>
    have hn : n = 0 := by omega
    rw [hn, ofRatio, if_pos rfl]
  next hpos =>
    split
    -- More than four hundred digits: infinite by the count alone, and infinite when rounded.
    next hlarge =>
      have hn : 0 < n := by omega
      have hbound := (decimal_bounds (k := 0) hn).1
      have hten := two_zpow_le_ten_zpow (j := ((Nat.toDigits 10 n).length : ℤ) + 0 - 1) (by omega)
      rw [zpow_zero, mul_one] at hbound
      refine (ofRatio_of_large s one_pos ?_).symm
      rw [Nat.cast_one, div_one]
      refine le_trans (zpow_le_zpow_right₀ one_le_two ?_) (hten.trans hbound)
      omega
    next => rw [if_pos le_rfl, Int.toNat_zero, Nat.pow_eq, Nat.pow_zero, Nat.mul_one]

end Binary64

/-! ### Reading layouts -/

section Layouts

variable (s : Bool) (whole places rest : List Char)

/-- Digits with a point among them, up to where the exponent begins. -/
theorem unsignedDecimal?_point (hne : whole ≠ []) (hwhole : ∀ c ∈ whole, isDigit c = true)
    (hplaces : ∀ c ∈ places, isDigit c = true) (hrest : ∀ c ∈ rest.head?, isDigit c = false) :
    unsignedDecimal? s (whole ++ '.' :: (places ++ rest)) =
      (exponent? rest).map fun x =>
        Binary64.ofDecimal s (digitsValue (whole ++ places)) (x - places.length) := by
  have hpoint : isDigit '.' = false := by decide
  obtain ⟨htake, hdrop⟩ := Template.split_run hwhole hpoint (places ++ rest)
  obtain ⟨htake', hdrop'⟩ := Text.split_at_end hrest
  have hplacesTake : (places ++ rest).takeWhile isDigit = places := by
    rw [List.takeWhile_append_of_pos hplaces, htake', List.append_nil]
  have hplacesDrop : (places ++ rest).dropWhile isDigit = rest := by
    rw [List.dropWhile_append_of_pos hplaces, hdrop']
  have hwhole' : whole.isEmpty = false := by simpa using hne
  unfold unsignedDecimal?
  simp only [htake, hdrop, hplacesTake, hplacesDrop, hwhole', Bool.false_and, Bool.false_eq_true,
    if_false]

/-- Digits without a point, up to where the exponent begins. -/
theorem unsignedDecimal?_whole (hne : whole ≠ []) (hwhole : ∀ c ∈ whole, isDigit c = true)
    (hrest : ∀ c ∈ rest.head?, isDigit c = false ∧ c ≠ '.') :
    unsignedDecimal? s (whole ++ rest) =
      (exponent? rest).map fun x => Binary64.ofDecimal s (digitsValue whole) x := by
  obtain ⟨htake', hdrop'⟩ := Text.split_at_end fun c hc => (hrest c hc).1
  have htake : (whole ++ rest).takeWhile isDigit = whole := by
    rw [List.takeWhile_append_of_pos hwhole, htake', List.append_nil]
  have hdrop : (whole ++ rest).dropWhile isDigit = rest := by
    rw [List.dropWhile_append_of_pos hwhole, hdrop']
  have hwhole' : whole.isEmpty = false := by simpa using hne
  unfold unsignedDecimal?
  simp only [htake, hdrop]
  cases rest with
  | nil => simp [hwhole']
  | cons c rest =>
    have hc := (hrest c rfl).2
    simp [hwhole', hc]

end Layouts

/-- A written exponent is read back. -/
theorem exponent?_written (x : ℤ) :
    exponent? ('e' :: (if x < 0 then '-' else '+') :: Nat.toDigits 10 x.natAbs) = some x := by
  have hdigits : (Nat.toDigits 10 x.natAbs).all isDigit = true :=
    List.all_eq_true.mpr fun c hc => isDigit_of_mem_toDigits hc
  by_cases hx : x < 0
  · simp [exponent?, signed, hx, hdigits, digitsValue_toDigits, abs_of_neg hx]
  · simp [exponent?, signed, hx, hdigits, digitsValue_toDigits, abs_of_nonneg (not_lt.mp hx)]

section Digits

variable (s : Bool) {ds : List Char}

theorem isDigit_of_mem_zeros {n : ℕ} {c : Char} (h : c ∈ List.replicate n '0') :
    isDigit c = true := by
  rw [List.eq_of_mem_replicate h]
  decide

/-- All digits before the point. -/
theorem unsignedDecimal?_integral (hne : ds ≠ []) (hds : ∀ c ∈ ds, isDigit c = true) (n : ℕ) :
    unsignedDecimal? s (ds ++ List.replicate n '0' ++ ['.', '0']) =
      some (Binary64.ofDecimal s (10 ^ (n + 1) * digitsValue ds) (-1)) := by
  have hall : ∀ c ∈ ds ++ List.replicate n '0', isDigit c = true := fun c hc =>
    (List.mem_append.mp hc).elim (hds c) isDigit_of_mem_zeros
  have hread := unsignedDecimal?_point s _ (List.replicate 1 '0') []
    (List.append_ne_nil_of_left_ne_nil hne _) hall (fun c hc => isDigit_of_mem_zeros hc) nofun
  have hvalue : digitsValue (ds ++ List.replicate n '0' ++ List.replicate 1 '0') =
      10 ^ (n + 1) * digitsValue ds := by
    rw [List.append_assoc, List.replicate_append_replicate, digitsValue_append_zeros]
  rw [hvalue] at hread
  exact hread

/-- The point among the digits. -/
theorem unsignedDecimal?_split (hds : ∀ c ∈ ds, isDigit c = true) {n : ℕ} (hn : 0 < n)
    (hle : n ≤ ds.length) :
    unsignedDecimal? s (ds.take n ++ ['.'] ++ ds.drop n) =
      some (Binary64.ofDecimal s (digitsValue ds) (n - ds.length)) := by
  have htake : ds.take n ≠ [] := by
    rw [ne_eq, List.take_eq_nil_iff, not_or, ← List.length_eq_zero_iff]
    omega
  have hread := unsignedDecimal?_point s _ (ds.drop n) [] htake
    (fun c hc => hds c (List.mem_of_mem_take hc)) (fun c hc => hds c (List.mem_of_mem_drop hc))
    nofun
  have hexp : (0 : ℤ) - (ds.drop n).length = n - ds.length := by
    rw [List.length_drop]
    omega
  rw [List.append_nil, List.take_append_drop] at hread
  rw [List.append_assoc]
  exact hread.trans (congrArg (fun x => some (Binary64.ofDecimal s _ x)) hexp)

/-- Zeros between the point and the digits. -/
theorem unsignedDecimal?_fraction (hds : ∀ c ∈ ds, isDigit c = true) (n : ℕ) :
    unsignedDecimal? s (['0', '.'] ++ List.replicate n '0' ++ ds) =
      some (Binary64.ofDecimal s (digitsValue ds) (-(n + ds.length))) := by
  have hall : ∀ c ∈ List.replicate n '0' ++ ds, isDigit c = true := fun c hc =>
    (List.mem_append.mp hc).elim isDigit_of_mem_zeros (hds c)
  have hread := unsignedDecimal?_point s (List.replicate 1 '0') _ [] (List.cons_ne_nil '0' [])
    (fun c hc => isDigit_of_mem_zeros hc) hall nofun
  rw [List.append_nil, digitsValue_zeros_append, digitsValue_zeros_append] at hread
  refine hread.trans (congrArg (fun x => some (Binary64.ofDecimal s _ x)) ?_)
  rw [List.length_append, List.length_replicate]
  push_cast
  ring

/-- One digit before the point, and an exponent. -/
theorem unsignedDecimal?_scientific {c : Char} (hds : ∀ d ∈ c :: ds, isDigit d = true) (x : ℤ) :
    unsignedDecimal? s ((match c :: ds with
        | [c] => [c]
        | c :: cs => c :: '.' :: cs
        | [] => []) ++ 'e' :: (if x < 0 then '-' else '+') :: Nat.toDigits 10 x.natAbs) =
      some (Binary64.ofDecimal s (digitsValue (c :: ds)) (x - ds.length)) := by
  have hwhole : ∀ d ∈ [c], isDigit d = true :=
    List.forall_mem_singleton.mpr (hds c List.mem_cons_self)
  have hrest : ∀ d ∈ ('e' :: (if x < 0 then '-' else '+') :: Nat.toDigits 10 x.natAbs).head?,
      isDigit d = false ∧ d ≠ '.' := by
    intro d hd
    rw [← Option.some.inj hd]
    decide
  cases ds with
  | nil =>
    have hread := unsignedDecimal?_whole s [c] _ (List.cons_ne_nil c []) hwhole hrest
    rw [exponent?_written] at hread
    exact hread.trans (congrArg (fun y => some (Binary64.ofDecimal s _ y)) (sub_zero x).symm)
  | cons d ds =>
    have hread := unsignedDecimal?_point s [c] (d :: ds) _ (List.cons_ne_nil c []) hwhole
      (fun b hb => hds b (List.mem_cons_of_mem c hb)) fun b hb => (hrest b hb).1
    rw [exponent?_written] at hread
    exact hread

end Digits

/-- Every layout is read as a decimal of the value that was written. -/
theorem unsignedDecimal?_decimalText (s : Bool) (d : ℕ) (k : ℤ) :
    ∃ (d' : ℕ) (k' : ℤ),
      unsignedDecimal? s (Binary64.decimalText d k) = some (Binary64.ofDecimal s d' k') ∧
        (d' : ℚ) * 10 ^ k' = d * 10 ^ k := by
  have hdigits : ∀ c ∈ Nat.toDigits 10 d, isDigit c = true := fun c hc => isDigit_of_mem_toDigits hc
  have hvalue := digitsValue_toDigits d
  have hne : Nat.toDigits 10 d ≠ [] := Nat.toDigits_ne_nil
  unfold Binary64.decimalText
  generalize Nat.toDigits 10 d = ds at hdigits hvalue hne
  dsimp only
  split
  next hintegral =>
    refine ⟨_, _, unsignedDecimal?_integral s hne hdigits k.toNat, ?_⟩
    have hk : (10 : ℚ) ^ k = 10 ^ k.toNat := by
      rw [← zpow_natCast, Int.toNat_of_nonneg hintegral.1]
    rw [hvalue, hk, zpow_neg_one]
    push_cast
    ring
  next hnot =>
    -- In all other layouts the digits are read as they were written.
    refine ⟨d, k, ?_, rfl⟩
    have hread : ∀ {text : List Char} {x : ℤ}, x = k →
        unsignedDecimal? s text = some (Binary64.ofDecimal s (digitsValue ds) x) →
        unsignedDecimal? s text = some (Binary64.ofDecimal s d k) := by
      rintro text x rfl h
      rw [h, hvalue]
    split
    next hpoint =>
      refine hread ?_ (unsignedDecimal?_split s hdigits (n := ((ds.length : ℤ) + k).toNat)
        (by omega) (by omega))
      omega
    next =>
      split
      next hsmall =>
        refine hread ?_ (unsignedDecimal?_fraction s hdigits (-((ds.length : ℤ) + k)).toNat)
        omega
      next =>
        obtain ⟨c, rest, rfl⟩ := List.exists_cons_of_ne_nil hne
        have hsign : ((c :: rest).length + k < 1) = ((c :: rest).length + k - 1 < 0) := by
          rw [eq_iff_iff]
          omega
        refine hread ?_ (?_ : _ = some (Binary64.ofDecimal s _
          (((c :: rest).length : ℤ) + k - 1 - rest.length)))
        · simp only [List.length_cons]
          push_cast
          ring
        · simp only [hsign]
          exact unsignedDecimal?_scientific s hdigits _

/-! ### Characters of numbers -/

/-- A character of the text of a finite number. -/
def isNumberChar (c : Char) : Bool := isDigit c || ['.', 'e', '+', '-'].contains c

theorem isNumberChar_of_isDigit {c : Char} (h : isDigit c = true) : isNumberChar c = true := by
  rw [isNumberChar, h, Bool.true_or]

theorem decimalText_chars (d : ℕ) (k : ℤ) {c : Char} (h : c ∈ Binary64.decimalText d k) :
    isNumberChar c = true := by
  have hdigits : ∀ c ∈ Nat.toDigits 10 d, isNumberChar c = true := fun c hc =>
    isNumberChar_of_isDigit (isDigit_of_mem_toDigits hc)
  have hzeros : ∀ n : ℕ, c ∈ List.replicate n '0' → isNumberChar c = true := fun n hc =>
    isNumberChar_of_isDigit (isDigit_of_mem_zeros hc)
  have hpoint : isNumberChar '.' = true := by decide
  unfold Binary64.decimalText at h
  generalize Nat.toDigits 10 d = ds at hdigits h
  dsimp only at h
  -- Trailing zeros, a point among the digits, leading zeros, scientific notation.
  split at h
  · simp only [List.mem_append, List.mem_cons, List.not_mem_nil, or_false] at h
    rcases h with (h | h) | rfl | rfl
    · exact hdigits c h
    · exact hzeros _ h
    · exact hpoint
    · decide
  split at h
  · simp only [List.mem_append, List.mem_cons, List.not_mem_nil, or_false] at h
    rcases h with (h | rfl) | h
    · exact hdigits c (List.mem_of_mem_take h)
    · exact hpoint
    · exact hdigits c (List.mem_of_mem_drop h)
  split at h
  · simp only [List.mem_append, List.mem_cons, List.not_mem_nil, or_false] at h
    rcases h with ((rfl | rfl) | h) | h
    · decide
    · exact hpoint
    · exact hzeros _ h
    · exact hdigits c h
  · rcases List.mem_append.mp h with h | h
    · split at h
      · exact hdigits c h
      · rcases List.mem_cons.mp h with rfl | h
        · exact hdigits _ List.mem_cons_self
        · rcases List.mem_cons.mp h with rfl | h
          · exact hpoint
          · exact hdigits c (List.mem_cons_of_mem _ h)
      · exact absurd h List.not_mem_nil
    · rcases List.mem_cons.mp h with rfl | h
      · decide
      · rcases List.mem_cons.mp h with rfl | h
        · split <;> decide
        · exact isNumberChar_of_isDigit (isDigit_of_mem_toDigits h)

theorem toText_chars {negative : Bool} {m : ℕ} {e : ℤ} {c : Char}
    (h : c ∈ (Binary64.finite negative m e).toText.toList) : isNumberChar c = true := by
  have hbody : ∀ c ∈ (if m = 0 then ['0', '.', '0'] else
      Binary64.decimalText (Shortest.digits m e).1 (Shortest.digits m e).2),
      isNumberChar c = true := by
    intro c hc
    split at hc
    · simp only [List.mem_cons, List.not_mem_nil, or_false] at hc
      rcases hc with rfl | rfl | rfl <;> decide
    · exact decimalText_chars _ _ hc
  rw [Binary64.toText, String.toList_ofList] at h
  split at h
  · rcases List.mem_cons.mp h with rfl | h
    · decide
    · exact hbody c h
  · exact hbody c h

/-- The text of a decimal begins with a digit. -/
theorem exists_decimalText (d : ℕ) (k : ℤ) :
    ∃ c rest, Binary64.decimalText d k = c :: rest ∧ isDigit c = true := by
  have hdigits : ∀ c ∈ Nat.toDigits 10 d, isDigit c = true := fun c hc => isDigit_of_mem_toDigits hc
  obtain ⟨c, rest, hds⟩ := List.exists_cons_of_ne_nil (Nat.toDigits_ne_nil (n := d) (b := 10))
  rw [hds] at hdigits
  have hc := hdigits c List.mem_cons_self
  unfold Binary64.decimalText
  rw [hds]
  dsimp only
  split
  · exact ⟨c, _, rfl, hc⟩
  split
  -- At least one digit stands before the point.
  next hpoint =>
    obtain ⟨n, hn⟩ : ∃ n, (((c :: rest).length : ℤ) + k).toNat = n + 1 :=
      ⟨(((c :: rest).length : ℤ) + k).toNat - 1, by omega⟩
    rw [hn]
    exact ⟨c, _, rfl, hc⟩
  split
  · exact ⟨'0', _, rfl, by decide⟩
  · cases rest with
    | nil => exact ⟨c, _, rfl, hc⟩
    | cons d rest => exact ⟨c, _, rfl, hc⟩

/-! ### Reading back -/

theorem signed_of_isDigit {c : Char} (hc : isDigit c = true) (cs : List Char) :
    signed (c :: cs) = (false, c :: cs) := by
  unfold signed
  split
  next rest h =>
    obtain ⟨rfl, -⟩ := List.cons.inj h
    exact absurd hc (by decide)
  next rest h =>
    obtain ⟨rfl, -⟩ := List.cons.inj h
    exact absurd hc (by decide)
  next => rfl

/-- A text with an optional minus sign before a decimal is read as this decimal. -/
theorem binary64?_of_unsigned (s : Bool) {body : List Char} {x : Binary64}
    (hhead : ∃ c rest, body = c :: rest ∧ isDigit c = true)
    (hread : unsignedDecimal? s body = some x) :
    binary64? (String.ofList (if s then '-' :: body else body)) = some x := by
  obtain ⟨c, rest, rfl, hc⟩ := hhead
  have hsigned : signed (if s then '-' :: c :: rest else c :: rest) = (s, c :: rest) := by
    cases s with
    | true => rfl
    | false => exact signed_of_isDigit hc rest
  unfold binary64?
  rw [String.toList_ofList, hsigned]
  dsimp only
  rw [hread]

/-- Doubles are read back. -/
theorem binary64?_toText {x : Binary64} (h : x.IsCanonical) : binary64? x.toText = some x := by
  cases x with
  | infinite s => exact h.elim
  | undefined => exact h.elim
  | finite s m e =>
    unfold Binary64.toText
    refine binary64?_of_unsigned s ?_ ?_
    · split
      · exact ⟨'0', _, rfl, by decide⟩
      · exact exists_decimalText _ _
    · by_cases hm : m = 0
      · have he : e = Binary64.minExponent := by
          rcases h.leading with he | hlarge
          · exact he
          · omega
        rw [if_pos hm, hm, he]
        rfl
      · have hround := Shortest.digits_roundsTo h (Nat.pos_of_ne_zero hm)
        obtain ⟨d, k, hread, hvalue⟩ :=
          unsignedDecimal?_decimalText s (Shortest.digits m e).1 (Shortest.digits m e).2
        rw [← hvalue] at hround
        rw [if_neg hm, ← Binary64.ofDecimal_of_roundsTo s h (Nat.pos_of_ne_zero hm) hround]
        exact hread

/-- An integer is written with the digits of its size, after a minus sign if it is negative. -/
theorem toString_eq_ofList (i : ℤ) :
    toString i = String.ofList
      (if decide (i < 0) then '-' :: Nat.toDigits 10 i.natAbs else Nat.toDigits 10 i.natAbs) := by
  cases i with
  | ofNat n =>
    have hnonneg : ¬(n : ℤ) < 0 := by omega
    simp [Int.toString_eq_repr, Int.repr, Nat.repr_eq_ofList_toDigits, hnonneg]
  | negSucc n =>
    have hneg : Int.negSucc n < 0 := Int.negSucc_lt_zero n
    simp only [Int.toString_eq_repr, Int.repr, hneg, decide_true, if_true, Int.natAbs_negSucc,
      Nat.repr_eq_ofList_toDigits, ← String.toList_inj, String.toList_append, String.toList_ofList]
    rfl

theorem toString_chars {i : ℤ} {c : Char} (h : c ∈ (toString i).toList) :
    isNumberChar c = true := by
  rw [toString_eq_ofList, String.toList_ofList] at h
  split at h
  · rcases List.mem_cons.mp h with rfl | h
    · decide
    · exact isNumberChar_of_isDigit (isDigit_of_mem_toDigits h)
  · exact isNumberChar_of_isDigit (isDigit_of_mem_toDigits h)

/-- Integers are read as the doubles nearest to them. -/
theorem binary64?_toString (i : ℤ) : binary64? (toString i) = some (Binary64.ofInt i) := by
  have hdigits : ∀ c ∈ Nat.toDigits 10 i.natAbs, isDigit c = true := fun c hc =>
    isDigit_of_mem_toDigits hc
  rw [toString_eq_ofList]
  refine binary64?_of_unsigned _ ?_ ?_
  · obtain ⟨c, rest, hds⟩ :=
      List.exists_cons_of_ne_nil (Nat.toDigits_ne_nil (n := i.natAbs) (b := 10))
    exact ⟨c, rest, hds, hdigits c (hds ▸ List.mem_cons_self)⟩
  · have hread := unsignedDecimal?_whole (decide (i < 0)) _ [] Nat.toDigits_ne_nil hdigits nofun
    rw [List.append_nil, digitsValue_toDigits] at hread
    exact hread.trans (congrArg some (Binary64.ofDecimal_whole _ _))

end FlowPilot
