import FlowPilot.Json.Parser
import FlowPilot.Proofs.Number.Rounding

/-!
# Numbers that are read

A number in a JSON text is read as an integer or as a finite double. A double is computed from the
digits by products and quotients, each of which is rounded again: a product that is too large is
refused, and a quotient by a power of ten stays finite because there was room above the digits.

## Main definitions

* `Json.IsScalar`: a text, a flag or a number that a JSON text can give.
* `Binary64.HasRoom`: a double of which the double is finite.

## Main statements

* `Json.isScalar_of_number?`: every number that is read is one of these.
-/

namespace FlowPilot

namespace Binary64

/-! ### Products and quotients -/

/-- A finite double whose exponent is not the greatest. -/
inductive HasRoom : Binary64 → Prop
  | finite (s : Bool) {m : ℕ} {e : ℤ} (hdouble : IsDouble m e) (hroom : e < maxExponent) :
      HasRoom (finite s m e)

theorem HasRoom.isCanonical {x : Binary64} (h : x.HasRoom) : x.IsCanonical := by
  cases h with
  | finite s hdouble hroom => exact hdouble

theorem isDouble_zero : IsDouble 0 minExponent := ⟨by norm_num, le_rfl, by decide, .inl rfl⟩

theorem IsCanonical.neg {x : Binary64} (h : x.IsCanonical) : x.neg.IsCanonical := by
  cases x with
  | finite s m e => exact h
  | infinite s => exact h.elim
  | undefined => exact h.elim

theorem isCanonical_ofRatio {s : Bool} {num den : ℕ} (hden : 0 < den)
    (h : (ofRatio s num den).isFinite = true) : (ofRatio s num den).IsCanonical := by
  rcases ofRatio_cases s num hden with ⟨hinfinite, -⟩ | ⟨m, e, heq, hdouble, -⟩
  · rw [hinfinite] at h
    cases h
  · rw [heq]
    exact hdouble

theorem isCanonical_mul {x y : Binary64} (h : (x.mul y).isFinite = true) :
    (x.mul y).IsCanonical := by
  cases x with
  | finite s m e =>
    cases y with
    | finite s' m' e' => exact isCanonical_ofRatio (fraction_spec (m * m') (e + e')).1 h
    | infinite s' =>
      rw [mul] at h
      split at h <;> cases h
    | undefined => cases h
  | infinite s =>
    cases y with
    | finite s' m' e' =>
      rw [mul] at h
      split at h <;> cases h
    | infinite s' => cases h
    | undefined => cases h
  | undefined => cases h

variable {m m' : ℕ} {e e' k : ℤ}

/-- A quotient by a divisor of at least one stays finite, and the exponent falls with a greater
divisor. -/
theorem div_of_room (s s' : Bool) (hdouble : IsDouble m e) (hroom : e < maxExponent) (hk : 0 ≤ k)
    (hdivisor : (2 : ℚ) ^ k ≤ m' * 2 ^ e') :
    ∃ m₁ e₁, (finite s m e).div (finite s' m' e') = finite (s != s') m₁ e₁ ∧ IsDouble m₁ e₁ ∧
      e₁ ≤ max (e - k) minExponent + 1 := by
  have hpos : (0 : ℚ) < m' * 2 ^ e' := lt_of_lt_of_le (by positivity) hdivisor
  have hm' : m' ≠ 0 := by
    rintro rfl
    rw [Nat.cast_zero, zero_mul] at hpos
    exact lt_irrefl 0 hpos
  obtain ⟨hden, hvalue⟩ := fraction_spec m (e - e')
  have hleast := hdouble.least
  -- A mantissa has at most 53 bits, of which the divisor takes `k`.
  have hquotient : ((fraction m (e - e')).1 : ℚ) / ((fraction m (e - e')).2 * m' : ℕ) <
      2 ^ (max (e - k) minExponent + 53) := by
    have hbits : (m : ℚ) < 2 ^ (53 : ℤ) := by exact_mod_cast hdouble.bits
    have hsplit : (m : ℚ) * 2 ^ (e - e') / m' = m * 2 ^ e / (m' * 2 ^ e') := by
      rw [zpow_sub₀ two_ne_zero]
      field_simp
    rw [Nat.cast_mul, ← div_div, hvalue, hsplit, div_lt_iff₀ hpos]
    calc (m : ℚ) * 2 ^ e < 2 ^ (53 : ℤ) * 2 ^ e := by gcongr
      _ = 2 ^ (e - k + 53) * 2 ^ k := by
          rw [← zpow_add₀ two_ne_zero, ← zpow_add₀ two_ne_zero]
          congr 1
          ring
      _ ≤ 2 ^ (max (e - k) minExponent + 53) * (m' * 2 ^ e') := by
          have hpow : (2 : ℚ) ^ (e - k + 53) ≤ 2 ^ (max (e - k) minExponent + 53) :=
            zpow_le_zpow_right₀ one_le_two (by omega)
          gcongr
  have htop : max (e - k) minExponent < maxExponent := by
    have hgreatest : minExponent < maxExponent := by decide
    omega
  rw [div, if_neg hm']
  exact ofRatio_of_small _ (Nat.mul_pos hden (Nat.pos_of_ne_zero hm')) (le_max_right _ _) htop
    hquotient

/-- A power of ten is infinite, or it is not rounded below a power of two. -/
theorem tenTo_cases {n k : ℕ} (h : 2 ^ k ≤ 10 ^ n) :
    tenTo n = infinite false ∨
      ∃ m e, tenTo n = finite false m e ∧ (2 : ℚ) ^ (k : ℤ) ≤ m * 2 ^ e := by
  unfold tenTo
  split
  next =>
    rw [ofNat]
    rcases ofRatio_cases false (Nat.pow 10 n) one_pos with ⟨heq, -⟩ | ⟨m, e, heq, -, -⟩
    · exact .inl heq
    · refine .inr ⟨m, e, heq, two_zpow_le_of_ofRatio one_pos ?_ ?_ heq⟩
      · unfold minExponent
        omega
      · rw [Nat.pow_eq, Nat.cast_one, div_one, zpow_natCast]
        exact_mod_cast h
  next => exact .inl rfl

theorem HasRoom.isCanonical_div_tenTo {x : Binary64} (h : x.HasRoom) (n : ℕ) :
    (x.div (tenTo n)).IsCanonical := by
  cases h with
  | finite s hdouble hroom =>
    rcases tenTo_cases (k := 0) (Nat.one_le_pow n 10 (by norm_num)) with hten | ⟨m', e', hten, hle⟩
    · rw [hten]
      exact isDouble_zero
    · obtain ⟨m₁, e₁, heq, hdouble₁, -⟩ := div_of_room s false hdouble hroom le_rfl hle
      rw [hten, heq]
      exact hdouble₁

/-- A quotient by a power of ten other than one has room again. -/
theorem HasRoom.div_tenTo {x : Binary64} (h : x.HasRoom) {n : ℕ} (hn : 0 < n) :
    (x.div (tenTo n)).HasRoom := by
  have hgreatest : minExponent + 1 < maxExponent := by decide
  cases h with
  | finite s hdouble hroom =>
    have hten : 2 ^ 1 ≤ 10 ^ n := le_trans (by norm_num) (Nat.pow_le_pow_right (by norm_num) hn)
    rcases tenTo_cases hten with hten | ⟨m', e', hten, hle⟩
    · rw [hten]
      exact .finite _ isDouble_zero (by decide)
    · obtain ⟨m₁, e₁, heq, hdouble₁, hexponent⟩ :=
        div_of_room s false hdouble hroom (by norm_num) hle
      rw [hten, heq]
      exact .finite _ hdouble₁ (by omega)

/-- Whole numbers of sixty-four bits leave room. -/
theorem hasRoom_ofRatio (s : Bool) {n : ℕ} (hn : n ≤ maxWord) : (ofRatio s n 1).HasRoom := by
  have hsmall : (n : ℚ) / (1 : ℕ) < 2 ^ ((11 : ℤ) + 53) := by
    have hword : n < 2 ^ 64 := lt_of_le_of_lt hn (by decide)
    rw [Nat.cast_one, div_one]
    exact_mod_cast hword
  obtain ⟨m, e, heq, hdouble, hexponent⟩ :=
    ofRatio_of_small s one_pos (by decide) (by decide) hsmall
  rw [heq]
  exact .finite s hdouble (lt_of_le_of_lt hexponent (by decide))

end Binary64

namespace Json

/-- A text, a flag or a number that a JSON text can give. -/
inductive IsScalar : Json → Prop
  | bool (value : Bool) : IsScalar (bool value)
  | text (value : String) : IsScalar (text value)
  | int (value : ℤ) : IsScalar (number (.int value))
  | real {value : Binary64} (h : value.IsCanonical) : IsScalar (number (.real value))

/-! ### Reading numbers -/

open Binary64 (HasRoom)

theorem isCanonical_of_scaled? {left : ℕ} {f x : Binary64} {exponent : ℤ} (hf : f.HasRoom)
    (h : scaled? f exponent left = some x) : x.IsCanonical := by
  induction left generalizing f exponent with
  | zero => cases h
  | succ left ih =>
    rw [scaled?] at h
    split at h
    · split at h
      · dsimp only at h
        split at h
        next hfinite => exact Option.some.inj h ▸ Binary64.isCanonical_mul hfinite
        next => cases h
      · exact Option.some.inj h ▸ hf.isCanonical_div_tenTo _
    split at h
    · exact Option.some.inj h ▸ hf.isCanonical
    split at h
    · cases h
    · exact ih (hf.div_tenTo (by norm_num)) h

section Reading

variable {negative : Bool} {significand : ℕ} {exponent : ℤ} {cs rest : List Char} {v : Json}

theorem isScalar_of_real? (hword : significand ≤ maxWord)
    (h : real? negative significand exponent = some v) : v.IsScalar := by
  obtain ⟨f, hf, rfl⟩ := Option.map_eq_some_iff.mp h
  have hcanonical := isCanonical_of_scaled? (Binary64.hasRoom_ofRatio false hword) hf
  split
  · exact .real hcanonical.neg
  · exact .real hcanonical

theorem isScalar_of_map_real? (hword : significand ≤ maxWord)
    (h : (real? negative significand exponent).map (·, cs) = some (v, rest)) : v.IsScalar := by
  obtain ⟨v', hv', heq⟩ := Option.map_eq_some_iff.mp h
  cases heq
  exact isScalar_of_real? hword hv'

theorem isScalar_of_exponentPart? (hword : significand ≤ maxWord)
    (h : exponentPart? negative significand exponent cs = some (v, rest)) : v.IsScalar := by
  unfold exponentPart? at h
  rcases signed cs with ⟨down, cs⟩
  dsimp only at h
  split at h
  · cases h
  split at h
  · split at h
    · cases h
    · cases h
      exact .real Binary64.isDouble_zero
  · exact isScalar_of_map_real? hword h

/-- Digits are taken only as long as they fit. -/
theorem takeDigits_le (taken : ℕ) (hword : significand ≤ maxWord) :
    (takeDigits significand taken cs).1 ≤ maxWord := by
  induction cs generalizing significand taken with
  | nil => exact hword
  | cons c cs ih =>
    rw [takeDigits]
    split
    next hfits =>
      have hnext := of_decide_eq_true (Bool.and_eq_true_iff.mp hfits).2
      exact ih (taken + 1) hnext
    next => exact hword

theorem isScalar_of_fractionPart? (hword : significand ≤ maxWord)
    (h : fractionPart? negative significand exponent cs = some (v, rest)) : v.IsScalar := by
  have htaken : (takeDigits significand 0 cs).1 ≤ maxWord := takeDigits_le 0 hword
  unfold fractionPart? at h
  rcases takeDigits significand 0 cs with ⟨significand, taken, cs⟩
  dsimp only at h htaken
  split at h
  · cases h
  split at h
  · exact isScalar_of_exponentPart? htaken h
  · exact isScalar_of_map_real? htaken h

theorem isScalar_integer (hword : significand ≤ maxWord) :
    (integer negative significand).IsScalar := by
  unfold integer
  split
  · exact .int _
  split
  · exact .int _
  · exact .real (Binary64.hasRoom_ofRatio true hword).isCanonical

theorem isScalar_of_unsignedNumber? (h : unsignedNumber? negative cs = some (v, rest)) :
    v.IsScalar := by
  unfold unsignedNumber? at h
  extract_lets whole? at h
  -- The digits before a point or an exponent stay within a word, however they are read.
  have hwhole : ∀ significand dropped after, whole? = some (significand, dropped, after) →
      significand ≤ maxWord := by
    intro significand dropped after hread
    simp only [whole?] at hread
    split at hread
    · split at hread
      · cases hread
      · cases hread
        exact Nat.zero_le _
    · split at hread
      · cases hread
        exact takeDigits_le 0 (Nat.zero_le _)
      · cases hread
    · cases hread
  clear_value whole?
  split at h
  · cases h
  next =>
    have hword := hwhole _ _ _ rfl
    split at h
    · exact isScalar_of_fractionPart? hword h
    split at h
    · exact isScalar_of_exponentPart? hword h
    split at h
    · cases h
      exact isScalar_integer hword
    · exact isScalar_of_map_real? hword h

/-- Every number that is read from a text is an integer or a finite double. -/
theorem isScalar_of_number? (h : number? cs = some (v, rest)) : v.IsScalar := by
  unfold number? at h
  split at h <;> exact isScalar_of_unsignedNumber? h

end Reading

end Json

end FlowPilot
