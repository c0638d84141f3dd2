import FlowPilot.Number.Shortest
import FlowPilot.Proofs.Number.Rounding

/-!
# Shortest decimals round to their double

The search for the shortest digits ends with a decimal that rounds to the double. A grid of fewer
digits is accepted only where one of its points does, and on the last grid, which has seventeen
digits, the nearest point always does: half the distance of its points is less than the interval
reaches.

## Main definitions

* `Shortest.Interval.Surrounds`: an interval in units of its denominator.

## Main statements

* `Shortest.pow_magnitude_le`: the first digit of a fraction is where its magnitude says.
* `Shortest.digits_roundsTo`: the shortest digits round to their double.
-/

namespace FlowPilot.Shortest

open Binary64 (IsDouble RoundsTo reach zpow_toNat)

/-! ### Intervals -/

/-- An interval holds the fractions that round to the double `m * 2 ^ e`. -/
structure Interval.Surrounds (i : Interval) (m : ℕ) (e : ℤ) : Prop where
  den_pos : 0 < i.den
  low : (i.low : ℚ) / i.den = (m - reach m e) * 2 ^ e
  value : (i.value : ℚ) / i.den = m * 2 ^ e
  high : (i.high : ℚ) / i.den = (m + 1 / 2) * 2 ^ e
  closed : i.closed = (m % 2 == 0)

theorem surrounds_around {m : ℕ} (hm : 0 < m) (e : ℤ) : (Interval.around m e).Surrounds m e := by
  obtain ⟨hden, hunit⟩ := Binary64.fraction_spec 1 (e - 2)
  have hquarter : (2 : ℚ) ^ (e - 2) = 2 ^ e / 4 := by
    rw [zpow_sub₀ two_ne_zero]
    norm_num
  rw [Nat.cast_one, one_mul, hquarter] at hunit
  have hreach : (((if m = Nat.pow 2 52 ∧ Binary64.minExponent < e then 1 else 2 : ℕ)) : ℚ) =
      4 * reach m e := by
    unfold reach
    rw [Nat.pow_eq]
    split <;> norm_num
  have hle : (if m = Nat.pow 2 52 ∧ Binary64.minExponent < e then 1 else 2) ≤ 4 * m := by
    split <;> omega
  -- Every bound is a multiple of the unit.
  have hscale : ∀ k : ℕ, ((k * (Binary64.fraction 1 (e - 2)).1 : ℕ) : ℚ) /
      (Binary64.fraction 1 (e - 2)).2 = k * (2 ^ e / 4) := by
    intro k
    rw [Nat.cast_mul, mul_div_assoc, hunit]
  refine ⟨hden, ?_, ?_, ?_, rfl⟩
  · refine (hscale _).trans ?_
    rw [Nat.cast_sub hle, hreach]
    push_cast
    ring
  · refine (hscale (4 * m)).trans ?_
    push_cast
    ring
  · refine (hscale (4 * m + 2)).trans ?_
    push_cast
    ring

section Search

variable {i : Interval} {m : ℕ} {e : ℤ}

/-- What lies between the ends of an interval rounds to its double. Only the interval of an even
mantissa has its ends. -/
theorem roundsTo_of_between (h : i.Surrounds m e) {n scale : ℕ} (hscale : 0 < scale)
    (hbetween : (if i.closed then decide (i.low * scale ≤ n * i.den) &&
        decide (n * i.den ≤ i.high * scale)
      else decide (i.low * scale < n * i.den) && decide (n * i.den < i.high * scale)) = true) :
    RoundsTo m e (n / scale) := by
  have hden : (0 : ℚ) < i.den := by exact_mod_cast h.den_pos
  have hscaleq : (0 : ℚ) < scale := by exact_mod_cast hscale
  have hstrict : i.low * scale < n * i.den ∧ n * i.den < i.high * scale →
      (m - reach m e) * 2 ^ e < (n : ℚ) / scale ∧ (n : ℚ) / scale < (m + 1 / 2) * 2 ^ e := by
    rintro ⟨hlow, hhigh⟩
    rw [← h.low, ← h.high, div_lt_div_iff₀ hden hscaleq, div_lt_div_iff₀ hscaleq hden]
    exact ⟨by exact_mod_cast hlow, by exact_mod_cast hhigh⟩
  rw [h.closed] at hbetween
  split at hbetween
  next heven =>
    rw [Bool.and_eq_true, decide_eq_true_eq, decide_eq_true_eq] at hbetween
    obtain ⟨hlow, hhigh⟩ := hbetween
    refine ⟨?_, ?_, fun hodd => ?_⟩
    · rw [← h.low, div_le_div_iff₀ hden hscaleq]
      exact_mod_cast hlow
    · rw [← h.high, div_le_div_iff₀ hscaleq hden]
      exact_mod_cast hhigh
    · rw [hodd] at heven
      cases heven
  next =>
    rw [Bool.and_eq_true, decide_eq_true_eq, decide_eq_true_eq] at hbetween
    obtain ⟨hlow, hhigh⟩ := hstrict hbetween
    exact ⟨hlow.le, hhigh.le, fun _ => ⟨hlow, hhigh⟩⟩

/-- What an interval holds rounds to its double. -/
theorem roundsTo_of_holds (h : i.Surrounds m e) {d : ℕ} {k : ℤ} (hholds : i.holds d k = true) :
    RoundsTo m e (d * 10 ^ k) := by
  unfold Interval.holds at hholds
  by_cases hk : 0 ≤ k
  · rw [if_pos hk] at hholds
    have hround := roundsTo_of_between h one_pos hholds
    rwa [Nat.cast_mul, zpow_toNat hk, Nat.cast_ofNat, Nat.cast_one, div_one] at hround
  · rw [if_neg hk] at hholds
    have hpow : 0 < Nat.pow 10 (-k).toNat := Nat.pow_pos (by decide)
    have hround := roundsTo_of_between h hpow hholds
    rwa [zpow_toNat (by omega), Nat.cast_ofNat, zpow_neg, div_inv_eq_mul] at hround

/-! ### Grids -/

/-- The nearer neighbour is no farther than half the distance of the grid. -/
theorem headD_neighbours (hden : 0 < i.den) (k : ℤ) :
    |(((neighbours i k).headD 0 : ℕ) : ℚ) * 10 ^ k - i.value / i.den| ≤ 10 ^ k / 2 := by
  have hpos : (0 : ℚ) < 10 ^ k := by positivity
  have hdenq : (0 : ℚ) < i.den := by exact_mod_cast hden
  -- The value in units of the grid, as numerator and denominator.
  have hnearest : ∀ n d : ℕ, 0 < d → (n : ℚ) / d = i.value / i.den / 10 ^ k →
      |(((if 2 * (n % d) < d ∨ (2 * (n % d) = d ∧ n / d % 2 = 0) then [n / d, n / d + 1]
        else [n / d + 1, n / d]).headD 0 : ℕ) : ℚ) * 10 ^ k - i.value / i.den| ≤ 10 ^ k / 2 := by
    intro n d hd hratio
    have hdq : (0 : ℚ) < d := by exact_mod_cast hd
    have hvalue : (i.value : ℚ) / i.den = n / d * 10 ^ k := by
      rw [hratio, div_mul_cancel₀ _ hpos.ne']
    have hsplit : (n : ℚ) = d * (n / d : ℕ) + (n % d : ℕ) := by
      exact_mod_cast (Nat.div_add_mod n d).symm
    have hrest : ((n % d : ℕ) : ℚ) < d := by exact_mod_cast Nat.mod_lt n hd
    have hfrac : (n : ℚ) / d = (n / d : ℕ) + (n % d : ℕ) / d := by
      rw [div_eq_iff hdq.ne', add_mul, div_mul_cancel₀ _ hdq.ne', mul_comm]
      exact hsplit
    have hclose : ∀ q : ℕ, |(q : ℚ) - n / d| ≤ 1 / 2 →
        |(q : ℚ) * 10 ^ k - i.value / i.den| ≤ 10 ^ k / 2 := by
      intro q hq
      rw [hvalue, ← sub_mul, abs_mul, abs_of_pos hpos]
      calc |(q : ℚ) - n / d| * 10 ^ k ≤ 1 / 2 * 10 ^ k := by gcongr
        _ = 10 ^ k / 2 := by ring
    split
    next hbelow =>
      refine hclose (n / d) ?_
      have hhalf : ((n % d : ℕ) : ℚ) / d ≤ 1 / 2 := by
        rw [div_le_div_iff₀ hdq two_pos]
        have : 2 * (n % d) ≤ d := by omega
        have hcast : (2 : ℚ) * (n % d : ℕ) ≤ d := by exact_mod_cast this
        linarith
      have hnonneg : (0 : ℚ) ≤ (n % d : ℕ) / d := by positivity
      rw [hfrac, sub_add_cancel_left, abs_neg, abs_of_nonneg hnonneg]
      exact hhalf
    next habove =>
      refine hclose (n / d + 1) ?_
      have hhalf : 1 / 2 ≤ ((n % d : ℕ) : ℚ) / d := by
        rw [div_le_div_iff₀ two_pos hdq]
        have : d ≤ 2 * (n % d) := by omega
        have hcast : (d : ℚ) ≤ 2 * (n % d : ℕ) := by exact_mod_cast this
        linarith
      have hone : ((n % d : ℕ) : ℚ) / d < 1 := (div_lt_one hdq).mpr hrest
      rw [hfrac, Nat.cast_add_one, add_sub_add_left_eq_sub, abs_of_nonneg (by linarith)]
      linarith
  unfold neighbours
  by_cases hk : 0 ≤ k
  · rw [if_pos hk]
    refine hnearest _ _ (Nat.mul_pos hden (Nat.pow_pos (by decide))) ?_
    rw [Nat.cast_mul, zpow_toNat hk, Nat.cast_ofNat, div_div]
  · rw [if_neg hk]
    refine hnearest _ _ hden ?_
    rw [Nat.cast_mul, zpow_toNat (by omega), Nat.cast_ofNat, zpow_neg, mul_div_right_comm,
      div_eq_mul_inv _ (10 ^ k)]

/-- A decimal that is no farther from the double than half of a place of seventeen digits rounds to
it. -/
theorem roundsTo_of_near (hd : IsDouble m e) (hm : 0 < m) {x : ℚ} {k : ℤ}
    (hnear : |x - m * 2 ^ e| ≤ 10 ^ k / 2) (hk : (10 : ℚ) ^ (k + 16) ≤ m * 2 ^ e) :
    RoundsTo m e x := by
  have hpos : (0 : ℚ) < 2 ^ e := by positivity
  have hmq : (0 : ℚ) < m := by exact_mod_cast hm
  have hbits : (m : ℚ) < 2 ^ 53 := by exact_mod_cast hd.bits
  have hplace : (10 : ℚ) ^ k / 2 ≤ m / (2 * 10 ^ 16) * 2 ^ e := by
    rw [zpow_add₀ (by norm_num)] at hk
    have hsixteen : (10 : ℚ) ^ (16 : ℤ) = 10 ^ 16 := by norm_cast
    rw [hsixteen] at hk
    have hten : (0 : ℚ) < 10 ^ 16 := by positivity
    calc (10 : ℚ) ^ k / 2 = 10 ^ k * 10 ^ 16 / (2 * 10 ^ 16) := by field_simp
      _ ≤ m * 2 ^ e / (2 * 10 ^ 16) := by gcongr
      _ = m / (2 * 10 ^ 16) * 2 ^ e := by ring
  -- Below a power of two the interval reaches only half as far, but half a place of seventeen
  -- digits is less than that too.
  have hreach : (m : ℚ) / (2 * 10 ^ 16) < reach m e := by
    rw [div_lt_iff₀ (by positivity)]
    unfold reach
    split
    next hpower =>
      have hvalue : (m : ℚ) = 2 ^ 52 := by exact_mod_cast hpower.1
      rw [hvalue]
      norm_num
    next => linarith
  have hreach_le := Binary64.reach_le m e
  have hdistance : |x - m * 2 ^ e| < reach m e * 2 ^ e :=
    (hnear.trans hplace).trans_lt (by gcongr)
  obtain ⟨hlow, hhigh⟩ := abs_lt.mp hdistance
  have hlow' : ((m : ℚ) - reach m e) * 2 ^ e < x := by linarith
  have hhigh' : x < ((m : ℚ) + 1 / 2) * 2 ^ e := by
    have : reach m e * 2 ^ e ≤ 1 / 2 * 2 ^ e := by gcongr
    linarith
  exact ⟨hlow'.le, hhigh'.le, fun _ => ⟨hlow', hhigh'⟩⟩

/-- The search ends with a decimal that rounds to the double, if its last grid is fine enough. -/
theorem search_roundsTo (h : i.Surrounds m e) (hd : IsDouble m e) (hm : 0 < m) (left : ℕ) (k : ℤ)
    (hk : (10 : ℚ) ^ (k - left + 16) ≤ m * 2 ^ e) :
    RoundsTo m e ((search i k left).1 * 10 ^ (search i k left).2) := by
  -- The last grid is the same for all, so the hypothesis on it passes through the induction.
  induction left generalizing k with
  | zero =>
    have hnear := headD_neighbours h.den_pos k
    rw [h.value] at hnear
    rw [Nat.cast_zero, sub_zero] at hk
    exact roundsTo_of_near hd hm hnear hk
  | succ left ih =>
    rw [search]
    split
    next d hfound =>
      have hholds : i.holds d k = true := by simpa using List.find?_some hfound
      exact roundsTo_of_holds h hholds
    next =>
      refine ih (k - 1) (le_of_eq_of_le (congrArg _ ?_) hk)
      push_cast
      ring

end Search

/-! ### Digits -/

theorem pow_length_toDigits_le {n : ℕ} (hn : 0 < n) :
    10 ^ ((Nat.toDigits 10 n).length - 1) ≤ n := by
  by_contra hlt
  have hpos := Nat.length_toDigits_pos (b := 10) (n := n)
  by_cases hone : (Nat.toDigits 10 n).length - 1 = 0
  · rw [hone] at hlt
    omega
  · have hle := (Nat.length_toDigits_le_iff (by decide) (by omega)).mpr (not_le.mp hlt)
    omega

theorem lt_pow_length_toDigits (n : ℕ) : n < 10 ^ (Nat.toDigits 10 n).length :=
  (Nat.length_toDigits_le_iff (by decide) Nat.length_toDigits_pos).mp le_rfl

/-- A fraction is at least as large as the place of its first digit says. -/
theorem pow_magnitude_le {num den : ℕ} (hnum : 0 < num) (hden : 0 < den) :
    (10 : ℚ) ^ (magnitude num den - 1) ≤ num / den := by
  have hnumq : (0 : ℚ) < num := by exact_mod_cast hnum
  have hdenq : (0 : ℚ) < den := by exact_mod_cast hden
  unfold magnitude
  split
  next hle =>
    have hpow := pow_length_toDigits_le (Nat.div_pos hle hden)
    have hpos := Nat.length_toDigits_pos (b := 10) (n := num / den)
    have hexp : ((Nat.toDigits 10 (num / den)).length : ℤ) - 1 =
        ((Nat.toDigits 10 (num / den)).length - 1 : ℕ) := by omega
    rw [hexp, zpow_natCast, le_div_iff₀ hdenq]
    have hmul := (Nat.mul_le_mul_right den hpow).trans (Nat.div_mul_le_self num den)
    exact_mod_cast hmul
  next hlt =>
    have hpos := Nat.length_toDigits_pos (b := 10) (n := den / num)
    dsimp only
    split
    -- The value is a power of ten itself, so its first digit stands one place higher.
    next hexact =>
      have hexp : (2 : ℤ) - (Nat.toDigits 10 (den / num)).length - 1 =
          -((Nat.toDigits 10 (den / num)).length - 1 : ℕ) := by omega
      have hexactq : (num : ℚ) * 10 ^ ((Nat.toDigits 10 (den / num)).length - 1) = den := by
        exact_mod_cast hexact
      rw [hexp, zpow_neg, zpow_natCast, ← hexactq, div_mul_cancel_left₀ hnumq.ne']
    next =>
      have hexp : (1 : ℤ) - (Nat.toDigits 10 (den / num)).length - 1 =
          -((Nat.toDigits 10 (den / num)).length : ℤ) := by omega
      have hpow : den < num * 10 ^ (Nat.toDigits 10 (den / num)).length := by
        rw [mul_comm, ← Nat.div_lt_iff_lt_mul hnum]
        exact lt_pow_length_toDigits (den / num)
      rw [hexp, zpow_neg, zpow_natCast, inv_le_comm₀ (by positivity) (by positivity), inv_div,
        div_le_iff₀ hnumq, mul_comm]
      exact_mod_cast hpow.le

/-- Moving trailing zeros into the power of ten keeps the value. -/
theorem dropZeros_value (d : ℕ) (k : ℤ) (left : ℕ) :
    ((dropZeros d k left).1 : ℚ) * 10 ^ (dropZeros d k left).2 = d * 10 ^ k := by
  induction left generalizing d k with
  | zero => rfl
  | succ left ih =>
    rw [dropZeros]
    split
    next hzero =>
      have hd : (d : ℚ) = (d / 10 : ℕ) * 10 := by
        exact_mod_cast (Nat.div_mul_cancel (Nat.dvd_of_mod_eq_zero hzero.1)).symm
      rw [ih, zpow_add_one₀ (by norm_num), hd]
      ring
    next => rfl

/-- The shortest digits of a double round to it. -/
theorem digits_roundsTo {m : ℕ} {e : ℤ} (hd : IsDouble m e) (hm : 0 < m) :
    RoundsTo m e ((digits m e).1 * 10 ^ (digits m e).2) := by
  have hsurrounds := surrounds_around hm e
  obtain ⟨i, hi⟩ : ∃ i, i = Interval.around m e := ⟨_, rfl⟩
  rw [← hi] at hsurrounds
  have hvalue : 0 < i.value := by
    by_contra hzero
    have hnone := hsurrounds.value
    rw [Nat.eq_zero_of_not_pos hzero, Nat.cast_zero, zero_div] at hnone
    have hmq : (0 : ℚ) < m := by exact_mod_cast hm
    exact absurd hnone (ne_of_lt (by positivity))
  have hfine : (10 : ℚ) ^ (magnitude i.value i.den - 1 - (16 : ℕ) + 16) ≤ m * 2 ^ e := by
    rw [Nat.cast_ofNat, sub_add_cancel, ← hsurrounds.value]
    exact pow_magnitude_le hvalue hsurrounds.den_pos
  have hround := search_roundsTo hsurrounds hd hm 16 (magnitude i.value i.den - 1) hfine
  unfold digits
  rw [← hi, dropZeros_value]
  exact hround

end FlowPilot.Shortest
