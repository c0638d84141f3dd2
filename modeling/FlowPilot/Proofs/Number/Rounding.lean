import FlowPilot.Number.Binary64
import Mathlib.Algebra.Order.Field.Power
import Mathlib.Tactic.FieldSimp
import Mathlib.Tactic.Linarith
import Mathlib.Tactic.NormNum
import Mathlib.Tactic.Positivity
import Mathlib.Tactic.Ring

/-!
# Which fractions round to a double

A fraction rounds to a double if it is no farther from it than half the distance to its neighbours.
Below a power of two that distance is half of what it is above, and a fraction in the middle goes to
the double with the even mantissa.

## Main definitions

* `Binary64.IsDouble`: mantissa and exponent of a double.
* `Binary64.IsCanonical`: a finite double in the form in which it is computed.
* `Binary64.RoundsTo`: the fractions that are rounded to it.
* `Binary64.leading`: the exponent at which a fraction has a mantissa of 53 bits.

## Main statements

* `Binary64.ofRatio_of_roundsTo`: such a fraction is rounded to the double.
* `Binary64.ofRatio_cases`: every fraction is rounded to a double in this form or to an infinity.
* `Binary64.ofRatio_of_small`: a fraction that is not too large is rounded to a double.
* `Binary64.ofRatio_of_large`: a fraction above the greatest double gives an infinity.
-/

namespace FlowPilot.Binary64

/-- Mantissa and exponent of a double: at most 53 bits, of which the first is set unless the
exponent is the least one. -/
structure IsDouble (m : ℕ) (e : ℤ) : Prop where
  bits : m < 2 ^ 53
  least : minExponent ≤ e
  greatest : e ≤ maxExponent
  leading : e = minExponent ∨ 2 ^ 52 ≤ m

/-- A finite double in the form in which it is computed. -/
def IsCanonical : Binary64 → Prop
  | finite _ m e => IsDouble m e
  | _ => False

/-- How far below a double its interval reaches, in units of its last place: the next double below a
power of two is only half as far. -/
def reach (m : ℕ) (e : ℤ) : ℚ := if m = 2 ^ 52 ∧ minExponent < e then 1 / 4 else 1 / 2

/-- A fraction that is rounded to the double `m * 2 ^ e`. -/
structure RoundsTo (m : ℕ) (e : ℤ) (x : ℚ) : Prop where
  low : (m - reach m e) * 2 ^ e ≤ x
  high : x ≤ (m + 1 / 2) * 2 ^ e
  inside : m % 2 = 1 → (m - reach m e) * 2 ^ e < x ∧ x < (m + 1 / 2) * 2 ^ e

theorem reach_le (m : ℕ) (e : ℤ) : reach m e ≤ 1 / 2 := by
  unfold reach
  split <;> norm_num

/-! ### Fractions of whole numbers -/

theorem zpow_toNat {base : ℕ} {e : ℤ} (h : 0 ≤ e) :
    ((Nat.pow base e.toNat : ℕ) : ℚ) = (base : ℚ) ^ e := by
  rw [Nat.pow_eq, Nat.cast_pow, ← zpow_natCast, Int.toNat_of_nonneg h]

theorem scaleDown_spec (num : ℕ) {den : ℕ} (hden : 0 < den) (e : ℤ) :
    0 < (scaleDown num den e).2 ∧
      ((scaleDown num den e).1 : ℚ) / (scaleDown num den e).2 = num / den / 2 ^ e := by
  unfold scaleDown
  split
  next h =>
    refine ⟨Nat.mul_pos hden (Nat.pow_pos two_pos), ?_⟩
    rw [Nat.cast_mul, zpow_toNat h, Nat.cast_ofNat, div_div]
  next h =>
    refine ⟨hden, ?_⟩
    rw [Nat.cast_mul, zpow_toNat (by omega), Nat.cast_ofNat, zpow_neg, div_div, mul_comm (den : ℚ),
      ← div_div, div_eq_mul_inv (num : ℚ)]

theorem fraction_spec (m : ℕ) (e : ℤ) :
    0 < (fraction m e).2 ∧ ((fraction m e).1 : ℚ) / (fraction m e).2 = m * 2 ^ e := by
  unfold fraction
  split
  next h =>
    refine ⟨one_pos, ?_⟩
    rw [Nat.cast_mul, zpow_toNat h, Nat.cast_ofNat, Nat.cast_one, div_one]
  next h =>
    refine ⟨Nat.pow_pos two_pos, ?_⟩
    rw [zpow_toNat (by omega), Nat.cast_ofNat, zpow_neg, div_inv_eq_mul]

/-! ### Rounding to whole numbers -/

/-- A fraction is rounded to the whole number that is no farther than a half; in the middle to the
even one. -/
theorem roundHalfEven_eq {n d m : ℕ} (hd : 0 < d) (hlow : (m : ℚ) - 1 / 2 ≤ n / d)
    (hhigh : (n : ℚ) / d ≤ m + 1 / 2)
    (hinside : m % 2 = 1 → (m : ℚ) - 1 / 2 < n / d ∧ (n : ℚ) / d < m + 1 / 2) :
    roundHalfEven n d = m := by
  have hdpos : (0 : ℚ) < d := by exact_mod_cast hd
  have hsplit := Nat.div_add_mod n d
  have hrest := Nat.mod_lt n hd
  generalize hq : n / d = q at hsplit
  generalize hr : n % d = r at hsplit hrest
  -- The bounds without fractions.
  have hlowN : 2 * (m * d) ≤ 2 * n + d := by
    rw [le_div_iff₀ hdpos] at hlow
    have hcast : (2 * (m * d) : ℚ) ≤ 2 * n + d := by linarith
    exact_mod_cast hcast
  have hhighN : 2 * n ≤ 2 * (m * d) + d := by
    rw [div_le_iff₀ hdpos] at hhigh
    have hcast : (2 * n : ℚ) ≤ 2 * (m * d) + d := by linarith
    exact_mod_cast hcast
  have hinsideN : m % 2 = 1 → 2 * (m * d) < 2 * n + d ∧ 2 * n < 2 * (m * d) + d := by
    intro hodd
    obtain ⟨h₁, h₂⟩ := hinside hodd
    rw [lt_div_iff₀ hdpos] at h₁
    rw [div_lt_iff₀ hdpos] at h₂
    have hcast₁ : (2 * (m * d) : ℚ) < 2 * n + d := by linarith
    have hcast₂ : (2 * n : ℚ) < 2 * (m * d) + d := by linarith
    exact ⟨by exact_mod_cast hcast₁, by exact_mod_cast hcast₂⟩
  have hqm : q = m ∨ q + 1 = m := by
    have hle : q ≤ m := by
      by_contra hlt
      have hmul : d * (m + 1) ≤ d * q := Nat.mul_le_mul_left d (by omega)
      rw [Nat.mul_add, Nat.mul_one, Nat.mul_comm d m] at hmul
      omega
    have hge : m ≤ q + 1 := by
      by_contra hlt
      have hmul : d * (q + 2) ≤ d * m := Nat.mul_le_mul_left d (by omega)
      rw [Nat.mul_add, Nat.mul_comm d m] at hmul
      omega
    omega
  unfold roundHalfEven
  rw [hq, hr]
  dsimp only
  rcases hqm with rfl | rfl
  · rw [Nat.mul_comm d q] at hsplit
    split_ifs <;> omega
  · have hstep : (q + 1) * d = d * q + d := by ring
    rw [hstep] at hlowN hhighN hinsideN
    split_ifs <;> omega

theorem le_roundHalfEven (n d : ℕ) : n / d ≤ roundHalfEven n d := by
  unfold roundHalfEven
  dsimp only
  split_ifs <;> omega

theorem roundHalfEven_le (n d : ℕ) : roundHalfEven n d ≤ n / d + 1 := by
  unfold roundHalfEven
  dsimp only
  split_ifs <;> omega

/-! ### The exponent of a fraction -/

/-- The exponent at which a fraction has a mantissa of 53 bits. -/
def leading (num den : ℕ) : ℤ :=
  let guess : ℤ := (num.log2 : ℤ) - (den.log2 : ℤ) - 52
  let (n, d) := scaleDown num den guess
  if n < d * Nat.pow 2 52 then guess - 1 else guess

/-- The exponent of a fraction that is rounded to a double. -/
def roundingExponent (num den : ℕ) : ℤ := max (leading num den) minExponent

/-- The mantissa of a fraction that is rounded to a double. -/
def mantissa (num den : ℕ) : ℕ :=
  let scaled := scaleDown num den (roundingExponent num den)
  roundHalfEven scaled.1 scaled.2

/-- A double from its mantissa and exponent, after the mantissa was rounded. -/
def pack (s : Bool) (m : ℕ) (e : ℤ) : Binary64 :=
  if m = Nat.pow 2 53 then
    if maxExponent < e + 1 then infinite s else finite s (Nat.pow 2 52) (e + 1)
  else if maxExponent < e then infinite s
  else finite s m e

theorem pack_of_ne (s : Bool) {m : ℕ} (h : m ≠ 2 ^ 53) (e : ℤ) :
    pack s m e = if maxExponent < e then infinite s else finite s m e := by
  rw [pack, Nat.pow_eq, if_neg h]

theorem pack_carry (s : Bool) (e : ℤ) :
    pack s (2 ^ 53) e =
      if maxExponent < e + 1 then infinite s else finite s (2 ^ 52) (e + 1) := by
  rw [pack, Nat.pow_eq, Nat.pow_eq, if_pos rfl]

theorem ofRatio_eq (s : Bool) {num : ℕ} (hnum : num ≠ 0) (den : ℕ) :
    ofRatio s num den = pack s (mantissa num den) (roundingExponent num den) := by
  -- Both sides are the same expression. Its parts must not be computed where it is compared.
  obtain ⟨scale, hscale⟩ : ∃ f, f = scaleDown num den := ⟨_, rfl⟩
  obtain ⟨guess, hguess⟩ : ∃ g : ℤ, g = (num.log2 : ℤ) - (den.log2 : ℤ) - 52 := ⟨_, rfl⟩
  rw [ofRatio, if_neg hnum, mantissa, roundingExponent, leading, pack, ← hscale, ← hguess]
  dsimp only
  generalize max (if (scale guess).1 < (scale guess).2 * Nat.pow 2 52 then guess - 1 else guess)
    minExponent = e
  generalize roundHalfEven (scale e).1 (scale e).2 = m
  by_cases hcarry : m = Nat.pow 2 53
  · rw [if_pos hcarry, if_pos hcarry]
  · rw [if_neg hcarry, if_neg hcarry]

section Fraction

variable {num den : ℕ}

/-- The logarithms of numerator and denominator leave two possible exponents. -/
theorem log2_spec (hnum : num ≠ 0) (hden : 0 < den) :
    (2 : ℚ) ^ ((num.log2 : ℤ) - den.log2 - 1) ≤ num / den ∧
      (num : ℚ) / den < 2 ^ ((num.log2 : ℤ) - den.log2 + 1) := by
  have hd : (0 : ℚ) < den := by exact_mod_cast hden
  have hn₁ : (2 : ℚ) ^ (num.log2 : ℤ) ≤ num := by exact_mod_cast Nat.log2_self_le hnum
  have hn₂ : (num : ℚ) < 2 ^ ((num.log2 : ℤ) + 1) := by
    exact_mod_cast Nat.lt_log2_self (n := num)
  have hd₁ : (2 : ℚ) ^ (den.log2 : ℤ) ≤ den := by exact_mod_cast Nat.log2_self_le hden.ne'
  have hd₂ : (den : ℚ) < 2 ^ ((den.log2 : ℤ) + 1) := by
    exact_mod_cast Nat.lt_log2_self (n := den)
  -- Both logarithms are off by less than one, in either direction.
  rw [le_div_iff₀ hd, div_lt_iff₀ hd]
  constructor
  · calc (2 : ℚ) ^ ((num.log2 : ℤ) - den.log2 - 1) * den
        ≤ 2 ^ ((num.log2 : ℤ) - den.log2 - 1) * 2 ^ ((den.log2 : ℤ) + 1) := by gcongr
      _ = 2 ^ (num.log2 : ℤ) := by rw [← zpow_add₀ two_ne_zero]; congr 1; ring
      _ ≤ num := hn₁
  · calc (num : ℚ) < 2 ^ ((num.log2 : ℤ) + 1) := hn₂
      _ = 2 ^ ((num.log2 : ℤ) - den.log2 + 1) * 2 ^ (den.log2 : ℤ) := by
          rw [← zpow_add₀ two_ne_zero]; congr 1; ring
      _ ≤ 2 ^ ((num.log2 : ℤ) - den.log2 + 1) * den := by gcongr

theorem leading_spec (hnum : num ≠ 0) (hden : 0 < den) :
    (2 : ℚ) ^ (leading num den + 52) ≤ num / den ∧
      (num : ℚ) / den < 2 ^ (leading num den + 53) := by
  obtain ⟨hlow, hhigh⟩ := log2_spec hnum hden
  unfold leading
  dsimp only
  generalize hguess : (num.log2 : ℤ) - (den.log2 : ℤ) - 52 = guess
  obtain ⟨hd, hratio⟩ := scaleDown_spec num hden guess
  have hdpos : (0 : ℚ) < (scaleDown num den guess).2 := by exact_mod_cast hd
  -- The comparison of the code, as one of fractions.
  have htest : (scaleDown num den guess).1 < (scaleDown num den guess).2 * Nat.pow 2 52 ↔
      (num : ℚ) / den < 2 ^ (guess + 52) := by
    have hscaled : (2 : ℚ) ^ (guess + 52) = 2 ^ 52 * 2 ^ guess := by
      rw [zpow_add₀ two_ne_zero, mul_comm]
      norm_cast
    rw [hscaled, ← div_lt_iff₀ (by positivity), ← hratio, div_lt_iff₀ hdpos, Nat.pow_eq,
      ← Nat.cast_lt (α := ℚ), mul_comm]
    push_cast
    rfl
  split
  next h =>
    refine ⟨?_, (htest.mp h).trans_le (le_of_eq (congrArg _ (by ring)))⟩
    exact (le_of_eq (congrArg _ (by omega))).trans hlow
  next h =>
    refine ⟨not_lt.mp (mt htest.mpr h), ?_⟩
    exact hhigh.trans_le (le_of_eq (congrArg _ (by omega)))

/-! ### The mantissa of a fraction -/

variable {m : ℕ}

/-- The mantissa is the whole number that is no farther than a half from the scaled fraction; in the
middle it is the even one. -/
theorem mantissa_eq (hden : 0 < den)
    (hlow : (m : ℚ) - 1 / 2 ≤ num / den / 2 ^ roundingExponent num den)
    (hhigh : (num : ℚ) / den / 2 ^ roundingExponent num den ≤ m + 1 / 2)
    (hinside : m % 2 = 1 → (m : ℚ) - 1 / 2 < num / den / 2 ^ roundingExponent num den ∧
      (num : ℚ) / den / 2 ^ roundingExponent num den < m + 1 / 2) :
    mantissa num den = m := by
  obtain ⟨hscale, hratio⟩ := scaleDown_spec num hden (roundingExponent num den)
  rw [← hratio] at hlow hhigh hinside
  exact roundHalfEven_eq hscale hlow hhigh hinside

theorem le_mantissa (hden : 0 < den) (h : (m : ℚ) ≤ num / den / 2 ^ roundingExponent num den) :
    m ≤ mantissa num den := by
  obtain ⟨hscale, hratio⟩ := scaleDown_spec num hden (roundingExponent num den)
  refine le_trans ?_ (le_roundHalfEven _ _)
  rw [← hratio, le_div_iff₀ (by exact_mod_cast hscale)] at h
  rw [Nat.le_div_iff_mul_le hscale]
  exact_mod_cast h

theorem mantissa_le (hden : 0 < den) (h : (num : ℚ) / den / 2 ^ roundingExponent num den < m) :
    mantissa num den ≤ m := by
  obtain ⟨hscale, hratio⟩ := scaleDown_spec num hden (roundingExponent num den)
  refine (roundHalfEven_le _ _).trans (Nat.succ_le_of_lt ?_)
  rw [← hratio, div_lt_iff₀ (by exact_mod_cast hscale)] at h
  rw [Nat.div_lt_iff_lt_mul hscale]
  exact_mod_cast h

/-- The mantissa has at most 53 bits before it carries, and all of them unless the exponent is the
least one. -/
theorem mantissa_bits (hnum : num ≠ 0) (hden : 0 < den) :
    mantissa num den ≤ 2 ^ 53 ∧
      (roundingExponent num den = minExponent ∨ 2 ^ 52 ≤ mantissa num den) := by
  obtain ⟨hlow, hhigh⟩ := leading_spec hnum hden
  have hpos : (0 : ℚ) < 2 ^ roundingExponent num den := by positivity
  constructor
  · refine mantissa_le hden ?_
    have hmost : (2 : ℚ) ^ leading num den ≤ 2 ^ roundingExponent num den :=
      zpow_le_zpow_right₀ one_le_two (le_max_left _ _)
    rw [div_lt_iff₀ hpos]
    calc (num : ℚ) / den < 2 ^ (leading num den + 53) := hhigh
      _ = (2 ^ 53 : ℕ) * 2 ^ leading num den := by
          rw [zpow_add₀ two_ne_zero, mul_comm]
          norm_cast
      _ ≤ (2 ^ 53 : ℕ) * 2 ^ roundingExponent num den := by gcongr
  -- The exponent is that of the leading digit, or the least one.
  · rcases max_choice (leading num den) minExponent with hmax | hmax
    · refine .inr (le_mantissa hden ?_)
      have hexp : roundingExponent num den = leading num den := hmax
      rw [le_div_iff₀ hpos, hexp]
      calc ((2 ^ 52 : ℕ) : ℚ) * 2 ^ leading num den = 2 ^ (leading num den + 52) := by
            rw [zpow_add₀ two_ne_zero, mul_comm]
            norm_cast
        _ ≤ num / den := hlow
    · exact .inl hmax

end Fraction

/-! ### Rounding to doubles -/

section Rounding

variable {m num den : ℕ} {e : ℤ}

theorem zpow_lt_of_lt {a b : ℤ} (h : (2 : ℚ) ^ a < 2 ^ b) : a < b :=
  (zpow_lt_zpow_iff_right₀ one_lt_two).mp h

/-- A fraction that is rounded to a double is scaled by the exponent of the double, or by the one
below it if the double is a power of two. -/
theorem roundingExponent_eq (hd : IsDouble m e) (hden : 0 < den) (hnum : num ≠ 0)
    (h : RoundsTo m e (num / den)) :
    roundingExponent num den = e ∨
      m = 2 ^ 52 ∧ minExponent < e ∧ leading num den = e - 1 ∧
        roundingExponent num den = e - 1 := by
  obtain ⟨hlow, hhigh⟩ := leading_spec hnum hden
  have hpos : (0 : ℚ) < 2 ^ e := by positivity
  have hbits : (m : ℚ) + 1 ≤ 2 ^ 53 := by exact_mod_cast hd.bits
  -- The interval of the double ends before the next greater exponent begins.
  have hmost : leading num den ≤ e := by
    have hlt : (2 : ℚ) ^ (leading num den + 52) < 2 ^ (e + 53) :=
      calc (2 : ℚ) ^ (leading num den + 52) ≤ num / den := hlow
        _ ≤ (m + 1 / 2) * 2 ^ e := h.high
        _ < 2 ^ 53 * 2 ^ e := by gcongr; linarith
        _ = 2 ^ (e + 53) := by rw [zpow_add₀ two_ne_zero, mul_comm]; norm_cast
    have := zpow_lt_of_lt hlt
    omega
  have hleast := hd.least
  unfold roundingExponent
  rcases hd.leading with rfl | hnormal
  · left
    omega
  rcases Nat.lt_or_ge (2 ^ 52) m with hlarge | hsmall
  · -- Above a power of two the interval begins above it too.
    have hbig : (2 : ℚ) ^ 52 + 1 ≤ m := by exact_mod_cast hlarge
    have hreach := reach_le m e
    have hlt : (2 : ℚ) ^ (e + 52) < 2 ^ (leading num den + 53) :=
      calc (2 : ℚ) ^ (e + 52) = 2 ^ 52 * 2 ^ e := by
            rw [zpow_add₀ two_ne_zero, mul_comm]; norm_cast
        _ < (m - reach m e) * 2 ^ e := by gcongr; linarith
        _ ≤ num / den := h.low
        _ < 2 ^ (leading num den + 53) := hhigh
    have := zpow_lt_of_lt hlt
    left
    omega
  -- At a power of two the interval begins below it, where the exponent is one less.
  · have hm : m = 2 ^ 52 := by omega
    have hmq : (m : ℚ) = 2 ^ 52 := by exact_mod_cast hm
    have hreach := reach_le m e
    have hlt : (2 : ℚ) ^ (e + 51) < 2 ^ (leading num den + 53) :=
      calc (2 : ℚ) ^ (e + 51) = 2 ^ 51 * 2 ^ e := by
            rw [zpow_add₀ two_ne_zero, mul_comm]; norm_cast
        _ < (m - reach m e) * 2 ^ e := by rw [hmq]; gcongr; linarith
        _ ≤ num / den := h.low
        _ < 2 ^ (leading num den + 53) := hhigh
    have := zpow_lt_of_lt hlt
    omega

/-- A fraction that rounds to a double is rounded to it. -/
theorem ofRatio_of_roundsTo (s : Bool) (hd : IsDouble m e) (hden : 0 < den)
    (h : RoundsTo m e (num / den)) : ofRatio s num den = finite s m e := by
  have hpos : (0 : ℚ) < 2 ^ e := by positivity
  by_cases hnum : num = 0
  · -- Only the interval of zero holds zero.
    have hlow := h.low
    have hreach := reach_le m e
    rw [hnum, Nat.cast_zero, zero_div] at hlow
    have hm : m = 0 := by
      have hle : (m : ℚ) - reach m e ≤ 0 := le_of_mul_le_mul_right (by rwa [zero_mul]) hpos
      have hlt : (m : ℚ) < 1 := by linarith
      exact Nat.lt_one_iff.mp (by exact_mod_cast hlt)
    have he : e = minExponent := by
      rcases hd.leading with he | hnormal
      · exact he
      · omega
    rw [hnum, hm, he, ofRatio, if_pos rfl, zero]
  have hgreatest := hd.greatest
  rw [ofRatio_eq s hnum]
  rcases roundingExponent_eq hd hden hnum h with he | ⟨hm, hleast, hlead, he⟩
  · have hround : mantissa num den = m := by
      have hreach := reach_le m e
      refine mantissa_eq hden ?_ ?_ fun hodd => ?_ <;> rw [he]
      · rw [le_div_iff₀ hpos]
        exact le_trans (by gcongr) h.low
      · rw [div_le_iff₀ hpos]
        exact h.high
      · rw [lt_div_iff₀ hpos, div_lt_iff₀ hpos]
        obtain ⟨hin₁, hin₂⟩ := h.inside hodd
        exact ⟨lt_of_le_of_lt (by gcongr) hin₁, hin₂⟩
    rw [hround, he, pack_of_ne s (ne_of_lt hd.bits), if_neg (not_lt.mpr hgreatest)]
  · -- The mantissa is rounded up to the next power of two.
    have hhalf : (2 : ℚ) ^ e = 2 * 2 ^ (e - 1) := by
      rw [zpow_sub_one₀ two_ne_zero]
      ring
    have hposHalf : (0 : ℚ) < 2 ^ (e - 1) := by positivity
    have hmq : (m : ℚ) = 2 ^ 52 := by exact_mod_cast hm
    have hquarter : reach m e = 1 / 4 := if_pos ⟨hm, hleast⟩
    have hround : mantissa num den = 2 ^ 53 := by
      have hlow : ((2 ^ 53 : ℕ) : ℚ) - 1 / 2 ≤ num / den / 2 ^ (e - 1) := by
        rw [le_div_iff₀ hposHalf]
        have hbound := h.low
        rw [hquarter, hmq, hhalf] at hbound
        push_cast
        linarith
      have hhigh : (num : ℚ) / den / 2 ^ (e - 1) < (2 ^ 53 : ℕ) := by
        rw [div_lt_iff₀ hposHalf]
        have hbound := (leading_spec hnum hden).2
        rw [hlead, zpow_add₀ two_ne_zero] at hbound
        push_cast
        rw [mul_comm]
        exact_mod_cast hbound
      refine mantissa_eq hden ?_ ?_ fun hodd => absurd hodd (by norm_num)
      · rwa [he]
      · rw [he]
        linarith
    rw [hround, he, pack_carry, Int.sub_add_cancel, if_neg (not_lt.mpr hgreatest), hm]

end Rounding

/-- A fraction is rounded to an infinity, which only a large one is, or to a double with the
exponent by which the fraction is scaled, or the next one if all bits of the mantissa carry. -/
theorem ofRatio_cases (s : Bool) (num : ℕ) {den : ℕ} (hden : 0 < den) :
    (ofRatio s num den = infinite s ∧ num ≠ 0 ∧ maxExponent ≤ roundingExponent num den) ∨
      ∃ m e, ofRatio s num den = finite s m e ∧ IsDouble m e ∧
        (num ≠ 0 → roundingExponent num den ≤ e ∧ e ≤ roundingExponent num den + 1) := by
  by_cases hnum : num = 0
  · refine .inr ⟨0, minExponent, ?_, ⟨by decide, le_rfl, by decide, .inl rfl⟩, absurd hnum⟩
    rw [ofRatio, if_pos hnum, zero]
  obtain ⟨hbits, hnormal⟩ := mantissa_bits hnum hden
  have hleast : minExponent ≤ roundingExponent num den := le_max_right _ _
  rw [ofRatio_eq s hnum]
  generalize mantissa num den = m at hbits hnormal ⊢
  generalize roundingExponent num den = e at hleast hnormal ⊢
  -- If the mantissa carries it is a power of two again, one exponent higher.
  by_cases hcarry : m = 2 ^ 53
  · rw [hcarry, pack_carry]
    split
    next hlarge => exact .inl ⟨rfl, hnum, by omega⟩
    next hle =>
      exact .inr ⟨_, _, rfl, ⟨by norm_num, by omega, not_lt.mp hle, .inr le_rfl⟩,
        fun _ => ⟨by omega, le_rfl⟩⟩
  · rw [pack_of_ne s hcarry]
    split
    next hlarge => exact .inl ⟨rfl, hnum, by omega⟩
    next hle =>
      exact .inr ⟨_, _, rfl, ⟨lt_of_le_of_ne hbits hcarry, hleast, not_lt.mp hle, hnormal⟩,
        fun _ => ⟨le_rfl, by omega⟩⟩

/-- A fraction that is not too large is rounded to a finite double. -/
theorem ofRatio_of_small (s : Bool) {num den : ℕ} (hden : 0 < den) {top : ℤ}
    (hleast : minExponent ≤ top) (htop : top < maxExponent)
    (h : (num : ℚ) / den < 2 ^ (top + 53)) :
    ∃ m e, ofRatio s num den = finite s m e ∧ IsDouble m e ∧ e ≤ top + 1 := by
  have hsmall : num ≠ 0 → roundingExponent num den ≤ top := fun hnum => by
    have hlead := zpow_lt_of_lt ((leading_spec hnum hden).1.trans_lt h)
    exact max_le (by omega) hleast
  rcases ofRatio_cases s num hden with ⟨-, hnum, hlarge⟩ | ⟨m, e, heq, hdouble, hexponent⟩
  · exact absurd (hsmall hnum) (by omega)
  · refine ⟨m, e, heq, hdouble, ?_⟩
    by_cases hnum : num = 0
    · rw [ofRatio, if_pos hnum, zero] at heq
      cases heq
      omega
    · have hnext := hsmall hnum
      have hbounds := hexponent hnum
      omega

/-- A fraction that is not below a power of two is not zero, and its leading digit is as high. -/
theorem lt_leading_of_two_zpow_le {num den : ℕ} {k : ℤ} (hden : 0 < den)
    (h : (2 : ℚ) ^ k ≤ num / den) : num ≠ 0 ∧ k < leading num den + 53 := by
  have hnum : num ≠ 0 := by
    rintro rfl
    rw [Nat.cast_zero, zero_div] at h
    exact absurd h (not_le.mpr (by positivity))
  exact ⟨hnum, zpow_lt_of_lt (h.trans_lt (leading_spec hnum hden).2)⟩

/-- What a fraction is rounded to is not below a power of two that the fraction is not below. -/
theorem two_zpow_le_of_ofRatio {s : Bool} {num den m : ℕ} {e k : ℤ} (hden : 0 < den)
    (hk : minExponent < k - 52) (h : (2 : ℚ) ^ k ≤ num / den)
    (heq : ofRatio s num den = finite s m e) : (2 : ℚ) ^ k ≤ m * 2 ^ e := by
  obtain ⟨hnum, hlead⟩ := lt_leading_of_two_zpow_le hden h
  have hscale : leading num den ≤ roundingExponent num den := le_max_left _ _
  rcases ofRatio_cases s num hden with ⟨hinfinite, -⟩ | ⟨m', e', heq', hdouble, hexponent⟩
  · rw [hinfinite] at heq
    cases heq
  rw [heq] at heq'
  cases heq'
  have hbounds := hexponent hnum
  -- The exponent is not the least one, so the leading bit of the mantissa is set.
  have hbits : 2 ^ 52 ≤ m := by
    rcases hdouble.leading with hleast | hbits
    · omega
    · exact hbits
  calc (2 : ℚ) ^ k = 2 ^ (k - 52 + 52) := by rw [sub_add_cancel]
    _ = 2 ^ 52 * 2 ^ (k - 52) := by
        rw [zpow_add₀ two_ne_zero, mul_comm]
        norm_cast
    _ ≤ m * 2 ^ e := by
        have hmantissa : (2 : ℚ) ^ 52 ≤ m := by exact_mod_cast hbits
        have hpow : (2 : ℚ) ^ (k - 52) ≤ 2 ^ e := zpow_le_zpow_right₀ one_le_two (by omega)
        gcongr

/-- A fraction above the greatest double gives an infinity. -/
theorem ofRatio_of_large (s : Bool) {num den : ℕ} (hden : 0 < den)
    (h : (2 : ℚ) ^ (1025 : ℤ) ≤ num / den) : ofRatio s num den = infinite s := by
  obtain ⟨hnum, hlead⟩ := lt_leading_of_two_zpow_le hden h
  have hexp : maxExponent < roundingExponent num den := by
    unfold roundingExponent maxExponent
    omega
  rw [ofRatio_eq s hnum]
  generalize mantissa num den = m
  by_cases hcarry : m = 2 ^ 53
  · rw [hcarry, pack_carry, if_pos (by omega)]
  · rw [pack_of_ne s hcarry, if_pos hexp]

/-- A fraction of at least one is not rounded to zero. -/
theorem isZero_ofRatio (s : Bool) {num den : ℕ} (hden : 0 < den) (h : den ≤ num) :
    (ofRatio s num den).isZero = false := by
  have hnum : num ≠ 0 := by omega
  obtain ⟨hscale, hratio⟩ := scaleDown_spec num hden (roundingExponent num den)
  have hone : (1 : ℚ) ≤ num / den := by
    rw [le_div_iff₀ (by exact_mod_cast hden), one_mul]
    exact_mod_cast h
  -- The scaled fraction is at least one, so it is not rounded down to zero.
  have hscaled : (2 : ℚ) ^ roundingExponent num den ≤ num / den := by
    unfold roundingExponent
    rcases max_choice (leading num den) minExponent with hmax | hmax <;> rw [hmax]
    · refine le_trans ?_ (leading_spec hnum hden).1
      exact zpow_le_zpow_right₀ one_le_two (by omega)
    · exact le_trans (zpow_le_one_of_nonpos₀ one_le_two (by decide)) hone
  have hround : 1 ≤ mantissa num den := by
    refine le_mantissa hden ?_
    rwa [Nat.cast_one, le_div_iff₀ (by positivity), one_mul]
  rw [ofRatio_eq s hnum]
  generalize mantissa num den = m at hround ⊢
  by_cases hcarry : m = 2 ^ 53
  · rw [hcarry, pack_carry]
    split
    · rfl
    · rfl
  · rw [pack_of_ne s hcarry]
    split
    · rfl
    · exact beq_false_of_ne (by omega)

end FlowPilot.Binary64
