import Dicebox.Proofs.Number.HalfEven

/-!
# Rounding is a function of the number

A ratio is rounded by its numerator and its denominator, and one number is the ratio of many. It
does not matter which (`roundRatio_congr`), so there is the double that is nearest to a number from
zero upwards (`rounded`), and all that is known about ratios can be said of it without them:

> **it keeps the order, leaves doubles as they are, and is off by at most one part in `2 ^ 53`**
> (`rounded_mono`, `rounded_of_magnitude`, `abs_rounded_sub_le`).

Several roundings one after the other are bounded by taking one such step for each of them. What is
not zero is not rounded to zero unless it is among the subnormal numbers (`rounded_eq_zero_iff`),
and the results of an operation have a double as long as they are not above `2 ^ 1023`
(`Double.ofRatio_eq_rounded`).
-/

set_option autoImplicit false

namespace Dicebox.Number

variable {num den num' den' : Nat}

/-! ## One number, many ratios

Two ratios of one number have a common multiple, so it is enough that multiplying numerator and
denominator by the same natural changes nothing. No ratio is ever brought to lowest terms. -/

theorem divHalfEven_mul_right (num den : Nat) {k : Nat} (hk : 0 < k) :
    divHalfEven (num * k) (den * k) = divHalfEven num den := by
  have hless : ∀ a b : Nat, 2 * (a * k) < b * k ↔ 2 * a < b := by
    intro a b
    rw [← Nat.mul_assoc, Nat.mul_lt_mul_right hk]
  have hmore : ∀ a b : Nat, b * k < 2 * (a * k) ↔ b < 2 * a := by
    intro a b
    rw [← Nat.mul_assoc, Nat.mul_lt_mul_right hk]
  simp only [divHalfEven, Nat.mul_div_mul_right _ _ hk, Nat.mul_mod_mul_right, hless, hmore]

theorem roundRatio_mul_right (num : Nat) (hden : den ≠ 0) {k : Nat} (hk : 0 < k) :
    roundRatio (num * k) (den * k) = roundRatio num den := by
  by_cases hnum : num = 0
  · subst hnum
    rw [Nat.zero_mul]
    rfl
  · have hnum' : num * k ≠ 0 := Nat.mul_ne_zero hnum hk.ne'
    have hden' : den * k ≠ 0 := Nat.mul_ne_zero hden hk.ne'
    have hlog : floorLog2 (num * k) (den * k) = floorLog2 num den := by
      rw [floorLog2_eq_log hnum' hden', floorLog2_eq_log hnum hden]
      push_cast
      rw [mul_div_mul_right _ _ (Nat.cast_ne_zero.mpr hk.ne')]
    have hunits : ∀ e, roundInUnits (num * k) (den * k) e = roundInUnits num den e := by
      intro e
      rw [roundInUnits, Nat.mul_right_comm, Nat.mul_right_comm den]
      exact divHalfEven_mul_right _ _ hk
    have hunit : unitExponent (num * k) (den * k) = unitExponent num den := by
      rw [unitExponent, hlog, unitExponent]
    rw [roundRatio, roundRatio, if_neg hnum, if_neg hnum']
    dsimp only
    rw [hunit, hunits]

theorem mul_eq_mul_of_div_eq (hden : den ≠ 0) (hden' : den' ≠ 0)
    (h : (num : ℚ) / den = num' / den') : num * den' = num' * den := by
  have hcross := (div_eq_div_iff (Nat.cast_ne_zero.mpr hden) (Nat.cast_ne_zero.mpr hden')).mp h
  exact_mod_cast hcross

theorem divHalfEven_congr (hden : den ≠ 0) (hden' : den' ≠ 0)
    (h : (num : ℚ) / den = num' / den') : divHalfEven num den = divHalfEven num' den' := by
  rw [← divHalfEven_mul_right num den (Nat.pos_of_ne_zero hden'),
    ← divHalfEven_mul_right num' den' (Nat.pos_of_ne_zero hden),
    mul_eq_mul_of_div_eq hden hden' h, Nat.mul_comm den]

/-- Two ratios of one number are rounded to the same double, mantissa and exponent alike: not only
what they denote is the same, but also how it is written. -/
theorem roundRatio_congr (hden : den ≠ 0) (hden' : den' ≠ 0)
    (h : (num : ℚ) / den = num' / den') : roundRatio num den = roundRatio num' den' := by
  rw [← roundRatio_mul_right num hden (Nat.pos_of_ne_zero hden'),
    ← roundRatio_mul_right num' hden' (Nat.pos_of_ne_zero hden),
    mul_eq_mul_of_div_eq hden hden' h, Nat.mul_comm den]

/-- The larger number is not rounded to the smaller integer.

For doubles it was enough to look at different ratios. Here equal ones are allowed, and they are
just the case that distances do not settle. -/
theorem divHalfEven_mono (hden : den ≠ 0) (hden' : den' ≠ 0)
    (h : (num : ℚ) / den ≤ num' / den') : divHalfEven num den ≤ divHalfEven num' den' := by
  by_contra hlt
  have hstep : (divHalfEven num' den' : ℚ) + 1 ≤ divHalfEven num den := by
    exact_mod_cast Nat.succ_le_of_lt (not_le.mp hlt)
  have hup := (abs_le.mp (abs_divHalfEven_sub_le num (Nat.pos_of_ne_zero hden))).2
  have hdown := (abs_le.mp (abs_divHalfEven_sub_le num' (Nat.pos_of_ne_zero hden'))).1
  -- There is room for the two results only if both ratios are half way between them, and so equal.
  have hsame : (num : ℚ) / den = num' / den' := le_antisymm h (by linarith)
  exact hlt (divHalfEven_congr hden hden' hsame).le

/-! ## The double of a number

What is known about ratios is carried over to the ratio in lowest terms, which a rational number
has. Bounds are doubles themselves: a number below one is not rounded to anything above it. -/

/-- The double nearest to a number from zero upwards, without regard to the largest exponent. -/
def rounded (q : ℚ) : FiniteDouble :=
  let ratio := roundRatio q.num.natAbs q.den
  ⟨false, ratio.1, ratio.2⟩

variable {q q' : ℚ}

theorem natAbs_num_div_den (h : 0 ≤ q) : ((q.num.natAbs : Nat) : ℚ) / q.den = q := by
  have hnum : ((q.num.natAbs : Int) : ℚ) = q.num := by
    rw [Int.natAbs_of_nonneg (Rat.num_nonneg.mpr h)]
  rw [← Int.cast_natCast, hnum, Rat.num_div_den]

theorem rounded_div (num : Nat) (hden : den ≠ 0) :
    rounded (num / den) = ⟨false, (roundRatio num den).1, (roundRatio num den).2⟩ := by
  have hsame := natAbs_num_div_den (q := (num : ℚ) / den) (by positivity)
  rw [rounded, roundRatio_congr (Rat.den_nz _) hden hsame]

theorem rounded_zero : rounded 0 = .zero := rfl

theorem toRat_rounded_zero : (rounded 0).toRat = 0 := by
  have hmantissa : (rounded 0).mantissa = 0 := rfl
  rw [FiniteDouble.toRat_of_nonneg rfl, magnitude, hmantissa, Nat.cast_zero, zero_mul]

theorem toRat_rounded (q : ℚ) : (rounded q).toRat = nearest q.num.natAbs q.den :=
  FiniteDouble.toRat_of_nonneg rfl

theorem toRat_rounded_nonneg (q : ℚ) : 0 ≤ (rounded q).toRat := by
  rw [toRat_rounded]
  exact nearest_nonneg _ _

theorem num_div_den_rounded (q : ℚ) :
    ((rounded q).num : ℚ) / (rounded q).den = (rounded q).toRat := by
  rw [FiniteDouble.num_div_den, FiniteDouble.toRat_of_nonneg rfl]

theorem rounded_mono (h : 0 ≤ q) (hle : q ≤ q') : (rounded q).toRat ≤ (rounded q').toRat := by
  rcases eq_or_lt_of_le hle with rfl | hlt
  · exact le_refl _
  · rw [toRat_rounded, toRat_rounded]
    refine nearest_le_nearest (Rat.den_nz q) (Rat.den_nz q') ?_
    rwa [natAbs_num_div_den h, natAbs_num_div_den (h.trans hle)]

section

variable {m : Nat} {e : Int} (hm : m < 2 ^ precision) (he : minExponent ≤ e)

include hm he

theorem rounded_le_magnitude (h : 0 ≤ q) (hle : q ≤ magnitude m e) :
    (rounded q).toRat ≤ magnitude m e := by
  rw [toRat_rounded]
  refine nearest_le_magnitude (Rat.den_nz q) hm he ?_
  rwa [natAbs_num_div_den h]

theorem magnitude_le_rounded (hle : magnitude m e ≤ q) : magnitude m e ≤ (rounded q).toRat := by
  rw [toRat_rounded]
  refine magnitude_le_nearest (Rat.den_nz q) hm he ?_
  rwa [natAbs_num_div_den ((magnitude_nonneg m e).trans hle)]

theorem rounded_of_magnitude (h : q = magnitude m e) : (rounded q).toRat = q := by
  have hq : 0 ≤ q := h ▸ magnitude_nonneg m e
  exact le_antisymm ((rounded_le_magnitude hm he hq h.le).trans h.ge)
    (h.le.trans (magnitude_le_rounded hm he h.ge))

end

theorem rounded_natCast {n : Nat} (hn : n < 2 ^ precision) : (rounded n).toRat = n :=
  rounded_of_magnitude hn (by decide) (magnitude_natCast n).symm

theorem rounded_le_natCast {n : Nat} (hn : n < 2 ^ precision) (h : 0 ≤ q) (hle : q ≤ n) :
    (rounded q).toRat ≤ n := by
  rw [← magnitude_natCast] at hle ⊢
  exact rounded_le_magnitude hn (by decide) h hle

theorem rounded_le_two_zpow {e : Int} (he : minExponent ≤ e) (h : 0 ≤ q) (hle : q ≤ 2 ^ e) :
    (rounded q).toRat ≤ 2 ^ e := by
  rw [← magnitude_one] at hle ⊢
  exact rounded_le_magnitude (by decide) he h hle

theorem two_zpow_le_rounded {e : Int} (he : minExponent ≤ e) (hle : 2 ^ e ≤ q) :
    2 ^ e ≤ (rounded q).toRat := by
  rw [← magnitude_one] at hle ⊢
  exact magnitude_le_rounded (by decide) he hle

/-- Rounding moves a number by at most one part in `2 ^ 53` of a power of two above it.

The bound depends on the power and not on the number, so that it may be used where nothing is known
about the number but that it is not above the power. -/
theorem abs_rounded_sub_le {b : Int} (hb : minExponent + 52 ≤ b) (h : 0 ≤ q) (hle : q ≤ 2 ^ b) :
    |(rounded q).toRat - q| ≤ 2 ^ (b - 53) := by
  rcases eq_or_lt_of_le h with rfl | hpos
  · rw [toRat_rounded_zero, sub_zero, abs_zero]
    exact (two_zpow_pos _).le
  · have hnum : q.num.natAbs ≠ 0 := Int.natAbs_ne_zero.mpr (Rat.num_ne_zero.mpr hpos.ne')
    have hround := abs_nearest_sub_le hnum (Rat.den_nz q)
    rw [← toRat_rounded, natAbs_num_div_den h] at hround
    -- The binade of the number ends at the power or below it, and so does its unit.
    have hunit : unitExponent q.num.natAbs q.den + 52 ≤ b := by
      rcases Int.lt_or_le minExponent (unitExponent q.num.natAbs q.den) with hnormal | hleast
      · have hlow := two_zpow_le_ratio hnum (Rat.den_nz q) hnormal
        rw [natAbs_num_div_den h] at hlow
        exact (zpow_le_zpow_iff_right₀ one_lt_two).mp (hlow.trans hle)
      · omega
    calc |(rounded q).toRat - q| ≤ 2 ^ unitExponent q.num.natAbs q.den / 2 := hround
      _ = 2 ^ (unitExponent q.num.natAbs q.den - 1) := by
          rw [zpow_sub_one₀ two_ne_zero, div_eq_mul_inv]
      _ ≤ 2 ^ (b - 53) := zpow_le_zpow_right₀ one_le_two (by omega)

theorem isRounded_rounded (h : q = 0 ∨ (2 : ℚ) ^ (-1021 : Int) ≤ q) : IsRounded q (rounded q) := by
  have hq : 0 ≤ q := by
    rcases h with rfl | h
    · exact le_refl 0
    · exact (two_zpow_pos _).le.trans h
  have hround := @isRounded_roundRatio q.num.natAbs q.den (Rat.den_nz q) ?_
  · rwa [natAbs_num_div_den hq] at hround
  · rcases h with rfl | h
    · exact Or.inl rfl
    · have hnum : q.num.natAbs ≠ 0 :=
        Int.natAbs_ne_zero.mpr (Rat.num_ne_zero.mpr ((two_zpow_pos _).trans_le h).ne')
      refine Or.inr (minExponent_lt_unitExponent hnum (Rat.den_nz q) ?_)
      rwa [natAbs_num_div_den hq]

theorem rounded_eq_zero_iff (h : q = 0 ∨ (2 : ℚ) ^ (-1021 : Int) ≤ q) :
    (rounded q).toRat = 0 ↔ q = 0 := by
  constructor
  · intro hzero
    refine h.resolve_right fun hlow => ?_
    exact absurd (two_zpow_le_rounded (by decide) hlow) (hzero ▸ not_le.mpr (two_zpow_pos _))
  · rintro rfl
    exact toRat_rounded_zero

/-! ## What an operation comes to -/

theorem exponent_roundRatio_le_of_le (num : Nat) (hden : den ≠ 0)
    (h : (num : ℚ) / den ≤ 2 ^ (1023 : Int)) : (roundRatio num den).2 ≤ maxExponent := by
  have hlargest : IsCanonical (2 ^ 52) 971 := ⟨by decide, by decide, fun _ => Nat.le_refl _⟩
  have hpower : magnitude (2 ^ 52) 971 = 2 ^ (1023 : Int) := by
    rw [magnitude, Nat.cast_pow, Nat.cast_ofNat, ← zpow_natCast, ← zpow_add₀ two_ne_zero]
    rfl
  refine (isCanonical_roundRatio num hden).exponent_le hlargest ?_
  exact nearest_le_magnitude hden hlargest.lt hlargest.le (h.trans hpower.ge)

/-- An operation comes to the double of its exact result.

The bound is not the best one, which would be half a unit above the largest double. But a power of
two is easily compared with, and no operation on dice comes near it. -/
theorem Double.ofRatio_eq_rounded (negative : Bool) (num : Nat) (hden : den ≠ 0)
    (h : (num : ℚ) / den ≤ 2 ^ (1023 : Int)) :
    Double.ofRatio negative num den = .finite { rounded (num / den) with negative } := by
  rw [rounded_div num hden]
  exact Double.ofRatio_eq_finite_iff.mpr ⟨exponent_roundRatio_le_of_le num hden h, rfl⟩

end Dicebox.Number
