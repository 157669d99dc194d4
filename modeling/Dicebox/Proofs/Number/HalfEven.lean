import Mathlib.Algebra.Group.Even
import Dicebox.Proofs.Number.Order

/-!
# On a half to the even mantissa

A ratio may be half way between two doubles, and then it is not enough to know that rounding goes to
a nearest one. `IsRounded` is the whole of what rounding to 53 significant bits has to do:

> **no number of 53 bits is nearer, and if another one is as near, then the mantissa is even.**

The bits are counted from the first one that is not zero, and there is no smallest exponent, which
is why a ratio among the subnormal numbers is not rounded in this sense. Everything that dice come
to is far above them: `isRounded_roundRatio` asks for a ratio that is zero or not too small, and
`minExponent_lt_unitExponent` says what is not too small.
-/

set_option autoImplicit false

namespace Dicebox.Number

/-- What a number is when it is rounded to 53 significant bits, the nearest one, and on a half the
even one. -/
structure IsRounded (q : ℚ) (x : FiniteDouble) : Prop where
  bits : x.mantissa = 0 ∨ 2 ^ (precision - 1) ≤ x.mantissa ∧ x.mantissa < 2 ^ precision
  nearest (y : FiniteDouble) : y.mantissa < 2 ^ precision → |x.toRat - q| ≤ |y.toRat - q|
  even (y : FiniteDouble) : y.mantissa < 2 ^ precision → y.toRat ≠ x.toRat →
    |y.toRat - q| = |x.toRat - q| → Even x.mantissa

/-! ## Halves

The rounding of naturals settles a half by the remainder and the parity of the quotient. What has to
be shown is that no other way of being half way exists: a tie between two numbers of units is a half
of the unit, and one between numbers in different binades is such a tie too. -/

theorem even_divHalfEven {num den : Nat} (hden : 0 < den)
    (h : |(divHalfEven num den : ℚ) - num / den| = 1 / 2) : Even (divHalfEven num den) := by
  have hd : (den : ℚ) ≠ 0 := (Nat.cast_pos.mpr hden).ne'
  -- In terms of the remainder of the division, a half is a half of the divisor.
  have hhalf : 2 * (num % den) = den := by
    have hmod := Nat.div_add_mod num den
    have hlt := Nat.mod_lt num hden
    have hcross : 2 * (den * divHalfEven num den) = 2 * num + den ∨
        2 * num = 2 * (den * divHalfEven num den) + den := by
      rcases (abs_eq (by norm_num)).mp h with hup | hdown
      · left
        have : (2 * (den * divHalfEven num den) : ℚ) = 2 * num + den := by
          field_simp at hup
          linarith
        exact_mod_cast this
      · right
        have : (2 * num : ℚ) = 2 * (den * divHalfEven num den) + den := by
          field_simp at hdown
          linarith
        exact_mod_cast this
    rw [divHalfEven] at hcross
    split at hcross
    · omega
    · split at hcross
      · rw [Nat.mul_add, Nat.mul_one] at hcross
        omega
      · omega
  rw [divHalfEven, if_neg (by omega), if_neg (by omega)]
  split
  · next heven => exact Nat.even_iff.mpr heven
  · next hodd => exact Nat.even_iff.mpr (by omega)

variable {num den : Nat}

/-- If another number of units is as near as the one that a ratio is rounded to, then the latter is
even.

Two numbers of units are one unit apart at least, and neither is farther from the ratio than half a
unit, so the ratio stands in the middle and it is a matter of `even_divHalfEven`. -/
theorem even_roundInUnits (num : Nat) (hden : 0 < den) {e k : Int}
    (hne : k ≠ roundInUnits num den e)
    (htie : |(k : ℚ) * 2 ^ e - num / den| = |magnitude (roundInUnits num den e) e - num / den|) :
    Even (roundInUnits num den e) := by
  have hpos := two_zpow_pos e
  have hscale : ∀ x : ℚ, |x * 2 ^ e - num / den| = |x - num / den / 2 ^ e| * 2 ^ e := by
    intro x
    rw [← abs_of_pos hpos, ← abs_mul, abs_of_pos hpos, sub_mul, div_mul_cancel₀ _ hpos.ne']
  rw [magnitude, hscale, hscale] at htie
  have hsame := mul_right_cancel₀ hpos.ne' htie
  have hle := abs_roundInUnits_sub_le num hden e
  have hone : (1 : ℚ) ≤ |(k : ℚ) - roundInUnits num den e| := by
    exact_mod_cast Int.one_le_abs (sub_ne_zero.mpr hne)
  have htri : |(k : ℚ) - roundInUnits num den e| ≤
      |(k : ℚ) - num / den / 2 ^ e| + |(roundInUnits num den e : ℚ) - num / den / 2 ^ e| := by
    rw [abs_sub_comm (roundInUnits num den e : ℚ)]
    exact abs_sub_le _ _ _
  have hhalf : |(roundInUnits num den e : ℚ) - num / den / 2 ^ e| = 1 / 2 := by linarith
  have hratio : (num : ℚ) / den / 2 ^ e =
      ((num * 2 ^ (-e).toNat : Nat) : ℚ) / ((den * 2 ^ e.toNat : Nat) : ℚ) := by
    rw [two_zpow_eq e]
    push_cast
    field_simp
  rw [hratio] at hhalf
  exact even_divHalfEven (Nat.mul_pos hden (Nat.two_pow_pos _)) hhalf

/-- A carry into the next binade leaves an even mantissa, and otherwise the mantissa is what was
rounded to. -/
theorem even_roundRatio (hnum : num ≠ 0)
    (h : Even (roundInUnits num den (unitExponent num den))) : Even (roundRatio num den).1 := by
  simp only [roundRatio, if_neg hnum]
  split
  · show Even (2 ^ (precision - 1))
    decide
  · exact h

/-- If another number of 53 bits is as near to a ratio as what it is rounded to, then the mantissa
is even.

The other number may have any exponent, so it need not be a number of the units that the ratio is
rounded in. But one from a finer binade lies below the whole binade of the ratio, and to be as near
it can only be the very edge. -/
theorem even_of_tie (hnum : num ≠ 0) (hden : den ≠ 0)
    (hnormal : minExponent < unitExponent num den) {m : Nat} {e : Int} (hm : m < 2 ^ precision)
    (hne : magnitude m e ≠ nearest num den)
    (htie : |magnitude m e - num / den| = |nearest num den - num / den|) :
    Even (roundRatio num den).1 := by
  have hpos := Nat.pos_of_ne_zero hden
  -- The other number is a whole number of units: if it is finer, it is where the binade begins.
  obtain ⟨k, hk⟩ : ∃ k : Int, (k : ℚ) * 2 ^ unitExponent num den = magnitude m e := by
    rcases Int.lt_or_le e (unitExponent num den) with hlt | hle
    · refine ⟨2 ^ 52, ?_⟩
      have hlow := two_zpow_le_ratio hnum hden hnormal
      have hbelow := magnitude_le_of_lt hm hlt
      have hunits := abs_magnitude_roundInUnits_sub_le_units num hpos (unitExponent num den)
        (2 ^ 52)
      rw [← nearest_eq hnum, ← htie, units_at_edge, abs_of_nonpos (by linarith),
        abs_of_nonpos (by linarith)] at hunits
      rw [units_at_edge]
      linarith
    · exact exists_units_of_le m hle
  rw [nearest_eq hnum, ← hk] at htie hne
  refine even_roundRatio hnum (even_roundInUnits num hpos (fun hkr => hne ?_) htie)
  rw [hkr, magnitude, Int.cast_natCast]

/-! ## Ratios

The sign comes in last. A number below zero could only be as near as the rounded one if its absolute
value were, and then it would not be below zero. -/

theorem minExponent_lt_unitExponent (hnum : num ≠ 0) (hden : den ≠ 0)
    (h : (2 : ℚ) ^ (-1021 : Int) ≤ num / den) : minExponent < unitExponent num den := by
  have hq : (0 : ℚ) < (num : ℚ) / den := by positivity
  have hlog : -1021 ≤ Int.log 2 ((num : ℚ) / den) :=
    (Int.zpow_le_iff_le_log (by decide) hq).mp (by rw [Nat.cast_ofNat]; exact h)
  rw [← floorLog2_eq_log hnum hden] at hlog
  simp only [unitExponent, precision, minExponent]
  omega

/-- What is as far from a positive number as its magnitude is, is not negative. -/
theorem eq_abs_of_abs_sub_eq {q y : ℚ} (hq : 0 < q) (h : |y - q| = |(|y|) - q|) : y = |y| := by
  have hsquares : (y - q) ^ 2 = (|y| - q) ^ 2 := sq_eq_sq_iff_abs_eq_abs _ _ |>.mpr h
  have hsame : q * y = q * |y| := by
    have hy := sq_abs y
    linarith
  exact mul_left_cancel₀ hq.ne' hsame

/-- A ratio is rounded to 53 bits, unless it is among the subnormal numbers, where fewer bits are
kept and another number of 53 bits may well be nearer. -/
theorem isRounded_roundRatio (hden : den ≠ 0)
    (h : num = 0 ∨ minExponent < unitExponent num den) :
    IsRounded ((num : ℚ) / den) ⟨false, (roundRatio num den).1, (roundRatio num den).2⟩ := by
  have hx : FiniteDouble.toRat ⟨false, (roundRatio num den).1, (roundRatio num den).2⟩ =
      nearest num den := FiniteDouble.toRat_of_nonneg rfl
  by_cases hnum : num = 0
  · subst hnum
    have hzero : (roundRatio 0 den).1 = 0 := rfl
    rw [nearest_zero] at hx
    refine ⟨Or.inl hzero, fun y _ => ?_, fun y _ _ _ => ?_⟩
    · rw [hx, Nat.cast_zero, zero_div, sub_zero, abs_zero]
      exact abs_nonneg _
    · dsimp only
      rw [hzero]
      exact Even.zero
  · have hnormal := h.resolve_left hnum
    have hq : (0 : ℚ) < (num : ℚ) / den := by positivity
    have hcanon := isCanonical_roundRatio num hden
    -- A number below zero is farther away than the one with the other sign.
    have hsign : ∀ y : FiniteDouble,
        |magnitude y.mantissa y.exponent - num / den| ≤ |y.toRat - num / den| := by
      intro y
      rw [← y.abs_toRat]
      have := abs_abs_sub_abs_le y.toRat ((num : ℚ) / den)
      rwa [abs_of_pos hq] at this
    have hbits : ∀ y : FiniteDouble, y.mantissa < 2 ^ precision →
        |nearest num den - num / den| ≤ |magnitude y.mantissa y.exponent - num / den| :=
      fun y hy => abs_nearest_sub_le_of_bits hnum hden hy (Or.inr hnormal)
    refine ⟨Or.inr ⟨hcanon.normal ?_, hcanon.lt⟩, fun y hy => ?_, fun y hy hne htie => ?_⟩
    · simp only [roundRatio, if_neg hnum]
      split
      · exact Int.lt_add_one_of_le hnormal.le
      · exact hnormal
    · rw [hx]
      exact le_trans (hbits y hy) (hsign y)
    · rw [hx] at hne htie
      have hmagnitude : |magnitude y.mantissa y.exponent - num / den| =
          |nearest num den - num / den| :=
        le_antisymm (le_trans (hsign y) htie.le) (hbits y hy)
      refine even_of_tie hnum hden hnormal hy (fun hsame => hne ?_) hmagnitude
      rw [← hsame, ← y.abs_toRat] at htie ⊢
      exact eq_abs_of_abs_sub_eq hq htie

end Dicebox.Number
