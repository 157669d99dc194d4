import Dicebox.Proofs.Number.Rounded

/-!
# An operation is its exact result, rounded

Doubles are added, multiplied and divided as ratios of naturals, with the sign aside. What that
comes to is the same for all of them:

> **the double nearest to what the operation would give on the numbers themselves**

(`Double.sub_eq_rounded`, `Double.mul_eq_rounded`, `Double.div_eq_rounded`), unless that is above
`2 ^ 1023`. A difference may be negative, so it is rounded by its magnitude, and gets its sign back
afterwards (`roundedSigned`). Rounding does not see signs, so this is the nearest double again
(`isRounded_roundedSigned`).
-/

set_option autoImplicit false

namespace Dicebox.Number

variable {x y : FiniteDouble} {q : ℚ}

/-! ## Signs

The ratios that are rounded have no sign, but differences do. Taking the opposite of every number
leaves distances and mantissas as they are, so what holds of rounding above zero holds below. -/

namespace FiniteDouble

theorem signedNum_div_den (x : FiniteDouble) : (x.signedNum : ℚ) / x.den = x.toRat := by
  rw [toRat, Rat.mkRat_eq_div]

theorem num_div_den_of_nonneg (h : x.negative = false) : (x.num : ℚ) / x.den = x.toRat := by
  rw [num_div_den, toRat_of_nonneg h]

theorem toRat_neg (x : FiniteDouble) : x.neg.toRat = -x.toRat := by
  rw [toRat_eq, toRat_eq, neg]
  cases x.negative <;> simp

theorem neg_neg (x : FiniteDouble) : x.neg.neg = x := by
  simp [neg]

end FiniteDouble

theorem IsRounded.neg (h : IsRounded q x) : IsRounded (-q) x.neg := by
  have hdistance : ∀ y : FiniteDouble, |y.toRat - -q| = |y.neg.toRat - q| := by
    intro y
    rw [y.toRat_neg, ← abs_neg]
    congr 1
    ring
  -- Another candidate for the opposite number is the opposite of one for the number itself.
  refine ⟨h.bits, fun y hy => ?_, fun y hy hne htie => ?_⟩
  · rw [hdistance, hdistance, x.neg_neg]
    exact h.nearest y.neg hy
  · rw [hdistance, hdistance, x.neg_neg] at htie
    refine h.even y.neg hy (fun hsame => hne ?_) htie
    rw [x.toRat_neg, ← hsame, y.toRat_neg, neg_neg]

/-- The double nearest to a number of either sign, without regard to the largest exponent. -/
def roundedSigned (q : ℚ) : FiniteDouble := { rounded |q| with negative := decide (q < 0) }

theorem isRounded_roundedSigned (h : q = 0 ∨ (2 : ℚ) ^ (-1021 : Int) ≤ |q|) :
    IsRounded q (roundedSigned q) := by
  have hround := isRounded_rounded (h.imp_left abs_eq_zero.mpr)
  rcases lt_or_ge q 0 with hneg | hpos
  · have hsame : -|q| = q := by rw [abs_of_neg hneg, neg_neg]
    have hround' := hround.neg
    rw [hsame] at hround'
    rw [roundedSigned, decide_eq_true hneg]
    exact hround'
  · rw [abs_of_nonneg hpos] at hround
    rw [roundedSigned, decide_eq_false (not_lt.mpr hpos), abs_of_nonneg hpos]
    exact hround

theorem abs_toRat_roundedSigned (q : ℚ) : |(roundedSigned q).toRat| = (rounded |q|).toRat := by
  rw [FiniteDouble.abs_toRat, FiniteDouble.toRat_of_nonneg rfl]
  rfl

namespace Double

/-! ## The operations -/

/-- The difference of two doubles is their exact difference, rounded.

The sign is told by the exact difference. Where that is zero, the sign would be a matter of its own;
but with a first number that is not negative it is never the negative zero. -/
theorem sub_eq_rounded (hx : x.negative = false)
    (h : |x.toRat - y.toRat| ≤ 2 ^ (1023 : Int)) :
    (Double.finite x).sub (.finite y) = .finite (roundedSigned (x.toRat - y.toRat)) := by
  -- The difference is the sum with the opposite, over the product of the denominators.
  let sum : Int := x.signedNum * y.neg.den + y.neg.signedNum * x.den
  have hden : x.den * y.neg.den ≠ 0 := (Nat.mul_pos x.den_pos y.neg.den_pos).ne'
  have hxden : (x.den : ℚ) ≠ 0 := Nat.cast_ne_zero.mpr x.den_pos.ne'
  have hyden : (y.neg.den : ℚ) ≠ 0 := Nat.cast_ne_zero.mpr y.neg.den_pos.ne'
  have hsum : (sum : ℚ) / (x.den * y.neg.den : Nat) = x.toRat - y.toRat := by
    rw [sub_eq_add_neg, ← y.toRat_neg, ← x.signedNum_div_den, ← y.neg.signedNum_div_den,
      div_add_div _ _ hxden hyden]
    push_cast [sum]
    ring
  have hratio : (sum.natAbs : ℚ) / (x.den * y.neg.den : Nat) = |x.toRat - y.toRat| := by
    rw [← hsum, abs_div, Nat.abs_cast, Nat.cast_natAbs, Int.cast_abs]
  have hsign : (if sum = 0 then x.negative && y.neg.negative else decide (sum < 0)) =
      decide (x.toRat - y.toRat < 0) := by
    have hless : sum < 0 ↔ x.toRat - y.toRat < 0 := by
      rw [← hsum, div_lt_iff₀ (Nat.cast_pos.mpr (Nat.pos_of_ne_zero hden)), zero_mul]
      exact Int.cast_lt_zero.symm
    split
    · next hzero =>
      rw [hx, Bool.false_and, decide_eq_false fun hneg => hzero.not_lt (hless.mpr hneg)]
    · exact decide_eq_decide.mpr hless
  have hround := ofRatio_eq_rounded (decide (x.toRat - y.toRat < 0)) sum.natAbs hden
    (hratio.trans_le h)
  rw [hratio] at hround
  show ofRatio (if sum = 0 then _ else _) sum.natAbs (x.den * y.neg.den) = _
  rw [hsign, hround]
  rfl

theorem abs_finite_roundedSigned (q : ℚ) :
    (Double.finite (roundedSigned q)).abs = .finite (rounded |q|) := rfl

theorem mul_eq_rounded (hx : x.negative = false) (hy : y.negative = false)
    (h : x.toRat * y.toRat ≤ 2 ^ (1023 : Int)) :
    (Double.finite x).mul (.finite y) = .finite (rounded (x.toRat * y.toRat)) := by
  have hden : x.den * y.den ≠ 0 := (Nat.mul_pos x.den_pos y.den_pos).ne'
  have hratio : ((x.num * y.num : Nat) : ℚ) / (x.den * y.den : Nat) = x.toRat * y.toRat := by
    rw [← FiniteDouble.num_div_den_of_nonneg hx, ← FiniteDouble.num_div_den_of_nonneg hy,
      div_mul_div_comm]
    push_cast
    rfl
  have hround := ofRatio_eq_rounded false (x.num * y.num) hden (hratio.trans_le h)
  rw [hratio] at hround
  rw [mul, mulFinite, hx, hy]
  exact hround

theorem div_eq_rounded (hx : x.negative = false) (hy : y.negative = false) (hpos : 0 < y.toRat)
    (h : x.toRat / y.toRat ≤ 2 ^ (1023 : Int)) :
    (Double.finite x).div (.finite y) = .finite (rounded (x.toRat / y.toRat)) := by
  have hnum : y.num ≠ 0 := by
    intro hzero
    rw [← FiniteDouble.num_div_den_of_nonneg hy, hzero, Nat.cast_zero, zero_div] at hpos
    exact lt_irrefl 0 hpos
  have hden : x.den * y.num ≠ 0 := Nat.mul_ne_zero x.den_pos.ne' hnum
  have hratio : ((x.num * y.den : Nat) : ℚ) / (x.den * y.num : Nat) = x.toRat / y.toRat := by
    rw [← FiniteDouble.num_div_den_of_nonneg hx, ← FiniteDouble.num_div_den_of_nonneg hy,
      div_div_div_eq]
    push_cast
    rfl
  have hround := ofRatio_eq_rounded false (x.num * y.den) hden (hratio.trans_le h)
  rw [hratio] at hround
  rw [div, divFinite, hx, hy]
  exact hround

/-! ## In order -/

theorem lt_finite : (Double.finite x).lt (.finite y) = true ↔ x.toRat < y.toRat := by
  have hx : (0 : ℚ) < x.den := Nat.cast_pos.mpr x.den_pos
  have hy : (0 : ℚ) < y.den := Nat.cast_pos.mpr y.den_pos
  rw [lt, order?, beq_iff_eq, Option.some.injEq, Int.compare_eq_lt, ← x.signedNum_div_den,
    ← y.signedNum_div_den, div_lt_div_iff₀ hx hy]
  exact_mod_cast Iff.rfl

end Double

end Dicebox.Number
