import Dicebox.Proofs.Number.Order
import Dicebox.Throw.Roll

/-!
# The range of a face

A die with `n` sides shows `⌊r · n⌋ + 1` on a draw `r` below one, so it shows at most `n`: that is
the argument over the reals, and it does not apply. The product is rounded, and may be rounded up to
the next integer; and beyond `2 ^ 53` the side count itself is, possibly upwards, before anything is
multiplied. The statement is true nevertheless,

> **on a draw from zero to below one, a die shows one of its sides** (`exists_face`),

and the proof has one step for each rounding.

* A draw below one is below by at least `2 ^ (-53)`, so the exact product misses the rounded side
  count `x` by `x · 2 ^ (-53)`. That is more than the half unit by which the product can be moved
  (`nearest_lt_of_le`): the rounded product is still below `x`.
* Where `x` is not above the side count, this is all. Where it is, no double lies between the two,
  for rounding would have gone there; and the rounded product is a double.
-/

set_option autoImplicit false

namespace Dicebox

open Number

/-- A draw that is at least zero and below one, whatever its grain. -/
def Draw.InUnit (d : Draw) : Prop :=
  ∃ x : FiniteDouble, d.value = .finite x ∧ x.mantissa < 2 ^ precision ∧ 0 ≤ x.toRat ∧ x.toRat < 1

namespace Number

/-! ## Doubles made of ratios

A number of sides is made a double before it is multiplied. If there is no such double there is no
face, so all that follows may take it for granted. -/

theorem Double.ofInt?_natCast {n : Nat} {x : FiniteDouble} (h : Double.ofInt? n = some x) :
    x = ⟨false, (roundRatio n 1).1, (roundRatio n 1).2⟩ ∧ x.exponent ≤ maxExponent := by
  rw [Double.ofInt?_eq] at h
  obtain ⟨hle, rfl⟩ := Double.ofRatio_eq_finite_iff.mp (Double.eq_finite_of_finite? h)
  exact ⟨rfl, hle⟩

/-! ## The two roundings

Both are roundings of ratios to the nearest double, so it would be no help to treat them as one. The
first makes the number of sides a double `x`, and the second takes the product with a draw. -/

theorem one_le_nearest {n : Nat} (hn : 0 < n) : 1 ≤ nearest n 1 := by
  have hone : magnitude 1 0 = 1 := by simp [magnitude]
  rw [← hone]
  refine magnitude_le_nearest one_ne_zero (by decide) (by decide) ?_
  rw [hone, Nat.cast_one, div_one]
  exact_mod_cast hn

/-- A ratio that misses a number by so much is still below it once it has been rounded.

Rounding moves it by half a unit at most. That is `2 ^ -53` times the power of two at which the
binade of the ratio begins, and this power is below the number. -/
theorem nearest_lt_of_le {num den : Nat} (hden : den ≠ 0) {x : ℚ} (hx : 1 ≤ x)
    (h : (num : ℚ) / den ≤ x - x * 2 ^ (-53 : Int)) : nearest num den < x := by
  by_cases hnum : num = 0
  · rw [hnum, nearest_zero]
    linarith
  · have hround := (abs_le.mp (abs_nearest_sub_le hnum hden)).2
    have hhalf : (2 : ℚ) ^ unitExponent num den / 2 < x * 2 ^ (-53 : Int) := by
      have hpred : (2 : ℚ) ^ unitExponent num den / 2 = 2 ^ (unitExponent num den - 1) := by
        rw [zpow_sub_one₀ two_ne_zero, div_eq_mul_inv]
      rw [hpred]
      rcases Int.lt_or_le minExponent (unitExponent num den) with hnormal | hleast
      · have hlow := two_zpow_le_ratio hnum hden hnormal
        have hpos : (0 : ℚ) < x * 2 ^ (-53 : Int) := by positivity
        calc (2 : ℚ) ^ (unitExponent num den - 1)
            = 2 ^ (unitExponent num den + 52) * 2 ^ (-53 : Int) := by
              rw [← zpow_add₀ two_ne_zero]; congr 1; ring
          _ < x * 2 ^ (-53 : Int) :=
              mul_lt_mul_of_pos_right (by linarith) (two_zpow_pos _)
      · calc (2 : ℚ) ^ (unitExponent num den - 1)
            < 2 ^ (-53 : Int) := by
              refine zpow_lt_zpow_right₀ one_lt_two ?_
              have : minExponent = -1074 := rfl
              omega
          _ ≤ x * 2 ^ (-53 : Int) := le_mul_of_one_le_left (two_zpow_pos _).le hx
    linarith

theorem magnitude_le_of_lt_one {m : Nat} {e : Int} (hm : m < 2 ^ precision)
    (h : magnitude m e < 1) : magnitude m e ≤ 1 - 2 ^ (-53 : Int) := by
  -- Very fine doubles are below one half; otherwise one is a whole number of units away at least.
  rcases Int.lt_or_le e (-53) with hlow | hhigh
  · have hm' : (m : ℚ) ≤ 2 ^ (53 : Int) := by exact_mod_cast hm.le
    have hhalf : magnitude m e ≤ 2 ^ (-1 : Int) := by
      calc magnitude m e ≤ 2 ^ (53 : Int) * 2 ^ e :=
            mul_le_mul_of_nonneg_right hm' (two_zpow_pos e).le
        _ = 2 ^ (e + 53) := by rw [← zpow_add₀ two_ne_zero, add_comm]
        _ ≤ 2 ^ (-1 : Int) := zpow_le_zpow_right₀ one_le_two (by omega)
    refine le_trans hhalf ?_
    norm_num
  · rcases Int.lt_or_le e 0 with hneg | hpos
    · -- In units of `2 ^ e` both one and the magnitude are whole numbers.
      have hunit : (2 : ℚ) ^ (-e).toNat * 2 ^ e = 1 := by
        rw [← zpow_natCast, ← zpow_add₀ two_ne_zero]
        have hcancel : ((-e).toNat : Int) + e = 0 := by omega
        rw [hcancel, zpow_zero]
      have hlt : m < 2 ^ (-e).toNat := by
        have hlt' : (m : ℚ) * 2 ^ e < 2 ^ (-e).toNat * 2 ^ e := by rw [hunit]; exact h
        exact_mod_cast lt_of_mul_lt_mul_right hlt' (two_zpow_pos e).le
      have hsucc : (m : ℚ) + 1 ≤ 2 ^ (-e).toNat := by exact_mod_cast hlt
      have hstep : magnitude m e + 2 ^ e ≤ 1 := by
        calc magnitude m e + 2 ^ e = ((m : ℚ) + 1) * 2 ^ e := by rw [magnitude]; ring
          _ ≤ 2 ^ (-e).toNat * 2 ^ e := mul_le_mul_of_nonneg_right hsucc (two_zpow_pos e).le
          _ = 1 := hunit
      have hgrain : (2 : ℚ) ^ (-53 : Int) ≤ 2 ^ e := zpow_le_zpow_right₀ one_le_two hhigh
      linarith
    · have hone : (1 : ℚ) ≤ 2 ^ e := one_le_zpow₀ one_le_two hpos
      have hzero : m = 0 := by
        by_contra hne
        have hm' : (1 : ℚ) ≤ m := by exact_mod_cast Nat.pos_of_ne_zero hne
        have : (1 : ℚ) ≤ magnitude m e := one_le_mul_of_one_le_of_one_le hm' hone
        linarith
      rw [hzero, magnitude, Nat.cast_zero, zero_mul]
      norm_num

end Number

/-! ## The face

The integer part of the product is at least zero and below the number of sides, and the face is the
next integer. The number of sides is meant as it was given, and not as it was rounded. -/

/-- The rounded product of a draw and a rounded side count is below the side count. -/
theorem nearest_product_lt {sides : Nat} {r x : FiniteDouble} (hs : 0 < sides)
    (hx : Double.ofInt? sides = some x) (hm : r.mantissa < 2 ^ precision)
    (hr : magnitude r.mantissa r.exponent < 1) :
    nearest (r.num * x.num) (r.den * x.den) < x.toRat ∧
    nearest (r.num * x.num) (r.den * x.den) < sides := by
  obtain ⟨hxeq, -⟩ := Double.ofInt?_natCast hx
  have hxneg : x.negative = false := by rw [hxeq]
  have hxr : x.toRat = nearest sides 1 := by
    rw [FiniteDouble.toRat_of_nonneg hxneg, hxeq]
    rfl
  have hden : r.den * x.den ≠ 0 := (Nat.mul_pos r.den_pos x.den_pos).ne'
  have hone := one_le_nearest hs
  have hratio : ((r.num * x.num : Nat) : ℚ) / ((r.den * x.den : Nat) : ℚ) =
      magnitude r.mantissa r.exponent * nearest sides 1 := by
    rw [← hxr, FiniteDouble.toRat_of_nonneg hxneg, ← r.num_div_den, ← x.num_div_den]
    push_cast
    rw [mul_div_mul_comm]
  have hbelow : nearest (r.num * x.num) (r.den * x.den) < nearest sides 1 := by
    refine nearest_lt_of_le hden hone ?_
    rw [hratio]
    have := mul_le_mul_of_nonneg_right (magnitude_le_of_lt_one hm hr)
      (nearest_nonneg sides 1)
    linarith
  refine ⟨by rw [hxr]; exact hbelow, ?_⟩
  by_contra hge
  -- The product is a double from the side count upwards, so the side count was rounded no higher.
  have hcanon := isCanonical_roundRatio (r.num * x.num) hden
  have hup : nearest sides 1 ≤ nearest (r.num * x.num) (r.den * x.den) := by
    refine nearest_le_magnitude one_ne_zero hcanon.lt hcanon.le ?_
    rw [Nat.cast_one, div_one]
    exact not_lt.mp hge
  exact absurd hbelow (not_lt.mpr hup)

theorem num_eq_zero_of_negative {r : FiniteDouble} (hneg : r.negative = true) (h : 0 ≤ r.toRat) :
    r.num = 0 := by
  rw [r.toRat_eq, hneg, if_pos rfl, ← r.num_div_den] at h
  have hd : (0 : ℚ) < r.den := Nat.cast_pos.mpr r.den_pos
  have hle : (r.num : ℚ) / r.den ≤ 0 := by linarith
  have hnum : (r.num : ℚ) ≤ 0 := by rwa [div_le_iff₀ hd, zero_mul] at hle
  exact Nat.le_zero.mp (by exact_mod_cast hnum)

/-- The product of a draw and a rounded side count is a finite double, and not a negative one. -/
theorem exists_product {sides : Nat} {r x : FiniteDouble} (hs : 0 < sides)
    (hx : Double.ofInt? sides = some x) (hm : r.mantissa < 2 ^ precision) (hzero : 0 ≤ r.toRat)
    (hone : r.toRat < 1) :
    ∃ p : FiniteDouble, Double.mulFinite r x = .finite p ∧ 0 ≤ p.toRat ∧ p.toRat < sides := by
  have habs := r.abs_toRat
  rw [abs_of_nonneg hzero] at habs
  obtain ⟨hltx, hlts⟩ := nearest_product_lt hs hx hm (habs ▸ hone)
  have hden : r.den * x.den ≠ 0 := (Nat.mul_pos r.den_pos x.den_pos).ne'
  obtain ⟨hxeq, hxmax⟩ := Double.ofInt?_natCast hx
  have hxneg : x.negative = false := by rw [hxeq]
  have hxcanon : IsCanonical x.mantissa x.exponent := by
    rw [hxeq]
    exact isCanonical_roundRatio sides one_ne_zero
  have hmax : (roundRatio (r.num * x.num) (r.den * x.den)).2 ≤ maxExponent := by
    rw [FiniteDouble.toRat_of_nonneg hxneg] at hltx
    exact Int.le_trans ((isCanonical_roundRatio _ hden).exponent_le hxcanon hltx.le) hxmax
  refine ⟨_, Double.ofRatio_eq_finite_iff.mpr ⟨hmax, rfl⟩, ?_⟩
  have hnonneg := nearest_nonneg (r.num * x.num) (r.den * x.den)
  rw [hxneg, Bool.bne_false]
  cases hrneg : r.negative with
  | false =>
    rw [FiniteDouble.toRat_of_nonneg rfl]
    exact ⟨hnonneg, hlts⟩
  | true =>
    have hnum : r.num * x.num = 0 := by rw [num_eq_zero_of_negative hrneg hzero, Nat.zero_mul]
    have hprod : magnitude (roundRatio (r.num * x.num) (r.den * x.den)).1
        (roundRatio (r.num * x.num) (r.den * x.den)).2 = 0 := by
      rw [hnum]
      exact nearest_zero
    rw [FiniteDouble.toRat_eq, hprod, mul_zero]
    exact ⟨le_refl 0, Nat.cast_pos.mpr hs⟩

/-- **A die shows one of its sides**, on every draw from zero to below one, provided that its number
of sides has a double at all.

The draw may be of any grain, and may even be the negative zero. Of a generator only the multiples
of `2 ^ -53` come, but a draw may also be given by hand. -/
theorem exists_face {sides : Nat} (hs : 0 < sides) (hx : (Double.ofInt? sides).isSome) {d : Draw}
    (hd : d.InUnit) : ∃ f : Int, face sides d = .ok f ∧ 1 ≤ f ∧ f ≤ sides := by
  obtain ⟨x, hx⟩ := Option.isSome_iff_exists.mp hx
  obtain ⟨r, hr, hm, hzero, hone⟩ := hd
  obtain ⟨p, hp, hpzero, hpsides⟩ := exists_product hs hx hm hzero hone
  have hlow : 0 ≤ p.floor := by
    rw [p.floor_eq]
    exact Int.floor_nonneg.mpr hpzero
  have hhigh : p.floor < sides := by
    rw [p.floor_eq]
    exact Int.floor_lt.mpr (by exact_mod_cast hpsides)
  refine ⟨p.floor + 1, ?_, by omega, by omega⟩
  simp only [face, hx, hr, Double.mul, hp]

theorem Draw.IsFair.inUnit {d : Draw} (hd : d.IsFair) : d.InUnit := by
  obtain ⟨k, hk, rfl⟩ := hd
  have hval : FiniteDouble.toRat ⟨false, k, -53⟩ = magnitude k (-53) :=
    FiniteDouble.toRat_of_nonneg rfl
  refine ⟨_, rfl, hk, ?_, ?_⟩
  · rw [hval]
    exact magnitude_nonneg _ _
  · have hk' : (k : ℚ) < 2 ^ (53 : Int) := by
      have : k < 2 ^ 53 := hk
      exact_mod_cast this
    rw [hval, magnitude]
    calc (k : ℚ) * 2 ^ (-53 : Int) < 2 ^ (53 : Int) * 2 ^ (-53 : Int) :=
          mul_lt_mul_of_pos_right hk' (two_zpow_pos _)
      _ = 1 := by rw [← zpow_add₀ two_ne_zero]; rfl

end Dicebox
