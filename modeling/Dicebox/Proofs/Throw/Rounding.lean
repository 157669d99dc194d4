import Dicebox.Proofs.Number.HalfEven
import Dicebox.Proofs.Throw.Face

/-!
# A face, one rounding after the other

A die is rolled with two roundings: the side count becomes a double (`sidesDouble`), and the product
of the draw with it becomes another one (`productDouble`). Both are roundings to 53 significant bits
in the full sense of `IsRounded`, with the even mantissa on a half; nothing that a die comes to is
so small that a double would keep less (`isRounded_sidesDouble`, `isRounded_productDouble`).

> **For every number of sides that has a double, and on every draw, the face is the integer part of
> the second plus one, and it is one of the sides** (`die_keeps_to_faces`).

In this form a face can be reasoned about without the representation: `face_fraction_eq` is all that
there is to know about `face` on a fair draw.
-/

set_option autoImplicit false

namespace Dicebox

open Number

/-! ## The two doubles

They are named so that they can be compared for different draws of one die: the first does not
depend on the draw, and the second is all that the draw has an influence on. -/

/-- A fair draw as a double. -/
def drawDouble (k : Nat) : FiniteDouble := ⟨false, k, -53⟩

/-- A number of sides as a double. For a number that has none it is still a number of 53 bits, with
an exponent that is too large, so that its value can be spoken of before that is known. -/
def sidesDouble (sides : Nat) : FiniteDouble :=
  ⟨false, (roundRatio sides 1).1, (roundRatio sides 1).2⟩

/-- The product of the two as a double. -/
def productDouble (sides k : Nat) : FiniteDouble :=
  let ratio := roundRatio ((drawDouble k).num * (sidesDouble sides).num)
    ((drawDouble k).den * (sidesDouble sides).den)
  ⟨false, ratio.1, ratio.2⟩

variable {sides k : Nat}

theorem toRat_drawDouble (k : Nat) : (drawDouble k).toRat = k / 2 ^ 53 := by
  rw [drawDouble, FiniteDouble.toRat_of_nonneg rfl, magnitude, zpow_neg, div_eq_mul_inv]
  norm_cast

theorem toRat_sidesDouble (sides : Nat) : (sidesDouble sides).toRat = nearest sides 1 :=
  FiniteDouble.toRat_of_nonneg rfl

theorem toRat_productDouble (sides k : Nat) : (productDouble sides k).toRat =
    nearest ((drawDouble k).num * (sidesDouble sides).num)
      ((drawDouble k).den * (sidesDouble sides).den) :=
  FiniteDouble.toRat_of_nonneg rfl

theorem product_ratio (sides k : Nat) :
    (((drawDouble k).num * (sidesDouble sides).num : Nat) : ℚ) /
      ((drawDouble k).den * (sidesDouble sides).den : Nat) =
      k / 2 ^ 53 * (sidesDouble sides).toRat := by
  have hsides : (sidesDouble sides).toRat = (sidesDouble sides).num / (sidesDouble sides).den := by
    rw [FiniteDouble.toRat_of_nonneg rfl, FiniteDouble.num_div_den]
  have hdraw : (k : ℚ) / 2 ^ 53 = (drawDouble k).num / (drawDouble k).den := by
    rw [← toRat_drawDouble, FiniteDouble.toRat_of_nonneg rfl, FiniteDouble.num_div_den]
  rw [hsides, hdraw, div_mul_div_comm]
  push_cast
  rfl

theorem product_den_ne_zero (sides k : Nat) :
    (drawDouble k).den * (sidesDouble sides).den ≠ 0 :=
  (Nat.mul_pos (FiniteDouble.den_pos _) (FiniteDouble.den_pos _)).ne'

theorem one_le_toRat_sidesDouble (hs : 0 < sides) : 1 ≤ (sidesDouble sides).toRat := by
  rw [toRat_sidesDouble]
  exact one_le_nearest hs

/-! ## Both are roundings -/

theorem two_zpow_le_of_draw {q : ℚ} (h : 1 / 2 ^ 53 ≤ q) : (2 : ℚ) ^ (-1021 : Int) ≤ q := by
  refine le_trans ?_ h
  rw [one_div, ← zpow_natCast, ← zpow_neg]
  exact zpow_le_zpow_right₀ one_le_two (by decide)

theorem isRounded_sidesDouble (hs : 0 < sides) : IsRounded (sides : ℚ) (sidesDouble sides) := by
  have hone : (1 : ℚ) ≤ sides := by exact_mod_cast hs
  have hnormal : minExponent < unitExponent sides 1 := by
    refine minExponent_lt_unitExponent hs.ne' one_ne_zero (two_zpow_le_of_draw ?_)
    rw [Nat.cast_one, div_one]
    refine le_trans ?_ hone
    norm_num
  have hround := isRounded_roundRatio one_ne_zero (Or.inr hnormal)
  rwa [Nat.cast_one, div_one] at hround

theorem isRounded_productDouble (hs : 0 < sides) (k : Nat) :
    IsRounded (k / 2 ^ 53 * (sidesDouble sides).toRat) (productDouble sides k) := by
  rw [← product_ratio]
  refine isRounded_roundRatio (product_den_ne_zero sides k) ?_
  rcases Nat.eq_zero_or_pos k with rfl | hk
  · left
    rw [FiniteDouble.num, drawDouble, Nat.zero_mul, Nat.zero_mul]
  · have hdraw : (1 : ℚ) / 2 ^ 53 ≤ k / 2 ^ 53 := by
      refine div_le_div_of_nonneg_right ?_ (by positivity)
      exact_mod_cast hk
    have hproduct : (1 : ℚ) / 2 ^ 53 ≤ k / 2 ^ 53 * (sidesDouble sides).toRat :=
      le_trans hdraw (le_mul_of_one_le_right (by positivity) (one_le_toRat_sidesDouble hs))
    rw [← product_ratio] at hproduct
    have hnum : (drawDouble k).num * (sidesDouble sides).num ≠ 0 := by
      intro hzero
      rw [hzero, Nat.cast_zero, zero_div] at hproduct
      exact absurd hproduct (not_le.mpr (by positivity))
    exact Or.inr (minExponent_lt_unitExponent hnum (product_den_ne_zero sides k)
      (two_zpow_le_of_draw hproduct))

/-! ## The face

The largest number of sides that has a double is half a unit below the first power of two that has
none. It is the bound of the statement, so that it need not mention whether a double is there. -/

theorem ofInt?_eq_sidesDouble (hx : (Double.ofInt? sides).isSome) :
    Double.ofInt? sides = some (sidesDouble sides) := by
  obtain ⟨x, hx⟩ := Option.isSome_iff_exists.mp hx
  rw [hx, (Double.ofInt?_natCast hx).1, sidesDouble]

theorem face_fraction_eq (hs : 0 < sides) (hx : (Double.ofInt? sides).isSome)
    (hk : k < 2 ^ 53) :
    face sides (.fraction k) = .ok (⌊(productDouble sides k).toRat⌋ + 1) ∧
    0 ≤ (productDouble sides k).toRat ∧ (productDouble sides k).toRat < sides := by
  have hx := ofInt?_eq_sidesDouble hx
  obtain ⟨r, hr, hm, hzero, hone⟩ := Draw.IsFair.inUnit ⟨k, hk, rfl⟩
  cases hr
  obtain ⟨p, hp, hpzero, hpsides⟩ := exists_product hs hx hm hzero hone
  -- Neither factor has a sign, so the product is the one that is meant.
  have hproduct : p = productDouble sides k := (Double.ofRatio_eq_finite_iff.mp hp).2
  rw [hproduct] at hp hpzero hpsides
  refine ⟨?_, hpzero, hpsides⟩
  simp only [face, hx, Draw.fraction, Double.mul, hp, FiniteDouble.floor_eq]

/-- A die never leaves its faces. The number of sides is rounded, and so is its product with the
draw, each to 53 significant bits; the face is found from what is left, and it is one of the sides,
even if there have been more of them after the first rounding. -/
theorem die_keeps_to_faces {sides : Int} {k : Nat} {s rest : Source} (hone : 1 ≤ sides)
    (hfinite : sides < 2 ^ 1024 - 2 ^ 970) (hk : k < 2 ^ 53)
    (hdraw : s.draw? = some (.ok (.fraction k), rest)) :
    ∃ x p : FiniteDouble,
      Double.ofInt? sides = some x ∧
      IsRounded sides x ∧ IsRounded (k / 2 ^ 53 * x.toRat) p ∧
      rollDatum (.int sides) s = (.ok (⌊p.toRat⌋ + 1), rest) ∧
      1 ≤ ⌊p.toRat⌋ + 1 ∧ ⌊p.toRat⌋ + 1 ≤ sides := by
  obtain ⟨n, rfl⟩ := Int.eq_ofNat_of_zero_le (Int.le_of_lt hone)
  have hn : 0 < n := Int.ofNat_lt.mp hone
  have hx : (Double.ofInt? n).isSome := Double.isSome_ofInt?_iff.mpr (by omega)
  obtain ⟨hface, hlow, hhigh⟩ := face_fraction_eq hn hx hk
  have hfloor : 0 ≤ ⌊(productDouble n k).toRat⌋ := Int.floor_nonneg.mpr hlow
  have hceiling : ⌊(productDouble n k).toRat⌋ < n := Int.floor_lt.mpr (by exact_mod_cast hhigh)
  refine ⟨sidesDouble n, productDouble n k, ofInt?_eq_sidesDouble hx, ?_,
    isRounded_productDouble hn k, ?_, by omega, by omega⟩
  · rw [Int.cast_natCast]
    exact isRounded_sidesDouble hn
  · simp only [rollDatum_natCast hn, rollDie, hdraw, Except.bind, hface]

/-- More sides than a double can tell apart are rounded upwards, and on the highest draw of all the
die still shows its last face. -/
theorem die_keeps_to_faces_rounded_up :
    let sides : Int := 2 ^ 53 + 3
    let s : Source := .scripted [.ok (.fraction (2 ^ 53 - 1))]
    (1 ≤ sides ∧ sides < 2 ^ 1024 - 2 ^ 970 ∧ 2 ^ 53 - 1 < 2 ^ 53) ∧
    ∃ x p : FiniteDouble,
      Double.ofInt? sides = some x ∧ x.toRat = sides + 1 ∧
      rollDatum (.int sides) s = (.ok (⌊p.toRat⌋ + 1), .scripted []) ∧ ⌊p.toRat⌋ + 1 = sides := by
  intro sides s
  have hone : 1 ≤ sides := by decide
  have hfinite : sides < 2 ^ 1024 - 2 ^ 970 := by decide +kernel
  have hk : 2 ^ 53 - 1 < 2 ^ 53 := by decide
  obtain ⟨x, p, hx, -, -, hroll, -, -⟩ := die_keeps_to_faces (s := s) hone hfinite hk rfl
  have hdouble : (Double.ofInt? sides).map FiniteDouble.toRat = some ((sides : ℚ) + 1) := by
    decide +kernel
  have hface : (rollDatum (.int sides) s).1.toOption = some sides := by decide +kernel
  rw [hx] at hdouble
  rw [hroll] at hface
  exact ⟨⟨hone, hfinite, hk⟩, x, p, hx, Option.some.inj hdouble, hroll, Option.some.inj hface⟩

end Dicebox
