import Dicebox.Proofs.Number.Magnitude

/-!
# Rounding goes to the nearest double

`roundRatio` gives the mantissa and the exponent that a ratio is rounded to. What they denote,
`nearest num den`, is tied to the ratio in three ways, and everything said about floating point
arithmetic in this library is derived from these:

* **It is at most half a unit away** (`abs_nearest_sub_le`), a unit being `2 ^ unitExponent`; and
  the ratio itself spans at least `2 ^ 52` units unless it is subnormal (`two_zpow_le_ratio`).
* **No double is nearer** (`abs_nearest_sub_le_of_lt`), whether or not its exponent is the one that
  was rounded with. This is the statement that needs no binade, and so the one to use where two
  numbers of different size are compared.
* **It is a double** (`isCanonical_roundRatio`), and its mantissa is normal wherever it can be. A
  carry into the next binade is undone in the exponent and changes nothing (`nearest_eq`).
-/

set_option autoImplicit false

namespace Dicebox.Number

/-! ## To an integer

The quotient, or the one above it, is chosen by comparing twice the remainder with the divisor. For
distances it does not matter which one is taken on a half. -/

theorem abs_divHalfEven_sub_le (num : Nat) {den : Nat} (hden : 0 < den) :
    |(divHalfEven num den : ℚ) - num / den| ≤ 1 / 2 := by
  have hd : (0 : ℚ) < den := Nat.cast_pos.mpr hden
  have hup : (2 * (den * divHalfEven num den) : ℚ) ≤ 2 * num + den := by
    exact_mod_cast two_mul_divHalfEven_le num den
  have hlow : (2 * num : ℚ) ≤ 2 * (den * divHalfEven num den) + den := by
    exact_mod_cast le_two_mul_divHalfEven num den hden
  rw [abs_le]
  constructor
  · have h : (num : ℚ) / den ≤ divHalfEven num den + 1 / 2 := by
      rw [div_le_iff₀ hd]; linarith
    linarith
  · have h : (divHalfEven num den : ℚ) - 1 / 2 ≤ num / den := by
      rw [le_div_iff₀ hd]; linarith
    linarith

theorem abs_sub_le_of_half {n : Int} {x : ℚ} (h : |(n : ℚ) - x| ≤ 1 / 2) (k : Int) :
    |(n : ℚ) - x| ≤ |(k : ℚ) - x| := by
  by_cases hk : n = k
  · rw [hk]
  · have hone : (1 : ℚ) ≤ |(n : ℚ) - k| := by exact_mod_cast Int.one_le_abs (sub_ne_zero.mpr hk)
    have htri : |(n : ℚ) - k| ≤ |(n : ℚ) - x| + |(k : ℚ) - x| := by
      rw [abs_sub_comm (k : ℚ) x]
      exact abs_sub_le _ _ _
    linarith

/-! ## In units -/

variable {num den : Nat}

theorem abs_roundInUnits_sub_le (num : Nat) {den : Nat} (hden : 0 < den) (e : Int) :
    |(roundInUnits num den e : ℚ) - num / den / 2 ^ e| ≤ 1 / 2 := by
  have hpos : 0 < den * 2 ^ e.toNat := Nat.mul_pos hden (Nat.two_pow_pos _)
  have hratio : (num : ℚ) / den / 2 ^ e =
      ((num * 2 ^ (-e).toNat : Nat) : ℚ) / ((den * 2 ^ e.toNat : Nat) : ℚ) := by
    rw [two_zpow_eq e]
    push_cast
    field_simp
  rw [hratio]
  exact abs_divHalfEven_sub_le _ hpos

theorem abs_magnitude_roundInUnits_sub_le (hden : 0 < den) (e : Int) :
    |magnitude (roundInUnits num den e) e - num / den| ≤ 2 ^ e / 2 := by
  have hpos := two_zpow_pos e
  have hscale : magnitude (roundInUnits num den e) e - num / den =
      ((roundInUnits num den e : ℚ) - num / den / 2 ^ e) * 2 ^ e := by
    rw [magnitude, sub_mul, div_mul_cancel₀ _ hpos.ne']
  rw [hscale, abs_mul, abs_of_pos hpos]
  calc |(roundInUnits num den e : ℚ) - num / den / 2 ^ e| * 2 ^ e
      ≤ 1 / 2 * 2 ^ e :=
        mul_le_mul_of_nonneg_right (abs_roundInUnits_sub_le num hden e) hpos.le
    _ = 2 ^ e / 2 := by ring

theorem abs_magnitude_roundInUnits_sub_le_units (num : Nat) {den : Nat} (hden : 0 < den)
    (e k : Int) :
    |magnitude (roundInUnits num den e) e - num / den| ≤ |(k : ℚ) * 2 ^ e - num / den| := by
  have hpos := two_zpow_pos e
  have hscale : ∀ x : ℚ, |x * 2 ^ e - num / den| = |x - num / den / 2 ^ e| * 2 ^ e := by
    intro x
    rw [← abs_of_pos hpos, ← abs_mul, abs_of_pos hpos, sub_mul, div_mul_cancel₀ _ hpos.ne']
  have hint := abs_sub_le_of_half (n := roundInUnits num den e)
    (by exact_mod_cast abs_roundInUnits_sub_le num hden e) k
  rw [magnitude, hscale, hscale]
  exact mul_le_mul_of_nonneg_right (by exact_mod_cast hint) hpos.le

/-! ## The unit of a ratio

The unit is chosen so that the binade of the ratio has `2 ^ 52` of them, unless that would take an
exponent below the smallest one. Then the smallest is used, and the lower bound is lost. -/

theorem two_zpow_le_ratio (hnum : num ≠ 0) (hden : den ≠ 0)
    (h : minExponent < unitExponent num den) :
    (2 : ℚ) ^ (unitExponent num den + 52) ≤ num / den := by
  have hq : (0 : ℚ) < (num : ℚ) / den := by positivity
  have hunit : unitExponent num den + 52 ≤ Int.log 2 ((num : ℚ) / den) := by
    rw [← floorLog2_eq_log hnum hden]
    simp only [unitExponent, precision, minExponent] at h ⊢
    omega
  have hle := (Int.zpow_le_iff_le_log (b := 2) (by decide) hq).mpr hunit
  rwa [Nat.cast_ofNat] at hle

theorem ratio_lt_two_zpow (hnum : num ≠ 0) (hden : den ≠ 0) :
    (num : ℚ) / den < 2 ^ (unitExponent num den + 53) := by
  have hq : (0 : ℚ) < (num : ℚ) / den := by positivity
  have hunit : Int.log 2 ((num : ℚ) / den) < unitExponent num den + 53 := by
    rw [← floorLog2_eq_log hnum hden]
    simp only [unitExponent, precision, minExponent]
    omega
  have hlt := (Int.lt_zpow_iff_log_lt (b := 2) (by decide) hq).mpr hunit
  rwa [Nat.cast_ofNat] at hlt

theorem minExponent_le_unitExponent (num den : Nat) : minExponent ≤ unitExponent num den :=
  Int.le_max_left _ _

/-! ## The mantissa -/

/-- Mantissa and exponent of a double: the mantissa has 53 bits, and all of them are used unless
the exponent is the smallest one. Of the largest exponent nothing is said, since it plays no part in
rounding. -/
structure IsCanonical (m : Nat) (e : Int) : Prop where
  lt : m < 2 ^ precision
  le : minExponent ≤ e
  normal : minExponent < e → 2 ^ (precision - 1) ≤ m

/-- A mantissa may be rounded up to the next power of two, but no further. This one case is the
carry that `roundRatio` undoes. -/
theorem roundInUnits_le (hnum : num ≠ 0) (hden : den ≠ 0) :
    roundInUnits num den (unitExponent num den) ≤ 2 ^ precision := by
  have hpos := two_zpow_pos (unitExponent num den)
  have hq : (num : ℚ) / den / 2 ^ unitExponent num den < 2 ^ (53 : Int) := by
    rw [div_lt_iff₀ hpos, ← zpow_add₀ two_ne_zero, add_comm]
    exact ratio_lt_two_zpow hnum hden
  have hround := abs_roundInUnits_sub_le num (Nat.pos_of_ne_zero hden) (unitExponent num den)
  have hlt : (roundInUnits num den (unitExponent num den) : ℚ) < 2 ^ (53 : Int) + 1 := by
    have := (abs_le.mp hround).2
    linarith
  have hcast : roundInUnits num den (unitExponent num den) < 2 ^ 53 + 1 := by
    exact_mod_cast hlt
  exact Nat.le_of_lt_succ hcast

theorem le_roundInUnits (hnum : num ≠ 0) (hden : den ≠ 0)
    (h : minExponent < unitExponent num den) :
    2 ^ (precision - 1) ≤ roundInUnits num den (unitExponent num den) := by
  have hpos := two_zpow_pos (unitExponent num den)
  have hq : (2 : ℚ) ^ (52 : Int) ≤ num / den / 2 ^ unitExponent num den := by
    rw [le_div_iff₀ hpos, ← zpow_add₀ two_ne_zero, add_comm]
    exact two_zpow_le_ratio hnum hden h
  have hround := abs_roundInUnits_sub_le num (Nat.pos_of_ne_zero hden) (unitExponent num den)
  have hlt : (2 : ℚ) ^ (52 : Int) < roundInUnits num den (unitExponent num den) + 1 := by
    have := (abs_le.mp hround).1
    linarith
  have hcast : 2 ^ 52 < roundInUnits num den (unitExponent num den) + 1 := by
    exact_mod_cast hlt
  exact Nat.le_of_lt_succ hcast

/-! ## The nearest double

Distances are known only to numbers of the same unit so far. Other doubles are of two sorts: those
with a larger exponent are numbers of units as well, and those with a smaller one lie below the
binade of the ratio, where its lower edge, a number of units, is nearer than any of them. -/

/-- What a ratio is rounded to. -/
def nearest (num den : Nat) : ℚ := magnitude (roundRatio num den).1 (roundRatio num den).2

theorem nearest_nonneg (num den : Nat) : 0 ≤ nearest num den := magnitude_nonneg _ _

theorem nearest_zero : nearest 0 den = 0 := by simp [nearest, roundRatio, magnitude]

theorem nearest_eq (hnum : num ≠ 0) :
    nearest num den = magnitude (roundInUnits num den (unitExponent num den))
      (unitExponent num den) := by
  simp only [nearest, roundRatio, if_neg hnum]
  split
  · next h =>
    rw [h, magnitude, magnitude, zpow_add_one₀ two_ne_zero, precision]
    push_cast
    ring
  · rfl

theorem isCanonical_roundRatio (num : Nat) {den : Nat} (hden : den ≠ 0) :
    IsCanonical (roundRatio num den).1 (roundRatio num den).2 := by
  by_cases hnum : num = 0
  · rw [roundRatio, if_pos hnum]
    exact ⟨Nat.two_pow_pos _, Int.le_refl _, fun h => absurd h (Int.lt_irrefl _)⟩
  · simp only [roundRatio, if_neg hnum]
    split
    · have hmin := minExponent_le_unitExponent num den
      have hpow : 2 ^ (precision - 1) < 2 ^ precision := by decide
      exact ⟨hpow, by dsimp only; omega, fun _ => Nat.le_refl _⟩
    · next h =>
      exact ⟨Nat.lt_of_le_of_ne (roundInUnits_le hnum hden) h,
        minExponent_le_unitExponent num den, le_roundInUnits hnum hden⟩

theorem abs_nearest_sub_le (hnum : num ≠ 0) (hden : den ≠ 0) :
    |nearest num den - num / den| ≤ 2 ^ unitExponent num den / 2 := by
  rw [nearest_eq hnum]
  exact abs_magnitude_roundInUnits_sub_le (Nat.pos_of_ne_zero hden) _

theorem exists_units_of_le (m : Nat) {e unit : Int} (h : unit ≤ e) :
    ∃ k : Int, (k : ℚ) * 2 ^ unit = magnitude m e := by
  refine ⟨((m * 2 ^ (e - unit).toNat : Nat) : Int), ?_⟩
  push_cast
  rw [magnitude, mul_assoc, ← zpow_natCast, ← zpow_add₀ two_ne_zero]
  congr 2
  omega

theorem magnitude_le_of_lt {m : Nat} {e unit : Int} (hm : m < 2 ^ precision) (h : e < unit) :
    magnitude m e ≤ 2 ^ (unit + 52) := by
  have hm' : (m : ℚ) ≤ 2 ^ (53 : Int) := by exact_mod_cast hm.le
  calc magnitude m e ≤ 2 ^ (53 : Int) * 2 ^ e :=
        mul_le_mul_of_nonneg_right hm' (two_zpow_pos e).le
    _ = 2 ^ (e + 53) := by rw [← zpow_add₀ two_ne_zero, add_comm]
    _ ≤ 2 ^ (unit + 52) := zpow_le_zpow_right₀ one_le_two (by omega)

theorem units_at_edge (unit : Int) :
    ((2 ^ 52 : Int) : ℚ) * 2 ^ unit = 2 ^ (unit + 52) := by
  rw [zpow_add₀ two_ne_zero, mul_comm]
  norm_cast

/-- No number of 53 bits is nearer to a ratio than what it is rounded to. Above the subnormal
numbers this takes no account of the smallest exponent. -/
theorem abs_nearest_sub_le_of_bits (hnum : num ≠ 0) (hden : den ≠ 0) {m : Nat} {e : Int}
    (hm : m < 2 ^ precision) (he : unitExponent num den ≤ e ∨ minExponent < unitExponent num den) :
    |nearest num den - num / den| ≤ |magnitude m e - num / den| := by
  rw [nearest_eq hnum]
  have hunits := abs_magnitude_roundInUnits_sub_le_units num (Nat.pos_of_ne_zero hden)
    (unitExponent num den)
  by_cases hle : unitExponent num den ≤ e
  · obtain ⟨k, hk⟩ := exists_units_of_le m hle
    rw [← hk]
    exact hunits k
  · -- The edge of the binade stands between the other number and the ratio.
    have hlow := two_zpow_le_ratio hnum hden (he.resolve_left hle)
    have hbelow := magnitude_le_of_lt hm (not_le.mp hle)
    refine le_trans (hunits (2 ^ 52)) ?_
    rw [units_at_edge, abs_of_nonpos (by linarith), abs_of_nonpos (by linarith)]
    linarith

/-- No double is nearer to a ratio than what it is rounded to, be it subnormal or not: where the
unit is the smallest one, there is no double with a smaller exponent to compare with. -/
theorem abs_nearest_sub_le_of_lt (num : Nat) {den : Nat} (hden : den ≠ 0) {m : Nat} {e : Int}
    (hm : m < 2 ^ precision) (he : minExponent ≤ e) :
    |nearest num den - num / den| ≤ |magnitude m e - num / den| := by
  by_cases hnum : num = 0
  · subst hnum
    simp only [nearest_zero, Nat.cast_zero, zero_div, sub_zero, abs_zero]
    exact abs_nonneg _
  · refine abs_nearest_sub_le_of_bits hnum hden hm ?_
    rcases Int.lt_or_le e (unitExponent num den) with hlt | hle
    · exact Or.inr (Int.lt_of_le_of_lt he hlt)
    · exact Or.inl hle

/-- A double that a ratio is not below is not passed by rounding, and likewise from the other side.
So a whole number that has a double stays a bound after rounding. -/
theorem magnitude_le_nearest (hden : den ≠ 0) {m : Nat} {e : Int} (hm : m < 2 ^ precision)
    (he : minExponent ≤ e) (h : magnitude m e ≤ num / den) : magnitude m e ≤ nearest num den := by
  -- Otherwise it would stand between the ratio and its nearest double, and be nearer.
  by_contra hlt
  have hnear := abs_nearest_sub_le_of_lt num hden hm he
  rw [abs_of_nonpos (by linarith), abs_of_nonpos (by linarith)] at hnear
  linarith

theorem nearest_le_magnitude (hden : den ≠ 0) {m : Nat} {e : Int} (hm : m < 2 ^ precision)
    (he : minExponent ≤ e) (h : (num : ℚ) / den ≤ magnitude m e) :
    nearest num den ≤ magnitude m e := by
  by_contra hlt
  have hnear := abs_nearest_sub_le_of_lt num hden hm he
  rw [abs_of_nonneg (by linarith), abs_of_nonneg (by linarith)] at hnear
  linarith

end Dicebox.Number
