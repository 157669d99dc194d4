import Mathlib.Algebra.Order.Field.Power
import Mathlib.Data.Int.Log
import Mathlib.Data.Rat.Floor
import Mathlib.Tactic.FieldSimp
import Mathlib.Tactic.Linarith
import Mathlib.Tactic.Positivity
import Mathlib.Tactic.Ring
import Dicebox.Number.Double

/-!
# What a double denotes

A double is computed with as a ratio of naturals, because powers of two with negative exponents are
none. It is reasoned about as `± m · 2 ^ e` in the rationals. This file is the passage from one to
the other: `FiniteDouble.toRat_eq` for the number itself, `FiniteDouble.floor_eq` for its integer
part, and `floorLog2_eq_log` for the binade of a ratio, which turns out to be Mathlib's `Int.log`
and so comes with all that is known about it.
-/

set_option autoImplicit false

namespace Dicebox.Number

/-- The rational `m · 2 ^ e`. -/
def magnitude (m : Nat) (e : Int) : ℚ := m * 2 ^ e

theorem two_zpow_eq (e : Int) : (2 : ℚ) ^ e = 2 ^ e.toNat / 2 ^ (-e).toNat := by
  rw [← zpow_natCast, ← zpow_natCast, ← zpow_sub₀ two_ne_zero]
  congr 1
  omega

theorem two_zpow_pos (e : Int) : (0 : ℚ) < 2 ^ e := zpow_pos two_pos e

theorem magnitude_one (e : Int) : magnitude 1 e = 2 ^ e := by rw [magnitude, Nat.cast_one, one_mul]

theorem magnitude_natCast (n : Nat) : magnitude n 0 = n := by rw [magnitude, zpow_zero, mul_one]

theorem magnitude_nonneg (m : Nat) (e : Int) : 0 ≤ magnitude m e :=
  mul_nonneg (Nat.cast_nonneg m) (two_zpow_pos e).le

namespace FiniteDouble

theorem num_div_den (x : FiniteDouble) :
    (x.num : ℚ) / x.den = magnitude x.mantissa x.exponent := by
  simp only [num, den, magnitude, two_zpow_eq x.exponent]
  push_cast
  rw [mul_div_assoc]

theorem toRat_eq (x : FiniteDouble) :
    x.toRat = (if x.negative then -1 else 1) * magnitude x.mantissa x.exponent := by
  rw [← num_div_den, toRat, Rat.mkRat_eq_div, signedNum]
  split
  · push_cast; ring
  · push_cast; ring

theorem toRat_of_nonneg {x : FiniteDouble} (h : x.negative = false) :
    x.toRat = magnitude x.mantissa x.exponent := by
  rw [toRat_eq, h]
  simp

theorem abs_toRat (x : FiniteDouble) : |x.toRat| = magnitude x.mantissa x.exponent := by
  rw [toRat_eq, abs_mul, abs_of_nonneg (magnitude_nonneg _ _)]
  split <;> simp

theorem floor_eq (x : FiniteDouble) : x.floor = ⌊x.toRat⌋ := by
  rw [toRat, Rat.mkRat_eq_div, Rat.floor_intCast_div_natCast, floor]

end FiniteDouble

/-! ## The binade of a ratio

The program guesses the binade from the lengths of the two naturals, and corrects the guess by one
comparison. It never looks at the quotient. -/

theorem div_lt_two_zpow_iff {num den : Nat} (hden : 0 < den) (e : Int) :
    (num : ℚ) / den < 2 ^ e ↔ num * 2 ^ (-e).toNat < den * 2 ^ e.toNat := by
  have hd : (0 : ℚ) < den := Nat.cast_pos.mpr hden
  rw [two_zpow_eq, div_lt_div_iff₀ hd (by positivity), mul_comm ((2 : ℚ) ^ e.toNat)]
  norm_cast

/-- The first guess at the binade is right or one too high.

Each of the two naturals is less than twice the power of two that it begins with, so their quotient
is less than twice, and more than half of, the quotient of these powers. -/
theorem log2_sub_log2 {num den : Nat} (hnum : num ≠ 0) (hden : den ≠ 0) :
    (2 : ℚ) ^ ((num.log2 : Int) - den.log2 - 1) ≤ (num : ℚ) / den ∧
    (num : ℚ) / den < 2 ^ ((num.log2 : Int) - den.log2 + 1) := by
  have hd : (0 : ℚ) < den := by positivity
  have hnum1 : (2 : ℚ) ^ (num.log2 : Int) ≤ num := by
    rw [zpow_natCast]; exact_mod_cast Nat.log2_self_le hnum
  have hnum2 : (num : ℚ) < 2 ^ ((num.log2 : Int) + 1) := by
    have h := Nat.lt_log2_self (n := num)
    rw [← Nat.cast_succ, zpow_natCast]; exact_mod_cast h
  have hden1 : (2 : ℚ) ^ (den.log2 : Int) ≤ den := by
    rw [zpow_natCast]; exact_mod_cast Nat.log2_self_le hden
  have hden2 : (den : ℚ) < 2 ^ ((den.log2 : Int) + 1) := by
    have h := Nat.lt_log2_self (n := den)
    rw [← Nat.cast_succ, zpow_natCast]; exact_mod_cast h
  constructor
  · rw [le_div_iff₀ hd]
    calc (2 : ℚ) ^ ((num.log2 : Int) - den.log2 - 1) * den
        ≤ 2 ^ ((num.log2 : Int) - den.log2 - 1) * 2 ^ ((den.log2 : Int) + 1) :=
          mul_le_mul_of_nonneg_left hden2.le (two_zpow_pos _).le
      _ = 2 ^ (num.log2 : Int) := by rw [← zpow_add₀ two_ne_zero]; congr 1; ring
      _ ≤ num := hnum1
  · rw [div_lt_iff₀ hd]
    calc (num : ℚ) < 2 ^ ((num.log2 : Int) + 1) := hnum2
      _ = 2 ^ ((num.log2 : Int) - den.log2 + 1) * 2 ^ (den.log2 : Int) := by
          rw [← zpow_add₀ two_ne_zero]; congr 1; ring
      _ ≤ 2 ^ ((num.log2 : Int) - den.log2 + 1) * den :=
          mul_le_mul_of_nonneg_left hden1 (two_zpow_pos _).le

/-- The binade of a ratio is the integer part of its logarithm, for naturals of any size: neither of
them has to fit into a double itself. -/
theorem floorLog2_eq_log {num den : Nat} (hnum : num ≠ 0) (hden : den ≠ 0) :
    floorLog2 num den = Int.log 2 ((num : ℚ) / den) := by
  have hq : (0 : ℚ) < (num : ℚ) / den := by positivity
  obtain ⟨hlow, hhigh⟩ := log2_sub_log2 hnum hden
  simp only [floorLog2]
  generalize (num.log2 : Int) - den.log2 = guess at hlow hhigh
  have h1 : guess - 1 ≤ Int.log 2 ((num : ℚ) / den) :=
    (Int.zpow_le_iff_le_log (by decide) hq).mp (by rw [Nat.cast_ofNat]; exact hlow)
  have h2 : Int.log 2 ((num : ℚ) / den) < guess + 1 :=
    (Int.lt_zpow_iff_log_lt (by decide) hq).mp (by rw [Nat.cast_ofNat]; exact hhigh)
  have hcut : Int.log 2 ((num : ℚ) / den) < guess ↔
      num * 2 ^ (-guess).toNat < den * 2 ^ guess.toNat := by
    rw [← Int.lt_zpow_iff_log_lt (by decide) hq, Nat.cast_ofNat]
    exact div_lt_two_zpow_iff (Nat.pos_of_ne_zero hden) guess
  -- The comparison says which of the two binades it is.
  split
  · next h => have := hcut.mpr h; omega
  · next h => have := mt hcut.mp h; omega

end Dicebox.Number
