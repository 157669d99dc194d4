import Dicebox.Proofs.Number.Operations
import Dicebox.Proofs.Report.Figures

/-!
# Percentages are accurate

A percentage is rounded three times: as a quotient, as a product with one hundred, and to two
places, where the hundredths are a whole number and what they denote is a double again. Rounding to
two places alone may be off by half a hundredth, and no better can be asked for;

> **the other roundings add less than `10 ^ (-12)` to that** (`abs_percentOf_sub_le`).

Each of them keeps the order, and each of them leaves zero and the largest value that it can be
given where they are. So a percentage is never below zero or above one hundred, and a larger count
never has a smaller one (`percentOf_mono`). None of this depends on how large the numbers are.
-/

set_option autoImplicit false

namespace Dicebox.Report

open Number

variable {total count count' : Nat}

/-! ## The three roundings

Each stage takes the double of the one before, and not the number that it stands for. They are named
here so that an error, an order and a bound can be stated for each of them. -/

/-- The hundredths of a double, rounded to a whole number; on a half to the even one, like
everything else. -/
def hundredths (x : FiniteDouble) : Nat := divHalfEven (x.num * 10 ^ 2) x.den

/-- The double nearest to a part of a total. -/
def quotientOf (total count : Nat) : FiniteDouble := rounded (count / total)

/-- The double nearest to one hundred times that. -/
def productOf (total count : Nat) : FiniteDouble := rounded ((quotientOf total count).toRat * 100)

/-- The double nearest to what is left of that in two places. There is a third rounding here besides
the one to hundredths, since most numbers with two places have no double of their own. -/
def percentOf (total count : Nat) : FiniteDouble :=
  rounded ((hundredths (productOf total count) : ℚ) / 100)

theorem hundredths_ratio (q : ℚ) :
    (((rounded q).num * 10 ^ 2 : Nat) : ℚ) / (rounded q).den = (rounded q).toRat * 100 := by
  rw [← num_div_den_rounded, Nat.cast_mul, mul_div_right_comm]
  norm_num

theorem abs_hundredths_sub_le (q : ℚ) :
    |(hundredths (rounded q) : ℚ) - (rounded q).toRat * 100| ≤ 1 / 2 := by
  rw [← hundredths_ratio]
  exact abs_divHalfEven_sub_le _ (rounded q).den_pos

theorem hundredths_mono {q q' : ℚ} (h : (rounded q).toRat ≤ (rounded q').toRat) :
    hundredths (rounded q) ≤ hundredths (rounded q') := by
  refine divHalfEven_mono (rounded q).den_pos.ne' (rounded q').den_pos.ne' ?_
  rw [hundredths_ratio, hundredths_ratio]
  exact mul_le_mul_of_nonneg_right h (by norm_num)

theorem hundredths_le {q : ℚ} {n : Nat} (h : (rounded q).toRat ≤ n) :
    hundredths (rounded q) ≤ n * 100 := by
  rw [← divHalfEven_mul (n * 100) 1 one_pos]
  refine divHalfEven_mono (rounded q).den_pos.ne' one_ne_zero ?_
  rw [hundredths_ratio]
  push_cast
  rw [mul_one, div_one]
  exact mul_le_mul_of_nonneg_right h (by norm_num)

/-! ## From zero to one hundred -/

theorem toRat_quotientOf_le (ht : 0 < total) (h : count ≤ total) :
    (quotientOf total count).toRat ≤ 1 := by
  have hone : (count : ℚ) / total ≤ (1 : Nat) := by
    rw [Nat.cast_one, div_le_one (Nat.cast_pos.mpr ht)]
    exact_mod_cast h
  rw [← Nat.cast_one]
  exact rounded_le_natCast (by decide) (by positivity) hone

theorem quotientOf_mul_nonneg : 0 ≤ (quotientOf total count).toRat * 100 :=
  mul_nonneg (toRat_rounded_nonneg _) (by norm_num)

theorem quotientOf_mul_le (ht : 0 < total) (h : count ≤ total) :
    (quotientOf total count).toRat * 100 ≤ 100 := by
  have hquotient := toRat_quotientOf_le ht h
  linarith

theorem toRat_productOf_le (ht : 0 < total) (h : count ≤ total) :
    (productOf total count).toRat ≤ 100 := by
  exact_mod_cast rounded_le_natCast (n := 100) (by decide) quotientOf_mul_nonneg
    (quotientOf_mul_le ht h)

theorem hundredths_productOf_le (ht : 0 < total) (h : count ≤ total) :
    (hundredths (productOf total count) : ℚ) / 100 ≤ 100 := by
  have hproduct : (productOf total count).toRat ≤ (100 : Nat) := by
    exact_mod_cast toRat_productOf_le ht h
  rw [div_le_iff₀ (by norm_num)]
  exact_mod_cast hundredths_le hproduct

theorem toRat_percentOf_le (ht : 0 < total) (h : count ≤ total) :
    (percentOf total count).toRat ≤ 100 := by
  exact_mod_cast rounded_le_natCast (n := 100) (by decide) (by positivity)
    (hundredths_productOf_le ht h)

/-! ## In order -/

theorem percentOf_mono (h : count ≤ count') :
    (percentOf total count).toRat ≤ (percentOf total count').toRat := by
  have hquotient : (quotientOf total count).toRat ≤ (quotientOf total count').toRat := by
    refine rounded_mono (by positivity) (div_le_div_of_nonneg_right ?_ (Nat.cast_nonneg total))
    exact_mod_cast h
  have hproduct : (productOf total count).toRat ≤ (productOf total count').toRat :=
    rounded_mono quotientOf_mul_nonneg (mul_le_mul_of_nonneg_right hquotient (by norm_num))
  refine rounded_mono (by positivity) (div_le_div_of_nonneg_right ?_ (by norm_num))
  exact_mod_cast hundredths_mono hproduct

/-! ## How accurate they are

What matters are the absolute errors, and these are largest for a percentage of about one hundred,
where doubles are `2 ^ -46` apart. -/

theorem abs_rounded_sub_le_of_le_hundred {q : ℚ} (h : 0 ≤ q) (hle : q ≤ 100) :
    |(rounded q).toRat - q| ≤ 2 / 10 ^ 14 :=
  (abs_rounded_sub_le (b := 7) (by decide) h (hle.trans (by norm_num))).trans (by norm_num)

/-- The errors of the roundings add up. The first is made a hundred times larger by the product, and
is then about as large as the second and the last; what is left is half of a hundredth. -/
theorem abs_percentOf_sub_le (ht : 0 < total) (h : count ≤ total) :
    |(percentOf total count).toRat - 100 * count / total| ≤ 1 / 200 + 1 / 10 ^ 12 := by
  have hquotient : |(quotientOf total count).toRat - count / total| ≤ 2 ^ (-53 : Int) := by
    refine abs_rounded_sub_le (b := 0) (by decide) (by positivity) ?_
    rw [zpow_zero, div_le_one (Nat.cast_pos.mpr ht)]
    exact_mod_cast h
  have hquotient' : |(quotientOf total count).toRat - count / total| ≤ 2 / 10 ^ 16 :=
    hquotient.trans (by norm_num)
  have hproduct : |(productOf total count).toRat - (quotientOf total count).toRat * 100| ≤
      2 / 10 ^ 14 :=
    abs_rounded_sub_le_of_le_hundred quotientOf_mul_nonneg (quotientOf_mul_le ht h)
  have hplaces : |(hundredths (productOf total count) : ℚ) / 100 -
      (productOf total count).toRat| ≤ 1 / 200 := by
    have hhalf := abs_hundredths_sub_le ((quotientOf total count).toRat * 100)
    rw [abs_le] at hhalf ⊢
    change _ ≤ (hundredths (productOf total count) : ℚ) - (productOf total count).toRat * 100 ∧
      (hundredths (productOf total count) : ℚ) - (productOf total count).toRat * 100 ≤ _ at hhalf
    constructor
    · linarith [hhalf.1]
    · linarith [hhalf.2]
  have hlast : |(percentOf total count).toRat - (hundredths (productOf total count) : ℚ) / 100| ≤
      2 / 10 ^ 14 :=
    abs_rounded_sub_le_of_le_hundred (by positivity) (hundredths_productOf_le ht h)
  -- Four inequalities on either side, and their sum is the claim.
  rw [mul_div_assoc]
  rw [abs_le] at hquotient' hproduct hplaces hlast ⊢
  constructor
  · linarith
  · linarith

/-! ## The percentages of a report

It remains that the program does these three roundings and no others: none of the results is too
large, and none of the operations is given a number with a sign. -/

theorem hundred_le_two_zpow : (100 : ℚ) ≤ 2 ^ (1023 : Int) :=
  le_trans (by norm_num) (zpow_le_zpow_right₀ one_le_two (show (7 : Int) ≤ 1023 by decide))

theorem ofRatio_eq_quotientOf (ht : 0 < total) (h : count ≤ total) :
    Double.ofRatio false count total = .finite (quotientOf total count) := by
  refine Double.ofRatio_eq_rounded false count ht.ne' (le_trans ?_ hundred_le_two_zpow)
  rw [div_le_iff₀ (Nat.cast_pos.mpr ht)]
  exact_mod_cast h.trans (Nat.le_mul_of_pos_left total (by decide))

theorem mul_eq_productOf (ht : 0 < total) (h : count ≤ total) :
    (Double.finite (quotientOf total count)).mul (.finite ⟨false, 100, 0⟩) =
      .finite (productOf total count) := by
  have hhundred : FiniteDouble.toRat ⟨false, 100, 0⟩ = 100 := by
    rw [FiniteDouble.toRat_of_nonneg rfl, magnitude_natCast, Nat.cast_ofNat]
  have hmul := Double.mul_eq_rounded (x := quotientOf total count) (y := ⟨false, 100, 0⟩) rfl rfl
    (by rw [hhundred]; exact (quotientOf_mul_le ht h).trans hundred_le_two_zpow)
  rw [hhundred] at hmul
  exact hmul

theorem roundPlaces_eq_percentOf (ht : 0 < total) (h : count ≤ total) :
    (Double.finite (productOf total count)).roundPlaces 2 = .finite (percentOf total count) := by
  have hratio : (hundredths (productOf total count) : ℚ) / (10 ^ 2 : Nat) =
      hundredths (productOf total count) / 100 := by norm_num
  have hround := Double.ofRatio_eq_rounded false (hundredths (productOf total count))
    (show 10 ^ 2 ≠ 0 by decide)
    (hratio.trans_le ((hundredths_productOf_le ht h).trans hundred_le_two_zpow))
  rw [hratio] at hround
  exact hround

theorem share_eq_percentOf (ht : 0 < total) (h : count ≤ total) :
    share total count = .finite (percentOf total count) := by
  rw [share, ofRatio_eq_quotientOf ht h, mul_eq_productOf ht h, roundPlaces_eq_percentOf ht h]

/-- Every count up to the total has a percentage from zero to one hundred, as near to the real one
as two places allow, and no smaller than the one of a smaller count. The faces stay where they
are.

Neither the faces nor their order matter, and the counts need not add up to the total. -/
theorem percentages_accurate {r : Report} {total : Nat} {entries : List (Datum × Nat)}
    (hr : r.counts = entries.map fun e => (e.1, .int e.2)) (htotal : r.totalRolls = .int total)
    (ht : 0 < total) (hcounts : ∀ e ∈ entries, e.2 ≤ total) :
    ∃ p : Nat → FiniteDouble,
      r.percentages = .ok (entries.map fun e => (e.1, .finite (p e.2))) ∧
      (∀ ps, r.percentages = .ok ps → ps.map Prod.fst = r.counts.map Prod.fst) ∧
      (∀ c ≤ total, 0 ≤ (p c).toRat ∧ (p c).toRat ≤ 100 ∧
        |(p c).toRat - 100 * c / total| ≤ 1 / 200 + 1 / 10 ^ 12) ∧
      ∀ c c', c ≤ c' → c' ≤ total → (p c).toRat ≤ (p c').toRat := by
  have hgiven : r.totalRolls.isGiven = true := by
    rw [htotal, Datum.isGiven, bne_iff_ne]
    omega
  have hpercentages : r.percentages =
      .ok (entries.map fun e => (e.1, .finite (percentOf total e.2))) := by
    rw [percentages, if_pos hgiven, hr, htotal, List.mapM_map]
    refine mapM_eq_ok fun e he => ?_
    show (percentage (.int total) (.int e.2) >>= fun p => pure (e.1, p)) = _
    rw [percentage_natCast ht (hcounts e he), share_eq_percentOf ht (hcounts e he)]
    rfl
  refine ⟨percentOf total, hpercentages, fun ps hps => ?_, fun c hc => ?_, fun c c' h _ => ?_⟩
  · rw [hpercentages] at hps
    rw [← Except.ok.inj hps, hr, List.map_map, List.map_map]
    rfl
  · exact ⟨toRat_rounded_nonneg _, toRat_percentOf_le ht hc, abs_percentOf_sub_le ht hc⟩
  · exact percentOf_mono h

/-- Two faces that came up once and twice in three rolls, the later one first. -/
theorem percentages_of_thirds : ∃ r : Report,
    r.counts = [(.int 2, .int 1), (.int 1, .int 2)] ∧ r.totalRolls = .int 3 ∧
    ∃ p : Nat → FiniteDouble,
      r.percentages = .ok [(.int 2, .finite (p 1)), (.int 1, .finite (p 2))] ∧
      |(p 1).toRat - 100 / 3| ≤ 1 / 200 + 1 / 10 ^ 12 ∧ (p 1).toRat ≤ (p 2).toRat := by
  let r : Report := { (default : Report) with
    counts := [(.int 2, .int 1), (.int 1, .int 2)], totalRolls := .int 3 }
  obtain ⟨p, hpercentages, -, haccurate, hmono⟩ :=
    @percentages_accurate r 3 [(.int 2, 1), (.int 1, 2)] rfl rfl (by decide) (by decide)
  refine ⟨r, rfl, rfl, ?_⟩
  exact ⟨p, hpercentages, by simpa using (haccurate 1 (by decide)).2.2,
    hmono 1 2 (by decide) (by decide)⟩

end Dicebox.Report
