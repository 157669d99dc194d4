import Dicebox.Proofs.Number.Nearest

/-!
# Rounding keeps the order

Of two ratios the smaller one is not rounded to the larger double (`nearest_le_nearest`). This is
seen without any binade: each of the two results is at least as near to its own ratio as the other
one is, and if they were in the wrong order, the ratios would be, too.

Where the exponents go the same way (`exponent_roundRatio_le`) is all that it takes to tell what has
a double. Whatever is below a number that has one has one itself.
-/

set_option autoImplicit false

namespace Dicebox.Number

variable {num den num' den' : Nat}

theorem Double.ofRatio_eq_finite_iff {negative : Bool} {x : FiniteDouble} :
    Double.ofRatio negative num den = .finite x ↔
      (roundRatio num den).2 ≤ maxExponent ∧
      x = ⟨negative, (roundRatio num den).1, (roundRatio num den).2⟩ := by
  simp only [Double.ofRatio]
  split
  · next h =>
    rw [Double.finite.injEq]
    exact ⟨fun hx => ⟨h, hx.symm⟩, fun hx => hx.2.symm⟩
  · next h => simp [h]

/-! ## Doubles in order

Nothing is said about equal ratios here. Two naturals may denote one ratio in many ways, and that
all of these are rounded alike is not a matter of order. -/

theorem IsCanonical.exponent_le {m n : Nat} {e f : Int} (hm : IsCanonical m e)
    (hn : IsCanonical n f) (h : magnitude m e ≤ magnitude n f) : e ≤ f := by
  by_contra hlt
  have hnormal : (2 : ℚ) ^ (52 : Int) ≤ m := by
    have := hm.normal (Int.lt_of_le_of_lt hn.le (Int.lt_of_not_ge hlt))
    exact_mod_cast this
  have hn' : (n : ℚ) < 2 ^ (53 : Int) := by exact_mod_cast hn.lt
  have hgt : magnitude n f < magnitude m e := by
    calc magnitude n f < 2 ^ (53 : Int) * 2 ^ f :=
          mul_lt_mul_of_pos_right hn' (two_zpow_pos f)
      _ = 2 ^ (f + 53) := by rw [← zpow_add₀ two_ne_zero, add_comm]
      _ ≤ 2 ^ (e + 52) := zpow_le_zpow_right₀ one_le_two (by omega)
      _ = 2 ^ (52 : Int) * 2 ^ e := by rw [← zpow_add₀ two_ne_zero, add_comm]
      _ ≤ magnitude m e := mul_le_mul_of_nonneg_right hnormal (two_zpow_pos e).le
  exact absurd h (not_le.mpr hgt)

/-- The smaller ratio is not rounded to the larger double.

If it were, then each ratio would be on its own side of the middle between the two doubles: the
smaller one above the middle, and the larger one below. -/
theorem nearest_le_nearest (hden : den ≠ 0) (hden' : den' ≠ 0)
    (h : (num : ℚ) / den < num' / den') : nearest num den ≤ nearest num' den' := by
  by_contra hlt
  have hcanon := isCanonical_roundRatio num hden
  have hcanon' := isCanonical_roundRatio num' hden'
  -- Each result is the nearest double to its ratio, and the other one is a double, too.
  have hnear : |nearest num den - num / den| ≤ |nearest num' den' - num / den| :=
    abs_nearest_sub_le_of_lt num hden hcanon'.lt hcanon'.le
  have hnear' : |nearest num' den' - num' / den'| ≤ |nearest num den - num' / den'| :=
    abs_nearest_sub_le_of_lt num' hden' hcanon.lt hcanon.le
  rw [← sq_le_sq] at hnear hnear'
  have hgap : 0 < nearest num den - nearest num' den' := sub_pos.mpr (not_le.mp hlt)
  have hmiddle : nearest num den + nearest num' den' ≤ 2 * (num / den) := by
    by_contra hc
    have := mul_pos hgap (sub_pos.mpr (not_le.mp hc))
    linarith
  have hmiddle' : 2 * ((num' : ℚ) / den') ≤ nearest num den + nearest num' den' := by
    by_contra hc
    have := mul_pos hgap (sub_pos.mpr (not_le.mp hc))
    linarith
  linarith

theorem exponent_roundRatio_le (hden : den ≠ 0) (hden' : den' ≠ 0)
    (h : (num : ℚ) / den < num' / den') : (roundRatio num den).2 ≤ (roundRatio num' den').2 :=
  (isCanonical_roundRatio num hden).exponent_le (isCanonical_roundRatio num' hden')
    (nearest_le_nearest hden hden' h)

/-! ## What has a double

A ratio has a double if the exponent that it is rounded with is not too large. The rounding comes
first: a ratio above all doubles has one if it is rounded down to the largest. -/

namespace Double

theorem isSome_finite?_ofRatio {negative : Bool} :
    (ofRatio negative num den).finite?.isSome ↔ (roundRatio num den).2 ≤ maxExponent := by
  simp only [ofRatio]
  split
  · next h => simp [finite?, h]
  · next h => simp [finite?, h]

theorem eq_finite_of_finite? {x : Double} {y : FiniteDouble} (h : x.finite? = some y) :
    x = .finite y := by
  cases x with
  | finite z => rw [Option.some.inj h]
  | infinite negative => cases h
  | undefined negative => cases h

theorem ofInt?_eq (n : Nat) : ofInt? n = (ofRatio false n 1).finite? := by
  rw [ofInt?, decide_eq_false (Int.not_lt.mpr (Int.natCast_nonneg n)), Int.natAbs_natCast]

theorem isSome_ofInt?_natCast {n : Nat} :
    (ofInt? n).isSome ↔ (roundRatio n 1).2 ≤ maxExponent := by
  rw [ofInt?_eq, isSome_finite?_ofRatio]

theorem isSome_ofInt?_of_le {m : Nat} {n : Int} (h : m ≤ n) (hn : (ofInt? n).isSome) :
    (ofInt? m).isSome := by
  obtain ⟨n, rfl⟩ := Int.eq_ofNat_of_zero_le (Int.le_trans (Int.natCast_nonneg m) h)
  rcases Int.le_iff_eq_or_lt.mp h with heq | hlt
  · rw [heq]
    exact hn
  · rw [isSome_ofInt?_natCast] at hn ⊢
    refine Int.le_trans (exponent_roundRatio_le one_ne_zero one_ne_zero ?_) hn
    rw [Nat.cast_one, div_one, div_one]
    exact_mod_cast hlt

/-- The numbers that have a double end half a unit above the largest one: the half itself would be
rounded to an even number that is too large. -/
theorem isSome_ofInt?_iff {n : Nat} : (ofInt? n).isSome ↔ n < 2 ^ 1024 - 2 ^ 970 := by
  constructor
  · intro hn
    by_contra hge
    have hnone : ofInt? ((2 ^ 1024 - 2 ^ 970 : Nat) : Int) = none := by decide +kernel
    have hsome := isSome_ofInt?_of_le (Int.ofNat_le.mpr (Nat.not_lt.mp hge)) hn
    rw [hnone] at hsome
    cases hsome
  · intro hn
    have hlast : (ofInt? ((2 ^ 1024 - 2 ^ 970 - 1 : Nat) : Int)).isSome := by decide +kernel
    exact isSome_ofInt?_of_le (Int.ofNat_le.mpr (Nat.le_sub_one_of_lt hn)) hlast

theorem quotient?_eq (a b : Nat) : quotient? a b = (ofRatio false a b).finite? := by
  have hneg : ∀ n : Nat, decide ((n : Int) < 0) = false :=
    fun n => decide_eq_false (Int.not_lt.mpr (Int.natCast_nonneg n))
  rw [quotient?, hneg, hneg, Int.natAbs_natCast, Int.natAbs_natCast]
  rfl

theorem isSome_quotient?_of_le {a b : Nat} (hb : 0 < b) (h : a ≤ b) : (quotient? a b).isSome := by
  rw [quotient?_eq, isSome_finite?_ofRatio]
  -- The share is at most one, and so below two, which has a double.
  have htwo : (roundRatio 2 1).2 ≤ maxExponent := by decide
  refine Int.le_trans (exponent_roundRatio_le (Nat.ne_of_gt hb) one_ne_zero ?_) htwo
  have hle : (a : ℚ) / b ≤ 1 := (div_le_one (Nat.cast_pos.mpr hb)).mpr (Nat.cast_le.mpr h)
  norm_num
  linarith

theorem isSome_quotient?_of_isSome_ofInt? {a b : Nat} (hb : 0 < b) (ha : (ofInt? a).isSome) :
    (quotient? a b).isSome := by
  rw [isSome_ofInt?_natCast] at ha
  rw [quotient?_eq, isSome_finite?_ofRatio]
  rcases Nat.eq_zero_or_pos a with rfl | hpos
  · rw [roundRatio, if_pos rfl]
    decide
  · rcases Nat.eq_or_lt_of_le (Nat.succ_le_of_lt hb) with hone | hmany
    · rw [← hone]
      exact ha
    · refine Int.le_trans (exponent_roundRatio_le (Nat.ne_of_gt hb) one_ne_zero ?_) ha
      rw [Nat.cast_one, div_one]
      exact div_lt_self (Nat.cast_pos.mpr hpos) (by exact_mod_cast hmany)

end Double

end Dicebox.Number
