import Dicebox.Proofs.Number.Operations
import Dicebox.Proofs.Report.Tabulation

/-!
# The largest deviation is that of an extreme

How far a count is from the mean is rounded twice, as a difference and as a quotient, and the mean
has been rounded before. Neither changes which count is farther away. Distances from the mean fall
up to it and rise from there on, whether or not it is exact, and rounding keeps the order of what is
not negative; so a count between two others is not farther from the mean than both of them
(`relative_le_max`), and

> **the largest deviation is the one of the least or of the greatest count.**

It is zero only if all counts are the same. Then the mean is this count, exactly. If they are not,
there is a count other than the mean, and the difference is not lost: count and mean are multiples
of one power of two, which is far above the subnormal numbers (`le_abs_sub`). All this is about
counts below `2 ^ 53`; larger ones are no doubles any more, and two of them may become one.
-/

set_option autoImplicit false

namespace Dicebox.Report

open Number

/-- The double that a count's distance from the mean comes to, in relation to the mean: difference
and quotient are rounded, each on its own.

It is said by what rounding has to do and not by how it is done, so that the definition stays right
whatever way of rounding is used. The mean is taken as it is, after its own rounding. -/
def IsDeviation (mean : FiniteDouble) (count : Nat) (d : FiniteDouble) : Prop :=
  ∃ x, IsRounded (count - mean.toRat) x ∧ IsRounded (|x.toRat| / mean.toRat) d

/-! ## The largest of some doubles

The comparison goes through the deviations with one of them in hand, and gives it up only for one
that is larger. All of them are finite here, so any two of them compare. -/

/-- Going through doubles with the larger one in hand leaves one of them that none is above.

The claim is about what the doubles belong to rather than about the doubles, because it is the count
of the largest deviation that is looked for. -/
theorem exists_foldl_larger {α : Type} (f : α → FiniteDouble) (first : α) (others : List α) :
    ∃ a ∈ first :: others,
      (others.map fun b => Double.finite (f b)).foldl larger (.finite (f first)) =
        .finite (f a) ∧
      ∀ b ∈ first :: others, (f b).toRat ≤ (f a).toRat := by
  -- By the list, for any first one: it may be replaced at every step.
  induction others generalizing first with
  | nil => exact ⟨first, List.mem_cons_self, rfl, by simp⟩
  | cons second others ih =>
    rw [List.map_cons, List.foldl_cons, larger]
    split
    · next hlt =>
      obtain ⟨a, ha, hfold, hmax⟩ := ih second
      have hfirst := (Double.lt_finite.mp hlt).le.trans (hmax second List.mem_cons_self)
      exact ⟨a, List.mem_cons_of_mem _ ha, hfold, List.forall_mem_cons.mpr ⟨hfirst, hmax⟩⟩
    · next hge =>
      obtain ⟨a, ha, hfold, hmax⟩ := ih first
      have hsecond : (f second).toRat ≤ (f first).toRat :=
        not_lt.mp fun hlt => hge (Double.lt_finite.mpr hlt)
      obtain ⟨hfirst, hothers⟩ := List.forall_mem_cons.mp hmax
      refine ⟨a, ?_, hfold, ?_⟩
      · rcases List.mem_cons.mp ha with rfl | ha
        · exact List.mem_cons_self
        · exact List.mem_cons_of_mem _ (List.mem_cons_of_mem _ ha)
      · exact List.forall_mem_cons.mpr
          ⟨hfirst, List.forall_mem_cons.mpr ⟨hsecond.trans hfirst, hothers⟩⟩

/-! ## The distance from a mean

With fewer than `2 ^ 53` dice of at most as many sides, the mean is between `2 ^ -53` and `2 ^ 53`.
That is all that has to be known about it to see that no distance from it, and no quotient of such a
distance, is lost among the subnormal numbers or beyond the largest double. -/

/-- The double nearest to the distance from a mean. In the program the sign is taken off after the
rounding, which makes no difference, since rounding does not see it. -/
def apart (mean : FiniteDouble) (count : Nat) : FiniteDouble := rounded |count - mean.toRat|

/-- The double nearest to this distance in relation to the mean. -/
def relative (mean : FiniteDouble) (count : Nat) : FiniteDouble :=
  rounded ((apart mean count).toRat / mean.toRat)

variable {mean : FiniteDouble} {count least greatest : Nat}

theorem relative_nonneg : 0 ≤ (relative mean count).toRat := toRat_rounded_nonneg _

theorem quotient_eq_zero (h : (count : ℚ) = mean.toRat) :
    (apart mean count).toRat / mean.toRat = 0 := by
  rw [apart, h, sub_self, abs_zero, toRat_rounded_zero, zero_div]

theorem relative_eq_zero (h : (count : ℚ) = mean.toRat) : relative mean count = .zero := by
  rw [relative, quotient_eq_zero h, rounded_zero]

/-- A mean that is neither so small nor so large that a distance from it could be lost. -/
structure IsModerate (mean : FiniteDouble) : Prop where
  unsigned : mean.negative = false
  bits : mean.mantissa < 2 ^ precision
  low : (2 : ℚ) ^ (-53 : Int) ≤ mean.toRat
  high : mean.toRat ≤ 2 ^ (53 : Int)

theorem le_ratio {n k : Nat} (hn : 0 < n) (hk : 0 < k) (hle : k ≤ 2 ^ 53) {e : Int}
    (he : e ≤ -53) : (2 : ℚ) ^ e ≤ n / k := by
  have hone : (1 : ℚ) ≤ n := by exact_mod_cast hn
  have hsides : (k : ℚ) ≤ 2 ^ (53 : Int) := by exact_mod_cast hle
  refine (zpow_le_zpow_right₀ one_le_two he).trans ?_
  rw [zpow_neg, inv_eq_one_div]
  exact div_le_div₀ (zero_le_one.trans hone) hone (Nat.cast_pos.mpr hk) hsides

theorem ratio_le {n k : Nat} (hlt : n < 2 ^ 53) (hk : 0 < k) : (n : ℚ) / k ≤ 2 ^ (53 : Int) := by
  have hcount : (n : ℚ) ≤ 2 ^ (53 : Int) := by exact_mod_cast hlt.le
  exact (div_le_self (Nat.cast_nonneg n) (by exact_mod_cast hk)).trans hcount

theorem isModerate_rounded {n k : Nat} (hn : 0 < n) (hlt : n < 2 ^ 53) (hk : 0 < k)
    (hle : k ≤ 2 ^ 53) : IsModerate (rounded (n / k)) := by
  refine ⟨rfl, (isCanonical_roundRatio _ (Rat.den_nz _)).lt, ?_, ?_⟩
  · exact two_zpow_le_rounded (by decide) (le_ratio hn hk hle le_rfl)
  · exact rounded_le_two_zpow (by decide) (by positivity) (ratio_le hlt hk)

/-- A count and a mean that is not too small are multiples of one power of two, so they are at least
that far apart if they are not the same.

Otherwise a count might be so near to the mean that the deviation is rounded to zero, and a report
would claim that the faces came up evenly when they did not. -/
theorem le_abs_sub {m : Nat} {e : Int} (hm : m < 2 ^ precision)
    (hlow : (2 : ℚ) ^ (-53 : Int) ≤ magnitude m e)
    (hne : (count : ℚ) ≠ magnitude m e) :
    (2 : ℚ) ^ (-105 : Int) ≤ |count - magnitude m e| := by
  have he : -105 ≤ e := by
    have hm' : (m : ℚ) < 2 ^ (53 : Int) := by exact_mod_cast hm
    have hpower : (2 : ℚ) ^ (-53 : Int) < 2 ^ (53 + e) := by
      rw [zpow_add₀ two_ne_zero]
      exact hlow.trans_lt (mul_lt_mul_of_pos_right hm' (two_zpow_pos e))
    have := (zpow_lt_zpow_iff_right₀ one_lt_two).mp hpower
    omega
  obtain ⟨a, ha⟩ := exists_units_of_le count (show (-105 : Int) ≤ 0 by decide)
  obtain ⟨b, hb⟩ := exists_units_of_le m he
  rw [magnitude_natCast] at ha
  rw [← ha, ← hb] at hne ⊢
  have hunits : (1 : ℚ) ≤ |(a : ℚ) - b| := by
    have hab : a ≠ b := fun hab => hne (by rw [hab])
    exact_mod_cast Int.one_le_abs (sub_ne_zero.mpr hab)
  rw [← sub_mul, abs_mul, abs_of_pos (two_zpow_pos _)]
  exact le_mul_of_one_le_left (two_zpow_pos _).le hunits

namespace IsModerate

variable (hmean : IsModerate mean)

include hmean

theorem pos : 0 < mean.toRat := (two_zpow_pos _).trans_le hmean.low

theorem le_abs_sub (hne : (count : ℚ) ≠ mean.toRat) :
    (2 : ℚ) ^ (-105 : Int) ≤ |count - mean.toRat| := by
  have hlow := hmean.low
  rw [FiniteDouble.toRat_of_nonneg hmean.unsigned] at hne hlow ⊢
  exact Report.le_abs_sub hmean.bits hlow hne

theorem le_apart (hne : (count : ℚ) ≠ mean.toRat) :
    (2 : ℚ) ^ (-105 : Int) ≤ (apart mean count).toRat :=
  two_zpow_le_rounded (by decide) (hmean.le_abs_sub hne)

theorem abs_sub_le (hcount : count < 2 ^ 53) : |count - mean.toRat| ≤ 2 ^ (53 : Int) := by
  have hcount' : (count : ℚ) ≤ 2 ^ (53 : Int) := by exact_mod_cast hcount.le
  have hpos := hmean.pos
  have hnonneg : (0 : ℚ) ≤ count := Nat.cast_nonneg count
  exact abs_sub_le_of_nonneg_of_le hnonneg hcount' hpos.le hmean.high

theorem apart_le (hcount : count < 2 ^ 53) : (apart mean count).toRat ≤ 2 ^ (53 : Int) :=
  rounded_le_two_zpow (by decide) (abs_nonneg _) (hmean.abs_sub_le hcount)

/-! ## What is calculated

Three operations are done with doubles: the count is made one, the mean is taken away from it, and
the rest is divided by the mean. The first is exact, and the others are rounded. -/

theorem distance_eq (hcount : count < 2 ^ 53) :
    distance (.finite mean) count = .finite (relative mean count) := by
  have hlarge : ∀ {e : Int}, e ≤ 1023 → (2 : ℚ) ^ e ≤ 2 ^ (1023 : Int) :=
    fun he => zpow_le_zpow_right₀ one_le_two he
  have hexact : (rounded ((count : ℚ) / (1 : Nat))).toRat = count := by
    rw [Nat.cast_one, div_one]
    exact rounded_natCast hcount
  have hcast : (count : ℚ) / (1 : Nat) ≤ 2 ^ (53 : Int) := by
    rw [Nat.cast_one, div_one]
    exact_mod_cast hcount.le
  have hsub := Double.sub_eq_rounded (x := rounded ((count : ℚ) / (1 : Nat))) (y := mean) rfl
    (by rw [hexact]; exact (hmean.abs_sub_le hcount).trans (hlarge (by decide)))
  have hdiv := Double.div_eq_rounded (x := apart mean count) rfl hmean.unsigned hmean.pos (by
    rw [div_le_iff₀ hmean.pos]
    calc (apart mean count).toRat ≤ 2 ^ (53 : Int) := hmean.apart_le hcount
      _ = 2 ^ (106 : Int) * 2 ^ (-53 : Int) := by rw [← zpow_add₀ two_ne_zero]; rfl
      _ ≤ 2 ^ (1023 : Int) * mean.toRat :=
        mul_le_mul (hlarge (by decide)) hmean.low (two_zpow_pos _).le (two_zpow_pos _).le)
  rw [hexact] at hsub
  rw [distance, Double.ofRatio_eq_rounded false count one_ne_zero
    (hcast.trans (hlarge (by decide)))]
  show (((Double.finite (rounded ((count : ℚ) / (1 : Nat)))).sub (.finite mean)).abs.div _) = _
  rw [hsub, Double.abs_finite_roundedSigned]
  exact hdiv

theorem le_quotient (hne : (count : ℚ) ≠ mean.toRat) :
    (2 : ℚ) ^ (-158 : Int) ≤ (apart mean count).toRat / mean.toRat := by
  rw [le_div_iff₀ hmean.pos]
  calc (2 : ℚ) ^ (-158 : Int) * mean.toRat ≤ 2 ^ (-158 : Int) * 2 ^ (53 : Int) :=
        mul_le_mul_of_nonneg_left hmean.high (two_zpow_pos _).le
    _ = 2 ^ (-105 : Int) := by rw [← zpow_add₀ two_ne_zero]; rfl
    _ ≤ (apart mean count).toRat := hmean.le_apart hne

theorem quotient_cases : (apart mean count).toRat / mean.toRat = 0 ∨
    (2 : ℚ) ^ (-1021 : Int) ≤ (apart mean count).toRat / mean.toRat := by
  by_cases hsame : (count : ℚ) = mean.toRat
  · exact Or.inl (quotient_eq_zero hsame)
  · exact Or.inr ((zpow_le_zpow_right₀ one_le_two (by decide)).trans (hmean.le_quotient hsame))

theorem isDeviation_relative : IsDeviation mean count (relative mean count) := by
  refine ⟨roundedSigned (count - mean.toRat), isRounded_roundedSigned ?_, ?_⟩
  · by_cases hsame : (count : ℚ) = mean.toRat
    · exact Or.inl (sub_eq_zero.mpr hsame)
    · exact Or.inr ((zpow_le_zpow_right₀ one_le_two (by decide)).trans (hmean.le_abs_sub hsame))
  · rw [abs_toRat_roundedSigned]
    exact isRounded_rounded hmean.quotient_cases

/-! ## Which count is farther away -/

theorem relative_eq_zero_iff : (relative mean count).toRat = 0 ↔ (count : ℚ) = mean.toRat := by
  constructor
  · intro hzero
    have hquotient := (rounded_eq_zero_iff hmean.quotient_cases).mp hzero
    by_contra hne
    exact absurd (hmean.le_quotient hne) (hquotient ▸ not_le.mpr (two_zpow_pos _))
  · intro h
    rw [relative_eq_zero h]
    exact toRat_rounded_zero

theorem relative_mono {other : Nat} (h : |count - mean.toRat| ≤ |other - mean.toRat|) :
    (relative mean count).toRat ≤ (relative mean other).toRat :=
  rounded_mono (div_nonneg (toRat_rounded_nonneg _) hmean.pos.le)
    (div_le_div_of_nonneg_right (rounded_mono (abs_nonneg _) h) hmean.pos.le)

/-- A count between two others is not farther from the mean than both of them: above the mean the
greater one is farther away, and below it the lesser one. -/
theorem relative_le_max (hlow : least ≤ count) (hhigh : count ≤ greatest) :
    (relative mean count).toRat ≤
      max (relative mean greatest).toRat (relative mean least).toRat := by
  have hlow' : (least : ℚ) ≤ count := by exact_mod_cast hlow
  have hhigh' : (count : ℚ) ≤ greatest := by exact_mod_cast hhigh
  rcases le_total mean.toRat count with habove | hbelow
  · refine le_max_of_le_left (hmean.relative_mono ?_)
    rw [abs_of_nonneg (by linarith), abs_of_nonneg (by linarith)]
    linarith
  · refine le_max_of_le_right (hmean.relative_mono ?_)
    rw [abs_of_nonpos (by linarith), abs_of_nonpos (by linarith)]
    linarith

end IsModerate

/-! ## The largest deviation of a report -/

/-- If each face came up equally often, the mean is this count, and it is not changed by rounding.
-/
theorem toRat_mean_of_uniform {n k c : Nat} (hlt : n < 2 ^ 53) (hk : 0 < k) (h : n = c * k) :
    (rounded ((n : ℚ) / k)).toRat = c := by
  have hmean : (n : ℚ) / k = c := by
    rw [h, Nat.cast_mul, mul_div_cancel_right₀ _ (Nat.cast_ne_zero.mpr hk.ne')]
  have hc : c < 2 ^ precision :=
    Nat.lt_of_le_of_lt (h ▸ Nat.le_mul_of_pos_right c hk) hlt
  rw [hmean]
  exact rounded_natCast hc

theorem ofRatio_mean {n k : Nat} (hlt : n < 2 ^ 53) (hk : 0 < k) :
    Double.ofRatio false n k = .finite (rounded (n / k)) :=
  Double.ofRatio_eq_rounded false n hk.ne'
    ((ratio_le hlt hk).trans (zpow_le_zpow_right₀ one_le_two (by decide)))

namespace Tabulates

variable {r : Report} {text : String} {n k : Nat} {count : Nat → Nat}

theorem count_le (h : r.Tabulates text n k count) : ∀ f ∈ List.range' 1 k, count f ≤ n := by
  intro f hf
  rw [← h.sum_counts]
  exact List.le_sum_of_mem (List.mem_map_of_mem hf)

theorem exists_maxDeviation_eq (h : r.Tabulates text n k count) (hn : 0 < n) (hlt : n < 2 ^ 53)
    (hk : 0 < k) (hle : k ≤ 2 ^ 53) :
    ∃ f ∈ List.range' 1 k,
      r.maxDeviation = .ok (.finite (relative (rounded (n / k)) (count f))) ∧
      ∀ g ∈ List.range' 1 k, (relative (rounded (n / k)) (count g)).toRat ≤
        (relative (rounded (n / k)) (count f)).toRat := by
  have hmean := isModerate_rounded hn hlt hk hle
  have hdouble : (Double.ofInt? n).isSome :=
    Double.isSome_ofInt?_iff.mpr (hlt.trans_le (by decide +kernel))
  have hzero : (Double.finite (rounded ((n : ℚ) / k))).isZero = false := by
    refine beq_eq_false_iff_ne.mpr fun hmantissa => hmean.pos.ne' ?_
    rw [FiniteDouble.toRat_of_nonneg rfl, hmantissa, magnitude, Nat.cast_zero, zero_mul]
  have hdistance : ∀ f ∈ List.range' 1 k,
      distance (.finite (rounded (n / k))) (count f) =
        .finite (relative (rounded (n / k)) (count f)) :=
    fun f hf => hmean.distance_eq ((h.count_le f hf).trans_lt hlt)
  -- The loop starts with the first face in hand, so the first face is taken out of the list.
  rw [range'_eq_cons hk] at hdistance
  obtain ⟨hone, hothers⟩ := List.forall_mem_cons.mp hdistance
  have hmax := maxDeviation_eq h.counts h.totalRolls h.count_le h.sides hk hdouble
  rw [ofRatio_mean hlt hk, hzero, List.map_congr_left hothers, hone] at hmax
  obtain ⟨f, hf, hfold, hlargest⟩ := exists_foldl_larger
    (fun f => relative (rounded (n / k)) (count f)) 1 (List.range' 2 (k - 1))
  rw [← range'_eq_cons hk] at hf hlargest
  exact ⟨f, hf, hmax.trans (congrArg Except.ok hfold), hlargest⟩

/-- The least and the greatest count are as far from the mean as any count is.

That the deviation is zero only if all counts are the same goes through the mean. A deviation of
zero makes both extremes the mean, and so each other; and extremes that are each other make every
count, and thereby the mean, the same number. -/
theorem exists_extreme_deviations (h : r.Tabulates text n k count) (hn : 0 < n)
    (hlt : n < 2 ^ 53) (hk : 0 < k) (hle : k ≤ 2 ^ 53) :
    ∃ (least greatest : Nat) (d : FiniteDouble),
      r.minCount = .int least ∧ r.maxCount = .int greatest ∧
      r.maxDeviation = .ok (.finite d) ∧
      d.toRat = max (relative (rounded (n / k)) greatest).toRat
        (relative (rounded (n / k)) least).toRat ∧
      (d = .zero ↔ r.difference = .int 0) := by
  obtain ⟨least, greatest, hmin, hmax, hdifference, hbetween, ⟨fLeast, hfLeast, hleast⟩,
    ⟨fGreatest, hfGreatest, hgreatest⟩, hlow, hhigh⟩ := h.extremes
  obtain ⟨f, hf, hd, hlargest⟩ := h.exists_maxDeviation_eq hn hlt hk hle
  have hmean := isModerate_rounded hn hlt hk hle
  have hmaximum : (relative (rounded (n / k)) (count f)).toRat =
      max (relative (rounded (n / k)) greatest).toRat
        (relative (rounded (n / k)) least).toRat := by
    refine le_antisymm (hmean.relative_le_max (hbetween f hf).1 (hbetween f hf).2)
      (max_le ?_ ?_)
    · exact hgreatest ▸ hlargest fGreatest hfGreatest
    · exact hleast ▸ hlargest fLeast hfLeast
  refine ⟨least, greatest, _, hmin, hmax, hd, hmaximum, ?_⟩
  rw [hdifference, Datum.int.injEq, sub_eq_zero, Int.natCast_inj]
  constructor
  · intro hzero
    rw [hzero, ← rounded_zero, toRat_rounded_zero] at hmaximum
    have hequal : ∀ c, (relative (rounded (n / k)) c).toRat ≤ 0 →
        (c : ℚ) = (rounded (n / k)).toRat := fun c hc =>
      hmean.relative_eq_zero_iff.mp (le_antisymm hc relative_nonneg)
    have hsame := (hequal greatest ((le_max_left _ _).trans hmaximum.ge)).trans
      (hequal least ((le_max_right _ _).trans hmaximum.ge)).symm
    exact_mod_cast hsame
  · intro hsame
    have hcount : count f = least := by
      have := hbetween f hf
      omega
    have huniform : n = least * k := Nat.le_antisymm (hsame ▸ hhigh) hlow
    rw [hcount]
    exact relative_eq_zero (toRat_mean_of_uniform hlt hk huniform).symm

theorem difference_eq_zero_iff (h : r.Tabulates text n k count) :
    r.difference = .int 0 ↔ ∃ c, ∀ e ∈ r.counts, e.2 = .int c := by
  obtain ⟨least, greatest, -, -, hdifference, hbetween, ⟨f, hf, hleast⟩, ⟨g, hg, hgreatest⟩, -⟩ :=
    h.extremes
  rw [hdifference, Datum.int.injEq, h.counts]
  constructor
  · intro hsame
    refine ⟨least, fun e he => ?_⟩
    obtain ⟨f, hf, rfl⟩ := List.mem_map.mp he
    have := hbetween f hf
    exact congrArg Datum.int (by omega)
  · rintro ⟨c, hc⟩
    have hf' := Datum.int.inj (hc _ (List.mem_map_of_mem hf))
    have hg' := Datum.int.inj (hc _ (List.mem_map_of_mem hg))
    omega

end Tabulates

/-- Where there is a report, whatever the draws were, it tabulates a throw. Draws outside the unit
interval may give faces that the dice do not have, but on such a face there is no report. -/
theorem tabulates_of_reportText {given : Datum} {limits : Limits} {s : Source} {r : Report}
    (h : (reportText given limits s).1.result = .ok r) :
    ∃ o : Outcome, r.Tabulates o.thrown.label o.thrown.dieCount o.thrown.sides
      fun f => o.faces.count (f : Int) := by
  rw [reportText_fst] at h
  obtain ⟨o, ho, hof⟩ := of_of_reportOn h
  have hfaces := mem_of_of hof
  rw [of_eq hfaces] at hof
  rw [← Except.ok.inj hof]
  exact ⟨o, tabulates_ofCounts (length_faces_of_evaluateText ho) hfaces⟩

/-- **The largest deviation is the one of an extreme count, and zero only if all counts are the
same.** However long the throw took.

It is a statement about any report on a throw, on any draws. Dice and sides are bounded because
counts from `2 ^ 53` on are not all doubles, so that two different counts may have one deviation. -/
theorem maxDeviation_extremes {given : Datum} {limits : Limits} {s : Source} {r : Report}
    {n k : Nat} (h : (reportText given limits s).1.result = .ok r) (hn : r.totalRolls = .int n)
    (hk : r.sides = .int k) (hlt : n < 2 ^ 53) (hle : k ≤ 2 ^ 53) :
    ∃ (least greatest : Nat) (mean low high d : FiniteDouble),
      r.minCount = .int least ∧ r.maxCount = .int greatest ∧
      IsRounded ((n : ℚ) / k) mean ∧ IsDeviation mean least low ∧
      IsDeviation mean greatest high ∧
      (∀ elapsed, ({ r with elapsed } : Report).maxDeviation = .ok (.finite d)) ∧
      d.toRat = max high.toRat low.toRat ∧
      (d = .zero ↔ r.difference = .int 0) ∧
      (r.difference = .int 0 ↔ ∃ c, ∀ e ∈ r.counts, e.2 = .int c) := by
  obtain ⟨o, htable⟩ := tabulates_of_reportText h
  obtain rfl : o.thrown.dieCount = n :=
    Int.ofNat.inj (Datum.int.inj (htable.totalRolls.symm.trans hn))
  obtain rfl : o.thrown.sides = k := Int.ofNat.inj (Datum.int.inj (htable.sides.symm.trans hk))
  have hn' := o.thrown.dieCount_pos
  have hk' := o.thrown.sides_pos
  have hmean := isModerate_rounded hn' hlt hk' hle
  obtain ⟨least, greatest, d, hmin, hmax, hd, hmaximum, hzero⟩ :=
    htable.exists_extreme_deviations hn' hlt hk' hle
  exact ⟨least, greatest, rounded (o.thrown.dieCount / o.thrown.sides), _, _, d, hmin, hmax,
    isRounded_rounded (Or.inr (le_ratio hn' hk' hle (by decide))), hmean.isDeviation_relative,
    hmean.isDeviation_relative, fun _ => hd, hmaximum, hzero, htable.difference_eq_zero_iff⟩

/-- Three coins of which one shows its second side: the mean is between the two counts. -/
theorem maxDeviation_of_three_coins :
    let s : Source := .scripted ([0, 2 ^ 52, 1].map fun k => .ok (.fraction k))
    ∃ r : Report, (reportText (.text "3d2") {} s).1.result = .ok r ∧
      r.totalRolls = .int 3 ∧ r.sides = .int 2 ∧ r.minCount = .int 1 ∧ r.maxCount = .int 2 ∧
      ∃ mean low high d : FiniteDouble,
        IsRounded ((3 : Nat) / (2 : Nat)) mean ∧ IsDeviation mean 1 low ∧
        IsDeviation mean 2 high ∧ r.maxDeviation = .ok (.finite d) ∧
        d.toRat = max high.toRat low.toRat ∧ d ≠ .zero := by
  intro s
  have hthrown : (evaluateText false (.text "3d2") {} s).1.result.toOption.map
      (fun o => (o.faces, o.thrown.sides)) = some ([1, 2, 1], 2) := by decide +kernel
  obtain ⟨o, hresult, hfields⟩ := exists_of_map_toOption hthrown
  obtain ⟨hfaces, hsides⟩ := Prod.mk.inj hfields
  have hof : of o = .ok (ofCounts o (faceCounts 2 [1, 2, 1])) := by
    rw [of_eq (by rw [hfaces, hsides]; decide), hfaces, hsides]
  have hreport : (reportText (.text "3d2") {} s).1.result =
      .ok (ofCounts o (faceCounts 2 [1, 2, 1])) := by
    rw [reportText_fst, reportOn_of_ok hresult hof]
  have htotal : (ofCounts o (faceCounts 2 [1, 2, 1])).totalRolls = .int 3 := by
    rw [ofCounts, hfaces]
    rfl
  have htwo : (ofCounts o (faceCounts 2 [1, 2, 1])).sides = .int 2 := by
    rw [ofCounts, hsides]
    rfl
  obtain ⟨least, greatest, mean, low, high, d, hmin, hmax, hmean, hlow, hhigh, hd, hmaximum,
    hzero, -⟩ := maxDeviation_extremes hreport htotal htwo (by decide) (by decide)
  have hone : (ofCounts o (faceCounts 2 [1, 2, 1])).difference = .int 1 := rfl
  rw [hone] at hzero
  obtain rfl : 1 = least := Int.ofNat.inj (Datum.int.inj hmin)
  obtain rfl : 2 = greatest := Int.ofNat.inj (Datum.int.inj hmax)
  refine ⟨_, hreport, htotal, htwo, rfl, rfl, mean, low, high, d, hmean, hlow, hhigh,
    hd (.finite .zero), hmaximum, fun hnone => ?_⟩
  exact absurd (Datum.int.inj (hzero.mp hnone)) (by decide)

end Dicebox.Report
