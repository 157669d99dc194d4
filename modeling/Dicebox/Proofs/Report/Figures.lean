import Dicebox.Proofs.Number.Order
import Dicebox.Proofs.Run.Results
import Dicebox.Report

/-!
# The figures of a report

Percentages and deviations are quotients, and a quotient can fail: for a divisor of zero, or because
it is too large for a double. Neither happens to the figures of a throw. A percentage is a part of
the rolls over all of them, so it is never above one (`percentage_natCast`). The mean is not above
the number of rolls, and no count is, so a deviation can be calculated if that number has a double
(`exists_maxDeviation`). Dice without one are at least `2 ^ 1023`, and nobody will ever have rolled
them all.
-/

set_option autoImplicit false

namespace Dicebox.Report

open Number

/-! ## Percentages

Figures are data of any kind, and dividing them may fail in several ways. What is shown here is that
natural numbers never do, as long as the quotient has a double. -/

/-- A count in percent of a total other than zero, to two places. It is a function of the two
numbers, whatever face the count belongs to. -/
def share (total count : Nat) : Double :=
  ((Double.ofRatio false count total).mul (.finite ⟨false, 100, 0⟩)).roundPlaces 2

theorem divide_natCast {a b : Nat} (hb : 0 < b) (h : (Double.quotient? a b).isSome) :
    (Datum.int a).divide (.int b) = .ok (Double.ofRatio false a b) := by
  obtain ⟨x, hx⟩ := Option.isSome_iff_exists.mp h
  have hratio : Double.ofRatio false a b = .finite x := by
    rw [Double.quotient?_eq] at hx
    exact Double.eq_finite_of_finite? hx
  rw [Datum.divide_int _ _ (by omega), hx, hratio]
  rfl

theorem percentage_natCast {total count : Nat} (ht : 0 < total) (h : count ≤ total) :
    percentage (.int total) (.int count) = .ok (share total count) := by
  rw [percentage, divide_natCast ht (Double.isSome_quotient?_of_le ht h)]
  rfl

/-! ## Deviations -/

/-- The distance of a count from a mean, relative to the mean. -/
def distance (mean : Double) (count : Nat) : Double :=
  ((Double.ofRatio false count 1).sub mean).abs.div mean

theorem deviation_natCast {count : Nat} (mean : Double) (h : (Double.ofInt? count).isSome) :
    deviation mean (.int count) = .ok (distance mean count) := by
  obtain ⟨x, hx⟩ := Option.isSome_iff_exists.mp h
  have hdouble : (Numeric.int count).toDouble = .ok (.finite x) := by rw [Numeric.toDouble, hx]
  have hratio : Double.ofRatio false count 1 = .finite x := by
    rw [Double.ofInt?_eq] at hx
    exact Double.eq_finite_of_finite? hx
  have hminus : (Datum.int count).minus mean = .ok ((Double.finite x).sub mean) := by
    show (Numeric.int count).toDouble >>= (fun x => pure (x.sub mean)) = _
    rw [hdouble]
    rfl
  rw [deviation, hminus, distance, hratio]
  rfl

/-! ## The report of a throw

Nothing is used of a report but its counts, which are those of the faces from one on, and its total,
which no count is above. So what follows holds of reports that were put together in another way,
too. -/

theorem range'_eq_cons {sides : Nat} (hs : 0 < sides) :
    List.range' 1 sides = 1 :: List.range' 2 (sides - 1) := by
  obtain ⟨k, rfl⟩ := Nat.exists_eq_succ_of_ne_zero (Nat.ne_of_gt hs)
  exact List.range'_succ

section

variable {n sides : Nat} {counts : Nat → Nat} {r : Report}
  (hr : r.counts = (List.range' 1 sides).map fun f : Nat => (.int f, .int (counts f)))
  (htotal : r.totalRolls = .int n) (hcounts : ∀ f ∈ List.range' 1 sides, counts f ≤ n)

include hr htotal hcounts

theorem percentages_eq (hn : 0 < n) : r.percentages =
    .ok ((List.range' 1 sides).map fun f : Nat => (.int f, share n (counts f))) := by
  have hgiven : r.totalRolls.isGiven = true := by
    rw [htotal, Datum.isGiven, bne_iff_ne]
    omega
  rw [percentages, if_pos hgiven, hr, htotal, List.mapM_map]
  refine mapM_eq_ok fun f hf => ?_
  show (percentage (.int n) (.int (counts f)) >>= fun p => pure (Datum.int f, p)) = _
  rw [percentage_natCast hn (hcounts f hf)]
  rfl

theorem lines_eq (hn : 0 < n) : r.lines =
    .ok (((List.range' 1 sides).map fun f : Nat =>
      faceLine (.int f) (.int (counts f)) (share n (counts f))) ++ r.summaryLines) := by
  rw [lines, percentages_eq hr htotal hcounts hn, hr]
  show Except.ok (_ ++ r.summaryLines) = _
  rw [List.zipWith_map, List.zipWith_self]

/-- The deviations are compared in the order of the faces, beginning with the first one in hand. If
the mean is rounded to zero nothing is compared, and the largest deviation is zero. -/
theorem maxDeviation_eq (hsides : r.sides = .int sides) (hs : 0 < sides)
    (hdouble : (Double.ofInt? n).isSome) :
    r.maxDeviation = .ok
      (if (Double.ofRatio false n sides).isZero then .finite .zero
      else ((List.range' 2 (sides - 1)).map fun f : Nat =>
        distance (Double.ofRatio false n sides) (counts f)).foldl larger
          (distance (Double.ofRatio false n sides) (counts 1))) := by
  have hmean : r.totalRolls.divide r.sides = .ok (Double.ofRatio false n sides) := by
    rw [htotal, hsides]
    exact divide_natCast hs (Double.isSome_quotient?_of_isSome_ofInt? hs hdouble)
  generalize Double.ofRatio false n sides = mean at hmean ⊢
  have hdeviations : r.counts.mapM (fun e => deviation mean e.2) =
      .ok ((List.range' 1 sides).map fun f : Nat => distance mean (counts f)) := by
    rw [hr, List.mapM_map]
    refine mapM_eq_ok fun f hf => deviation_natCast mean ?_
    exact Double.isSome_ofInt?_of_le (Int.ofNat_le.mpr (hcounts f hf)) hdouble
  -- There is a first face, so the case of no counts does not arise.
  rw [range'_eq_cons hs, List.map_cons] at hdeviations
  rw [maxDeviation, hmean]
  simp only [bind, Except.bind, hdeviations]
  split
  · rfl
  · rfl

theorem exists_maxDeviation (hsides : r.sides = .int sides) (hs : 0 < sides)
    (hdouble : (Double.ofInt? n).isSome) :
    ∃ d, r.maxDeviation = .ok d :=
  ⟨_, maxDeviation_eq hr htotal hcounts hsides hs hdouble⟩

end

end Dicebox.Report
