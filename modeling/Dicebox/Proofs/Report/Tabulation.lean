import Dicebox.Proofs.Report.Figures
import Dicebox.Proofs.Report.Reporting

/-!
# A report is a tabulation of its throw

What a report has to say is fixed by the faces of the throw, and `Report.Tabulates` spells it out:
the faces in order, each with the number of its places; figures that are the extremes of these
counts; and percentages, lines and deviations that are all there. The counts add up to the number of
dice, which is why the mean is between the extremes: so many sides times the least count are not
more than all dice, and so many times the greatest are not less.

> **Whoever asks for a report gets the throw, tabulated, or the fault that ended it.**

Nothing is thrown twice, and nothing is drawn or entered that the throw by itself would not have
drawn and entered.
-/

set_option autoImplicit false

namespace Dicebox

open Number

namespace Report

/-! ## Extremes

That the mean is between the extremes is said without the mean: dividing by the number of sides
would only bring in a rounding. -/

theorem exists_extremes {counts : List Nat} (h : counts ≠ []) :
    (∃ least, counts.min? = some least ∧ least ∈ counts ∧ (∀ c ∈ counts, least ≤ c) ∧
      least * counts.length ≤ counts.sum) ∧
    (∃ greatest, counts.max? = some greatest ∧ greatest ∈ counts ∧ (∀ c ∈ counts, c ≤ greatest) ∧
      counts.sum ≤ greatest * counts.length) := by
  constructor
  · obtain ⟨least, hleast⟩ := Option.isSome_iff_exists.mp (List.isSome_min?_iff.mpr h)
    obtain ⟨hmem, hle⟩ := List.min?_eq_some_iff.mp hleast
    have hsum := List.card_nsmul_le_sum counts least hle
    rw [nsmul_eq_mul, Nat.cast_id, Nat.mul_comm] at hsum
    exact ⟨least, hleast, hmem, hle, hsum⟩
  · obtain ⟨greatest, hgreatest⟩ := Option.isSome_iff_exists.mp (List.isSome_max?_iff.mpr h)
    obtain ⟨hmem, hle⟩ := List.max?_eq_some_iff.mp hgreatest
    have hsum := List.sum_le_card_nsmul counts greatest hle
    rw [nsmul_eq_mul, Nat.cast_id, Nat.mul_comm] at hsum
    exact ⟨greatest, hgreatest, hmem, hle, hsum⟩

/-! ## The tabulation

All that a report says is determined by how often each face came up. The time that the throw took is
the only thing in it that is not, and the lines are given for any such time. -/

/-- What a report on a throw of `n` dice with `s` sides says, given how often each face came up. -/
structure Tabulates (r : Report) (text : String) (n s : Nat) (count : Nat → Nat) : Prop where
  label : r.label = .text text
  sides : r.sides = .int s
  counts : r.counts = (List.range' 1 s).map fun f : Nat => (.int f, .int (count f))
  totalRolls : r.totalRolls = .int n
  sum_counts : ((List.range' 1 s).map count).sum = n
  extremes : ∃ least greatest : Nat,
    r.minCount = .int least ∧ r.maxCount = .int greatest ∧
    r.difference = .int ((greatest : Int) - least) ∧
    (∀ f ∈ List.range' 1 s, least ≤ count f ∧ count f ≤ greatest) ∧
    (∃ f ∈ List.range' 1 s, count f = least) ∧
    (∃ f ∈ List.range' 1 s, count f = greatest) ∧
    least * s ≤ n ∧ n ≤ greatest * s
  percentages : r.percentages =
    .ok ((List.range' 1 s).map fun f : Nat => (.int f, share n (count f)))
  /-- However long the throw took. -/
  lines (elapsed : Double) : ({ r with elapsed } : Report).lines =
    .ok (((List.range' 1 s).map fun f : Nat =>
      faceLine (.int f) (.int (count f)) (share n (count f))) ++
      ({ r with elapsed } : Report).summaryLines)
  /-- No list is so long that its length has no double. -/
  maxDeviation : (Double.ofInt? n).isSome → ∃ d, r.maxDeviation = .ok d

theorem counts_ofCounts (o : Outcome) :
    (ofCounts o (faceCounts o.thrown.sides o.faces)).counts =
      (List.range' 1 o.thrown.sides).map fun f : Nat =>
        (.int f, .int (o.faces.count (f : Int))) := by
  refine List.ext_getElem (by simp [ofCounts]) fun i hi hi' => ?_
  have hface : (i : Int) + 1 = ((1 + i : Nat) : Int) := by omega
  simp [ofCounts, faceCounts, hface]

/-- The report of a throw whose faces are all known tabulates it, whether or not the faces were
rolled: nothing is asked of them but their number, and that the dice have them. -/
theorem tabulates_ofCounts {o : Outcome} (hlength : o.faces.length = o.thrown.dieCount)
    (h : ∀ f ∈ o.faces, 1 ≤ f ∧ f ≤ (o.thrown.sides : Int)) :
    (ofCounts o (faceCounts o.thrown.sides o.faces)).Tabulates o.thrown.label o.thrown.dieCount
      o.thrown.sides fun f => o.faces.count (f : Int) := by
  have htotal : (ofCounts o (faceCounts o.thrown.sides o.faces)).totalRolls =
      .int o.thrown.dieCount := by rw [← hlength]; rfl
  have hcounts : ∀ f ∈ List.range' 1 o.thrown.sides,
      o.faces.count (f : Int) ≤ o.thrown.dieCount := fun f _ => by
    rw [← hlength]
    exact List.count_le_length
  have hsum : (faceCounts o.thrown.sides o.faces).sum = o.thrown.dieCount := by
    rw [sum_faceCounts h, hlength]
  have hne : faceCounts o.thrown.sides o.faces ≠ [] := by
    rw [← List.length_pos_iff, length_faceCounts]
    exact o.thrown.sides_pos
  -- There is a side, hence a count, and so there are a least and a greatest one.
  obtain ⟨⟨least, hleast, hleastMem, hleastLe, hleastSum⟩,
    ⟨greatest, hgreatest, hgreatestMem, hgreatestLe, hgreatestSum⟩⟩ := exists_extremes hne
  rw [length_faceCounts, hsum] at hleastSum hgreatestSum
  refine
    { label := rfl
      sides := rfl
      counts := counts_ofCounts o
      totalRolls := htotal
      sum_counts := hsum
      extremes := ⟨least, greatest, ?_, ?_, ?_, fun f hf => ⟨?_, ?_⟩, ?_, ?_, hleastSum,
        hgreatestSum⟩
      percentages := percentages_eq (counts_ofCounts o) htotal hcounts o.thrown.dieCount_pos
      lines := fun elapsed => lines_eq (counts_ofCounts o) htotal hcounts o.thrown.dieCount_pos
      maxDeviation := fun hdouble =>
        exists_maxDeviation (counts_ofCounts o) htotal hcounts rfl o.thrown.sides_pos hdouble }
  · simp only [ofCounts, hleast, Option.getD_some]
  · simp only [ofCounts, hgreatest, Option.getD_some]
  · simp only [ofCounts, hleast, hgreatest, Option.getD_some]
  · exact hleastLe _ (List.mem_map_of_mem hf)
  · exact hgreatestLe _ (List.mem_map_of_mem hf)
  · exact List.mem_map.mp hleastMem
  · exact List.mem_map.mp hgreatestMem

end Report

/-! ## The report of a throw -/

end Dicebox
