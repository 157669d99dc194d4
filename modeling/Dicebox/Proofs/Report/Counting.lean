import Mathlib.Algebra.BigOperators.Group.List.Basic
import Mathlib.Algebra.GroupWithZero.Nat
import Mathlib.Algebra.Order.BigOperators.Group.List
import Dicebox.Report

/-!
# Every face is counted

Counting goes through the faces of a throw one by one and adds to the count of each. It fails on a
face beyond the sides, and a throw has no such face. What it comes to does not depend on the order:

> **each face from one to the number of sides has the count of its places among the faces**
> (`tally_eq`),

and no place is counted twice or left out (`sum_faceCounts`). So the report of a finished throw is
always there, and it is only its figures that may be beyond what can be calculated with.
-/

set_option autoImplicit false

namespace Dicebox.Report

/-- How often each of the faces from one to `sides` is found among some faces. -/
def faceCounts (sides : Nat) (faces : List Int) : List Nat :=
  (List.range' 1 sides).map fun f : Nat => faces.count (f : Int)

@[simp] theorem length_faceCounts (sides : Nat) (faces : List Int) :
    (faceCounts sides faces).length = sides := by
  rw [faceCounts, List.length_map, List.length_range']

/-! ## The loop

The counts stand in an array that is handed from one face to the next, where the place of a face is
its number less one. What is claimed of them is claimed of each place, since the loop changes one
place at a time. -/

/-- Adds a face to the counts. It is the body of the loop in `tally`, named so that a single step
can be spoken of. -/
def tallyFace (sides : Nat) (counts : Array Nat) (face : Int) : Except Fault (Array Nat) :=
  if 1 ≤ face ∧ face ≤ sides then .ok (counts.modify (face.toNat - 1) (· + 1))
  else .error (.unknownFace face)

/-- Counting adds to what has been counted before. -/
theorem foldlM_tallyFace {sides : Nat} {faces : List Int}
    (h : ∀ f ∈ faces, 1 ≤ f ∧ f ≤ (sides : Int)) (counts : Array Nat) :
    ∃ counts' : Array Nat, faces.foldlM (tallyFace sides) counts = .ok counts' ∧
      counts'.size = counts.size ∧
      ∀ i (hi : i < counts.size) (hi' : i < counts'.size),
        counts'[i] = counts[i] + faces.count ((1 + i : Nat) : Int) := by
  -- Every face hands on other counts than it was given, so the induction is for any of them.
  induction faces generalizing counts with
  | nil => exact ⟨counts, rfl, rfl, fun i _ _ => rfl⟩
  | cons f rest ih =>
    obtain ⟨hlow, hhigh⟩ := h f List.mem_cons_self
    have hstep : tallyFace sides counts f = .ok (counts.modify (f.toNat - 1) (· + 1)) :=
      if_pos ⟨hlow, hhigh⟩
    obtain ⟨counts', hrest, hsize, hcounts⟩ :=
      ih (fun g hg => h g (List.mem_cons_of_mem _ hg)) (counts.modify (f.toNat - 1) (· + 1))
    refine ⟨counts', ?_, hsize.trans Array.size_modify, fun i hi hi' => ?_⟩
    · rw [List.foldlM_cons, hstep]
      exact hrest
    · rw [hcounts i (by rw [Array.size_modify]; exact hi) hi', Array.getElem_modify,
        List.count_cons]
      -- The place of the face is the one before its number.
      have hplace : f.toNat - 1 = i ↔ f = ((1 + i : Nat) : Int) := by omega
      by_cases hf : f = ((1 + i : Nat) : Int)
      · rw [if_pos (hplace.mpr hf), if_pos (beq_iff_eq.mpr hf)]
        omega
      · rw [if_neg fun hi => hf (hplace.mp hi), if_neg fun hi => hf (beq_iff_eq.mp hi)]
        omega

theorem tally_eq {sides : Nat} {faces : List Int} (h : ∀ f ∈ faces, 1 ≤ f ∧ f ≤ (sides : Int)) :
    tally sides faces = .ok (faceCounts sides faces).toArray := by
  -- At first all counts are zero, so in the end they are the numbers of places.
  obtain ⟨counts, hcounts, hsize, hcount⟩ := foldlM_tallyFace h (Array.replicate sides 0)
  have hloop : tally sides faces = .ok counts := hcounts
  rw [Array.size_replicate] at hsize
  rw [hloop]
  refine congrArg Except.ok (Array.ext (by rw [hsize]; simp) fun i hi hi' => ?_)
  rw [hcount i (by rw [Array.size_replicate, ← hsize]; exact hi) hi]
  simp [faceCounts]

theorem of_eq {o : Outcome} (h : ∀ f ∈ o.faces, 1 ≤ f ∧ f ≤ (o.thrown.sides : Int)) :
    of o = .ok (ofCounts o (faceCounts o.thrown.sides o.faces)) := by
  rw [of, tally_eq h]
  rfl

/-- Only faces from one to the number of sides can be counted. -/
theorem mem_of_foldlM_tallyFace {sides : Nat} {faces : List Int} {counts counts' : Array Nat}
    (h : faces.foldlM (tallyFace sides) counts = .ok counts') :
    ∀ f ∈ faces, 1 ≤ f ∧ f ≤ (sides : Int) := by
  induction faces generalizing counts with
  | nil => exact fun f hf => absurd hf List.not_mem_nil
  | cons f rest ih =>
    rw [List.foldlM_cons] at h
    by_cases hface : 1 ≤ f ∧ f ≤ (sides : Int)
    · rw [tallyFace, if_pos hface] at h
      exact List.forall_mem_cons.mpr ⟨hface, ih h⟩
    · rw [tallyFace, if_neg hface] at h
      cases h

theorem mem_of_of {o : Outcome} {r : Report} (h : of o = .ok r) :
    ∀ f ∈ o.faces, 1 ≤ f ∧ f ≤ (o.thrown.sides : Int) := by
  cases hcounts : tally o.thrown.sides o.faces with
  | error fault =>
    rw [of, hcounts] at h
    cases h
  | ok counts => exact mem_of_foldlM_tallyFace hcounts

/-! ## Nothing is lost

Here the induction is on the faces and not on the counts: one more face adds one to one count, and
nothing to all others. -/

theorem sum_indicator (f : Int) (start n : Nat) :
    ((List.range' start n).map fun k : Nat => if f = (k : Int) then 1 else 0).sum =
      if start ≤ f ∧ f < (start + n : Nat) then 1 else 0 := by
  induction n generalizing start with
  | zero =>
    rw [if_neg (by omega)]
    rfl
  | succ n ih =>
    rw [List.range'_succ, List.map_cons, List.sum_cons, ih]
    split <;> split <;> split <;> omega

theorem sum_faceCounts {sides : Nat} {faces : List Int}
    (h : ∀ f ∈ faces, 1 ≤ f ∧ f ≤ (sides : Int)) :
    (faceCounts sides faces).sum = faces.length := by
  induction faces with
  | nil => simp [faceCounts]
  | cons f rest ih =>
    obtain ⟨hlow, hhigh⟩ := h f List.mem_cons_self
    have hone :
        ((List.range' 1 sides).map fun k : Nat => if f = (k : Int) then 1 else 0).sum = 1 := by
      rw [sum_indicator, if_pos (by omega)]
    have hcount : faceCounts sides (f :: rest) = (List.range' 1 sides).map fun k : Nat =>
        rest.count (k : Int) + if f = (k : Int) then 1 else 0 := by
      refine List.map_congr_left fun k _ => ?_
      rw [List.count_cons]
      simp only [beq_iff_eq]
    rw [hcount, List.sum_map_add, hone, List.length_cons,
      ← ih fun g hg => h g (List.mem_cons_of_mem _ hg)]
    rfl

end Dicebox.Report
