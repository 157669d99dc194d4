import Mathlib.Algebra.BigOperators.Group.List.Basic
import Dicebox.Metrics
import Dicebox.Proofs.Text.Digits

/-!
# Reading the books

The books are kept in ordered maps, and nobody who reasons about them should have to know. They are
read in four ways: the value of a counter, a whole histogram, the count of one of its buckets, and
the sum of all values whose names are of some kind (`OrderedMap.valueSum`). This file has one
equation for each way of writing and each way of reading.

Names are the same as far as `==` can tell, and an overwritten entry keeps the name that it was
first written under. So a kind of names can only be summed over if it does not tell equal names
apart; that is the one condition of `valueSum_insert`.
-/

set_option autoImplicit false

namespace Dicebox

-- Powers of numbers are core's own, whatever else is imported.
attribute [local instance (high)] instPowNat

namespace OrderedMap

variable {α β : Type} [BEq α]

theorem findD_insert [EquivBEq α] (m : OrderedMap α β) (key other : α) (value default : β) :
    (m.insert key value).findD other default =
      if (other == key) = true then value else m.findD other default := by
  rw [findD, find?_insert]
  split
  · rfl
  · rfl

/-- The sum of the values under all keys of a kind. -/
def valueSum [AddCommMonoid β] (kind : α → Bool) (m : OrderedMap α β) : β :=
  ((m.entries.filter fun e => kind e.1).map Prod.snd).sum

/-- What is added under a key is added to the sum over every kind that the key is of. Without the
condition the entry may be of the kind and the key not, and then the sum grows all the same. -/
theorem valueSum_insert [EquivBEq α] [AddCommMonoid β] {kind : α → Bool}
    (hkind : ∀ a b, (a == b) = true → kind a = kind b) (m : OrderedMap α β) (key : α) (value : β) :
    (m.insert key (m.findD key 0 + value)).valueSum kind =
      m.valueSum kind + if kind key then value else 0 := by
  simp only [valueSum, findD, find?, insert]
  induction m.entries with
  | nil => cases hk : kind key <;> simp [insertEntry, hk]
  | cons e rest ih =>
    obtain ⟨k, v⟩ := e
    by_cases h : (k == key) = true
    · -- The entry is overwritten under the name it has, which is of the same kind.
      have h' : (key == k) = true := BEq.symm h
      have hsame := hkind k key h
      cases hk : kind key with
      | false => simp [insertEntry, h, hsame, hk]
      | true =>
        simp only [insertEntry, h, if_true, List.lookup_cons, h', Option.getD_some,
          List.filter_cons, hsame, hk, List.map_cons, List.sum_cons]
        exact add_right_comm v value _
    · -- The entry stays, whatever its kind, and the rest is what the induction is about.
      have h' : (key == k) = false := Bool.eq_false_iff.mpr fun hs => h (BEq.symm hs)
      simp only [insertEntry, h, Bool.false_eq_true, if_false, List.lookup_cons, h',
        List.filter_cons]
      cases hk : kind k with
      | false =>
        simp only [Bool.false_eq_true, if_false]
        exact ih
      | true =>
        simp only [if_true, List.map_cons, List.sum_cons]
        rw [ih, add_assoc]

end OrderedMap

/-! ## Buckets

The bucket of an integer among given integers is a search in a list. Only of the bounds that are
used by default it is known that they increase, so only there is what the search finds the smallest
of the bounds that will do. -/

namespace Bounds

/-- The bounds that are used unless others are given. -/
def standard : List Int := [1, 2, 5, 10, 20, 50, 100, 1000, 10000, 100000]

theorem default_eq : default = ofIntegers standard := rfl

theorem firstAtLeast_int (n : Int) (bounds : List Int) :
    firstAtLeast (.int n) (bounds.map .int) =
      .ok ((bounds.find? fun b => decide (n ≤ b)).map .int) := by
  induction bounds with
  | nil => rfl
  | cons b rest ih =>
    rw [List.map_cons, firstAtLeast, Datum.isAtMost_int, List.find?_cons]
    by_cases h : n ≤ b
    · simp [h, bind, Except.bind, pure, Except.pure]
    · simpa [h, bind, Except.bind, pure, Except.pure] using ih

end Bounds

/-- The bucket of an integer among integer bounds: that of the first bound that it does not exceed,
or what is above the last one. Without bounds there is none. -/
def bucketFor? (n : Int) (bounds : List Int) : Option Bucket :=
  match bounds.find? fun b => decide (n ≤ b) with
  | some bound => some (.atMost (.int bound))
  | none => bounds.getLast?.map fun bound => .above (.int bound)

theorem Bounds.bucketOf_ofIntegers (n : Int) (bounds : List Int) :
    (Bounds.ofIntegers bounds).bucketOf (.int n) =
      (bucketFor? n bounds).elim (.error .noBounds) Bucket.labelled := by
  rw [bucketOf, bucketFor?]
  simp only [ofIntegers, ofList, firstAtLeast_int, List.getLast?_map]
  cases bounds.find? fun b => decide (n ≤ b) with
  | some bound => simp only [bind, Except.bind, Option.map_some, Option.elim_some]
  | none =>
    cases bounds.getLast? with
    | some bound =>
      simp only [bind, Except.bind, Option.map_none, Option.map_some, Option.elim_some]
    | none => simp only [bind, Except.bind, Option.map_none, Option.elim_none]

/-- The bucket in which a number of dice is counted: that of the smallest bound that it does not
exceed, and above all bounds the rest. -/
inductive IsStandardBucket (n : Int) : Bucket → Prop
  | atMost (bound : Int) (mem : bound ∈ Bounds.standard) (le : n ≤ bound)
      (least : ∀ b ∈ Bounds.standard, n ≤ b → bound ≤ b) : IsStandardBucket n (.atMost (.int bound))
  | above (lt : ∀ b ∈ Bounds.standard, b < n) : IsStandardBucket n (.above (.int 100000))

theorem find?_least {n bound : Int} {bounds : List Int} (hsorted : bounds.Pairwise (· < ·))
    (h : (bounds.find? fun b => decide (n ≤ b)) = some bound) :
    bound ∈ bounds ∧ n ≤ bound ∧ ∀ b ∈ bounds, n ≤ b → bound ≤ b := by
  induction bounds with
  | nil => cases h
  | cons first rest ih =>
    rw [List.pairwise_cons] at hsorted
    rw [List.find?_cons] at h
    by_cases hfirst : n ≤ first
    · rw [decide_eq_true hfirst] at h
      cases h
      refine ⟨List.mem_cons_self, hfirst, fun b hb _ => ?_⟩
      rcases List.mem_cons.mp hb with rfl | hb
      · exact Int.le_refl _
      · exact Int.le_of_lt (hsorted.1 b hb)
    · rw [decide_eq_false hfirst] at h
      obtain ⟨hmem, hle, hleast⟩ := ih hsorted.2 h
      refine ⟨List.mem_cons_of_mem _ hmem, hle, fun b hb hn => ?_⟩
      rcases List.mem_cons.mp hb with rfl | hb
      · exact absurd hn hfirst
      · exact hleast b hb hn

/-- The standard bounds are short enough to be written, so their buckets have labels. Of bounds that
somebody gives this is not so. -/
theorem labelled_standard {bucket : Bucket} {bound : Int} (h : bucket.bound = .int bound)
    (hmem : bound ∈ Bounds.standard) : bucket.labelled = .ok bucket := by
  have hle : ∀ b ∈ Bounds.standard, b.natAbs < 10 ^ 6 := by decide
  have hlt : bound.natAbs < 10 ^ Text.maxDigits :=
    Nat.lt_of_lt_of_le (hle bound hmem) (Nat.pow_le_pow_right (by decide) (by decide))
  rw [Bucket.labelled, h, Datum.write?, if_pos (Text.isSome_write?_iff.mpr hlt)]

theorem exists_bucketOf (n : Int) :
    ∃ bucket, Bounds.default.bucketOf (.int n) = .ok bucket ∧ IsStandardBucket n bucket := by
  rw [Bounds.default_eq, Bounds.bucketOf_ofIntegers, bucketFor?]
  cases hfind : Bounds.standard.find? fun b => decide (n ≤ b) with
  | some bound =>
    obtain ⟨hmem, hle, hleast⟩ := find?_least (by decide) hfind
    simp only [Option.elim_some]
    exact ⟨_, labelled_standard rfl hmem, .atMost bound hmem hle hleast⟩
  | none =>
    have hlast : Bounds.standard.getLast? = some 100000 := rfl
    have hmem : 100000 ∈ Bounds.standard := by decide
    simp only [hlast, Option.map_some, Option.elim_some]
    refine ⟨_, labelled_standard rfl hmem, .above fun b hb => ?_⟩
    have hnot := List.find?_eq_none.mp hfind b hb
    simpa using hnot

/-! ## Histograms -/

namespace Histogram

/-- How many numbers have been put into the bucket with a label; none if there is no such bucket. -/
def bucketCount (h : Histogram) (label : String) : Nat := h.buckets.findD label 0

/-- How many values are in all buckets together. -/
def total (h : Histogram) : Nat := h.buckets.valueSum fun _ => true

theorem bucketCount_enter (h : Histogram) (bucket : Bucket) (label : String) :
    (h.enter bucket).bucketCount label =
      h.bucketCount label + if label = bucket.label then 1 else 0 := by
  rw [bucketCount, enter, OrderedMap.findD_insert]
  by_cases hl : label = bucket.label
  · subst hl
    simp [bucketCount]
  · simp [bucketCount, hl]

theorem total_enter (h : Histogram) (bucket : Bucket) :
    (h.enter bucket).total = h.total + 1 :=
  OrderedMap.valueSum_insert (fun _ _ _ => rfl) h.buckets bucket.label 1

end Histogram

/-! ## Counters and histograms of the books

Accounts that were never opened read as zero and as empty, so that adding to them is the same as
adding to any others. -/

namespace Metrics

/-- A histogram of the books; one that was never opened is empty. -/
def histogram (m : Metrics) (name : Name) : Histogram := m.histograms.findD name {}

theorem counter_add (m : Metrics) (name other : Name) (n : Int) :
    (m.add name n).counter other =
      m.counter other + if (other == name) = true then n else 0 := by
  show (m.counters.insert name (m.counter name + n)).findD other 0 = _
  rw [OrderedMap.findD_insert]
  by_cases h : (other == name) = true
  · have hsame : m.counter other = m.counter name := by
      rw [counter, counter, OrderedMap.findD, OrderedMap.findD, OrderedMap.find?_congr _ h]
    rw [if_pos h, if_pos h, hsame]
  · rw [if_neg h, if_neg h, Int.add_zero]
    rfl

theorem histogram_put (m : Metrics) (name other : Name) (h : Histogram) :
    (m.put name h).histogram other =
      if (other == name) = true then h else m.histogram other :=
  OrderedMap.findD_insert m.histograms name other h {}

/-- Observing an integer by the default bounds succeeds, puts it into its bucket and into the sum,
and leaves the counters alone. -/
theorem exists_observe_int (m : Metrics) (name : Name) (n : Int) :
    ∃ bucket, IsStandardBucket n bucket ∧
      (m.observe name (.int n) .default).2 =
        m.put name (((m.histogram name).enter bucket).tally n) := by
  obtain ⟨bucket, hbucket, hstandard⟩ := exists_bucketOf n
  refine ⟨bucket, hstandard, ?_⟩
  simp only [observe, hbucket, Datum.toInteger_int]
  rfl

end Metrics

end Dicebox
