import Mathlib.Data.List.DropRight
import Dicebox.Proofs.Metrics.Accounts

/-!
# The books tell their history

Whatever is posted to the books, in any order and with any bounds, they can be read back as what has
happened since they were last emptied:

> **a histogram counts its successful observations, once as a whole and once in its buckets, and
> adds them up; a counter adds up its increments** (`history_conserved`).

A posting is an increment, an observation or a reset (`Posting`). What is in a histogram is told by
the entries that were made in it (`Holds`), and what is in the books by the postings since the last
reset (`Tells`). One posting keeps this (`Tells.add`, `Tells.observe`), and so does any number of
them (`tells_postAll`).

The bounds may change from one observation of a histogram to the next, and then its buckets say
little about the values. If they are always the same and ascend, a bucket counts an interval
(`entered_in_interval`).
-/

set_option autoImplicit false

namespace Dicebox

-- The sum of a list starts from core's own zero, whatever else is imported.
attribute [local instance (high)] Zero.ofOfNat0

/-! ## Postings

The three things that a command does to the books. An observation names its bounds or leaves them
out, and an amount may be anything that comes in a command, also what no integer can be read from.
-/

/-- Something that is done to the books. -/
inductive Posting
  /-- Adds what a datum is read as to a counter. -/
  | add (counter : Name) (amount : Datum)
  /-- Enters an integer into a histogram, with bounds of its own or the default ones. -/
  | observe (histogram : Name) (value : Int) (bounds : Option (List Int))
  | reset

namespace Posting

/-- The bounds of an observation. -/
def boundsOf (bounds : Option (List Int)) : List Int := bounds.getD Bounds.standard

/-- Whether a posting went well, and the books after it. -/
def post (m : Metrics) : Posting → Except Fault Unit × Metrics
  | .add counter amount =>
    let (result, m) := m.addDatum counter amount
    (result.map fun _ => (), m)
  | .observe histogram value bounds =>
    m.observe histogram (.int value) (bounds.elim .default .ofIntegers)
  | .reset => (.ok (), .empty)

/-- Whether a posting empties the books. -/
def isReset : Posting → Bool
  | .reset => true
  | .add .. | .observe .. => false

/-- Whether a posting is an observation of a histogram, successful or not. -/
def observes (name : Name) : Posting → Bool
  | .observe histogram _ _ => name == histogram
  | .add .. | .reset => false

/-- What a posting adds to a counter. What is no integer adds nothing. -/
def increment? (name : Name) : Posting → Option Int
  | .add counter amount =>
    if (name == counter) = true then some (amount.toInteger.toOption.getD 0) else none
  | .observe .. | .reset => none

/-- The value that a successful observation of a histogram enters, and the label under which. -/
def entered? (name : Name) : Posting → Option (Int × String)
  | .observe histogram value bounds =>
    if (name == histogram) = true then
      ((Bounds.ofIntegers (boundsOf bounds)).bucketOf (.int value)).toOption.map
        fun bucket => (value, bucket.label)
    else none
  | .add .. | .reset => none

end Posting

/-- The books after some postings. -/
def Metrics.postAll (m : Metrics) (history : List Posting) : Metrics :=
  history.foldl (fun m p => (p.post m).2) m

/-! ## What has happened

The history is told here without the books: what was added and what was entered are read off the
postings alone. That makes it a measure for the books, which are compared with it below.
-/

/-- The postings since the last reset. -/
def sinceReset (history : List Posting) : List Posting :=
  history.rtakeWhile fun p => !p.isReset

/-- All that was added to a counter, in order. -/
def increments (name : Name) (history : List Posting) : List Int :=
  history.filterMap (Posting.increment? name)

/-- The values and labels of the successful observations of a histogram, in order. -/
def entered (name : Name) (history : List Posting) : List (Int × String) :=
  history.filterMap (Posting.entered? name)

theorem increments_append (name : Name) (history more : List Posting) :
    increments name (history ++ more) = increments name history ++ increments name more :=
  List.filterMap_append

theorem entered_append (name : Name) (history more : List Posting) :
    entered name (history ++ more) = entered name history ++ entered name more :=
  List.filterMap_append

theorem entered_congr {name other : Name} (h : (name == other) = true) (history : List Posting) :
    entered name history = entered other history := by
  refine List.filterMap_congr fun p _ => ?_
  cases p with
  | observe histogram value bounds =>
    rw [Posting.entered?, Posting.entered?, BEq.congr_left h]
  | add counter amount => rfl
  | reset => rfl

/-- The values of the successful observations of a histogram. -/
def observed (name : Name) (history : List Posting) : List Int :=
  (entered name history).map Prod.fst

/-- How many values were entered under a label. -/
def enteredUnder (label : String) (entries : List (Int × String)) : Nat :=
  entries.countP fun e => e.2 == label

/-! ## What is in a histogram -/

/-- What a histogram holds is what was entered into it. -/
structure Holds (entries : List (Int × String)) (h : Histogram) : Prop where
  bucket (label : String) : h.buckets.find? label =
    if enteredUnder label entries = 0 then none else some (enteredUnder label entries)
  total : h.total = h.count
  count : h.count = entries.length
  sum : h.sum = (entries.map Prod.fst).sum

namespace Holds

variable {entries : List (Int × String)} {h : Histogram}

theorem empty : Holds [] {} := ⟨fun _ => rfl, rfl, rfl, rfl⟩

theorem bucketCount_eq (hh : Holds entries h) (label : String) :
    h.bucketCount label = enteredUnder label entries := by
  rw [Histogram.bucketCount, OrderedMap.findD, hh.bucket]
  by_cases hzero : enteredUnder label entries = 0
  · rw [if_pos hzero, hzero]
    rfl
  · rw [if_neg hzero]
    rfl

theorem enter (hh : Holds entries h) (bucket : Bucket) (value : Int) :
    Holds (entries ++ [(value, bucket.label)]) ((h.enter bucket).tally value) where
  bucket label := by
    have hfind : ((h.enter bucket).tally value).buckets.find? label =
        if (label == bucket.label) = true then some (h.bucketCount bucket.label + 1)
        else h.buckets.find? label := OrderedMap.find?_insert ..
    rw [hfind, enteredUnder, List.countP_append, List.countP_singleton]
    -- The bucket that is entered counts one more, and is opened if it was not there.
    by_cases hlabel : label = bucket.label
    · subst hlabel
      simp [hh.bucketCount_eq, enteredUnder]
    · have hne : (bucket.label == label) = false := by simpa using Ne.symm hlabel
      rw [if_neg (by simpa using hlabel), hh.bucket, hne]
      rfl
  total := by
    have htotal := h.total_enter bucket
    have hbefore := hh.total
    show (h.enter bucket).total = h.count + 1
    omega
  count := by
    show h.count + 1 = _
    rw [List.length_append, hh.count]
    rfl
  sum := by
    show h.sum + value = _
    rw [List.map_append, List.sum_append, hh.sum]
    simp

end Holds

/-! ## What is in the books

That a histogram is open is told apart from what it holds. An observation that fails opens its
histogram all the same, with nothing in it.
-/

/-- What the books say is what the postings have done. -/
structure Tells (history : List Posting) (m : Metrics) : Prop where
  counter (name : Name) : m.counters.find? name =
    if increments name history = [] then none else some (increments name history).sum
  opened (name : Name) :
    (m.histograms.find? name).isSome = history.any (Posting.observes name)
  histogram (name : Name) : Holds (entered name history) (m.histogram name)

theorem Tells.empty : Tells [] .empty := ⟨fun _ => rfl, fun _ => rfl, fun _ => .empty⟩

/-- A counter that was never opened stands at the sum of no increments. -/
theorem Tells.counter_eq {history : List Posting} {m : Metrics} (h : Tells history m)
    (name : Name) : m.counter name = (increments name history).sum := by
  rw [Metrics.counter, OrderedMap.findD, h.counter]
  by_cases hnil : increments name history = []
  · rw [if_pos hnil, hnil]
    rfl
  · rw [if_neg hnil]
    rfl

namespace Metrics

theorem counter_congr (m : Metrics) {name other : Name} (h : (name == other) = true) :
    m.counter name = m.counter other := by
  rw [counter, counter, OrderedMap.findD, OrderedMap.findD, OrderedMap.find?_congr _ h]

theorem histogram_congr (m : Metrics) {name other : Name} (h : (name == other) = true) :
    m.histogram name = m.histogram other := by
  rw [histogram, histogram, OrderedMap.findD, OrderedMap.findD, OrderedMap.find?_congr _ h]

theorem histogram_open (m : Metrics) (name other : Name) :
    (m.put name (m.histogram name)).histogram other = m.histogram other := by
  rw [histogram_put]
  by_cases h : (other == name) = true
  · rw [if_pos h, m.histogram_congr h]
  · rw [if_neg h]

theorem isSome_find?_put (m : Metrics) (name other : Name) (h : Histogram) :
    ((m.put name h).histograms.find? other).isSome =
      ((m.histograms.find? other).isSome || other == name) := by
  rw [put, OrderedMap.find?_insert]
  cases other == name with
  | true => simp
  | false => simp

end Metrics

/-! ## One posting -/

namespace Posting

theorem post_add (m : Metrics) (counter : Name) (amount : Datum) :
    ((add counter amount).post m).2 = m.add counter (amount.toInteger.toOption.getD 0) := by
  simp only [post, Metrics.addDatum]
  cases amount.toInteger with
  | ok n => rfl
  | error why => rfl

/-- An observation with a bucket enters its value there; any other one opens the histogram only. -/
theorem post_observe (m : Metrics) (histogram : Name) (value : Int) (bounds : Option (List Int)) :
    (observe histogram value bounds).post m =
      match (Bounds.ofIntegers (boundsOf bounds)).bucketOf (.int value) with
      | .ok bucket =>
        (.ok (), m.put histogram (((m.histogram histogram).enter bucket).tally value))
      | .error fault => (.error fault, m.put histogram (m.histogram histogram)) := by
  have hbounds : bounds.elim .default .ofIntegers = Bounds.ofIntegers (boundsOf bounds) := by
    cases bounds with
    | none => rfl
    | some bounds => rfl
  rw [post, hbounds, Metrics.observe]
  cases (Bounds.ofIntegers (boundsOf bounds)).bucketOf (.int value) with
  | ok bucket => simp only [Datum.toInteger_int, Metrics.histogram]
  | error fault => simp only [Metrics.histogram]

end Posting

namespace Tells

variable {history : List Posting} {m : Metrics}

/-- What cannot be read as an integer is an increment of nothing here, and the books agree: they
open the counter and leave it where it stands. -/
theorem add (h : Tells history m) (counter : Name) (amount : Datum) :
    Tells (history ++ [.add counter amount]) ((Posting.add counter amount).post m).2 := by
  rw [Posting.post_add]
  generalize hn : amount.toInteger.toOption.getD 0 = n
  refine
    { counter := fun name => ?_
      opened := fun name => ?_
      histogram := fun name => ?_ }
  · have hfind : (m.add counter n).counters.find? name =
        if (name == counter) = true then some (m.counter counter + n)
        else m.counters.find? name := OrderedMap.find?_insert m.counters counter name _
    have hlast : increments name [.add counter amount] =
        if (name == counter) = true then [n] else [] := by
      simp only [increments, List.filterMap_cons, List.filterMap_nil, Posting.increment?, hn]
      cases name == counter <;> rfl
    rw [hfind, increments_append, hlast]
    by_cases hname : (name == counter) = true
    · rw [if_pos hname, if_pos hname, if_neg (by simp), List.sum_append,
        ← m.counter_congr hname, h.counter_eq]
      simp
    · rw [if_neg hname, if_neg hname, List.append_nil, h.counter]
  · rw [List.any_append]
    simp only [List.any_cons, List.any_nil, Posting.observes, Bool.or_false]
    exact h.opened name
  · rw [entered_append, show entered name [.add counter amount] = [] from rfl, List.append_nil]
    exact h.histogram name

theorem observe (h : Tells history m) (histogram : Name) (value : Int)
    (bounds : Option (List Int)) :
    Tells (history ++ [.observe histogram value bounds])
      ((Posting.observe histogram value bounds).post m).2 := by
  have hentered : ∀ name, entered name [.observe histogram value bounds] =
      (Posting.entered? name (.observe histogram value bounds)).toList := by
    intro name
    simp only [entered, List.filterMap_cons, List.filterMap_nil]
    cases Posting.entered? name (.observe histogram value bounds) <;> rfl
  have hopened : ∀ name (h' : Histogram), ((m.put histogram h').histograms.find? name).isSome =
      (history ++ [Posting.observe histogram value bounds]).any (Posting.observes name) := by
    intro name h'
    rw [m.isSome_find?_put, h.opened, List.any_append]
    simp only [List.any_cons, List.any_nil, Posting.observes, Bool.or_false]
  have hcounter : ∀ name, m.counters.find? name =
      if increments name (history ++ [.observe histogram value bounds]) = [] then none
      else some (increments name (history ++ [.observe histogram value bounds])).sum := by
    intro name
    rw [increments_append, show increments name [.observe histogram value bounds] = [] from rfl,
      List.append_nil]
    exact h.counter name
  rw [Posting.post_observe]
  cases hbucket : (Bounds.ofIntegers (Posting.boundsOf bounds)).bucketOf (.int value) with
  | error fault =>
    -- Without a bucket nothing is entered, and the histogram is put back as it was.
    refine ⟨hcounter, fun name => hopened name _, fun name => ?_⟩
    have hnone : Posting.entered? name (.observe histogram value bounds) = none := by
      simp [Posting.entered?, hbucket, Except.toOption]
    rw [m.histogram_open, entered_append, hentered, hnone, Option.toList_none, List.append_nil]
    exact h.histogram name
  | ok bucket =>
    refine ⟨hcounter, fun name => hopened name _, fun name => ?_⟩
    rw [m.histogram_put, entered_append, hentered, Posting.entered?, hbucket]
    by_cases hname : (name == histogram) = true
    · rw [if_pos hname, if_pos hname, entered_congr hname]
      exact (h.histogram histogram).enter bucket value
    · rw [if_neg hname, if_neg hname, Option.toList_none, List.append_nil]
      exact h.histogram name

end Tells

/-! ## Any number of postings

The books keep no memory of what was in them before a reset, so they tell the history since then.
-/

theorem Metrics.postAll_concat (m : Metrics) (history : List Posting) (p : Posting) :
    m.postAll (history ++ [p]) = (p.post (m.postAll history)).2 := by
  rw [postAll, List.foldl_append]
  rfl

/-- The invariant of a whole history: whatever is posted to empty books, they tell what has happened
since the last reset. -/
theorem tells_postAll (history : List Posting) :
    Tells (sinceReset history) (Metrics.empty.postAll history) := by
  -- A reset cuts off all that came before it, so the induction is on the end of the history.
  induction history using List.reverseRecOn with
  | nil => exact .empty
  | append_singleton history p ih =>
    rw [Metrics.postAll_concat, sinceReset]
    cases p with
    | add counter amount =>
      rw [List.rtakeWhile_concat_pos _ _ _ rfl]
      exact ih.add counter amount
    | observe histogram value bounds =>
      rw [List.rtakeWhile_concat_pos _ _ _ rfl]
      exact ih.observe histogram value bounds
    | reset =>
      rw [List.rtakeWhile_concat_neg _ _ _ Bool.false_ne_true]
      exact .empty

/-! ## Intervals

A label names one bound only. That its bucket stands for an interval, which begins where the one
before ends, is true of ascending bounds that are the same for every observation: a value goes under
the first bound that it does not exceed, so it exceeds all those before.
-/

/-- Whether a value is above the last of some bounds, if there is one, and at most the next. -/
def isWithin (before : List Int) (bound value : Int) : Bool :=
  before.getLast?.all (fun b => decide (b < value)) && decide (value ≤ bound)

section

variable {before after : List Int} {bound value : Int}

theorem forall_lt_of_getLast (h : (before ++ bound :: after).Pairwise (· < ·)) :
    before.getLast?.all (fun b => decide (b < value)) = true ↔ ∀ b ∈ before, b < value := by
  have hbefore := (List.pairwise_append.mp h).1
  cases hlast : before.getLast? with
  | none =>
    rw [List.getLast?_eq_none_iff.mp hlast]
    simp
  | some last =>
    obtain ⟨others, rfl⟩ := List.getLast?_eq_some_iff.mp hlast
    have hothers := (List.pairwise_append.mp hbefore).2.2
    simp only [Option.all_some, decide_eq_true_eq]
    constructor
    · intro hlt b hb
      rcases List.mem_append.mp hb with hb | hb
      · exact Int.lt_trans (hothers b hb last (List.mem_singleton.mpr rfl)) hlt
      · rwa [List.mem_singleton.mp hb]
    · intro hall
      exact hall last (List.mem_append_right _ (List.mem_singleton.mpr rfl))

theorem find?_eq_some_iff_isWithin (h : (before ++ bound :: after).Pairwise (· < ·)) :
    ((before ++ bound :: after).find? fun b => decide (value ≤ b)) = some bound ↔
      isWithin before bound value = true := by
  rw [isWithin, Bool.and_eq_true, forall_lt_of_getLast h, decide_eq_true_eq]
  constructor
  · intro hfind
    obtain ⟨-, hle, hleast⟩ := find?_least h hfind
    refine ⟨fun b hb => Int.not_le.mp fun hvalue => ?_, hle⟩
    have hlt := (List.pairwise_append.mp h).2.2 b hb bound List.mem_cons_self
    exact Int.not_le.mpr hlt (hleast b (List.mem_append_left _ hb) hvalue)
  · rintro ⟨hbefore, hle⟩
    have hnone : (before.find? fun b => decide (value ≤ b)) = none :=
      List.find?_eq_none.mpr fun b hb => by simpa using hbefore b hb
    rw [List.find?_append, hnone, Option.none_or, List.find?_cons, decide_eq_true hle]

end

theorem label_atMost_inj {b c : Int} :
    (Bucket.atMost (.int b)).label = "le_" ++ toString c ↔ b = c := by
  show "le_" ++ toString b = _ ↔ _
  rw [String.append_right_inj, Text.toString_inj]

theorem label_atMost_ne_above (b c : Int) : "le_" ++ toString b ≠ "gt_" ++ toString c := by
  intro h
  have hlist := congrArg String.toList h
  simp at hlist

section

variable {before after : List Int} {bound value : Int} {bucket : Bucket}

theorem label_eq_atMost_iff (h : (before ++ bound :: after).Pairwise (· < ·))
    (hbucket : bucketFor? value (before ++ bound :: after) = some bucket) :
    bucket.label = "le_" ++ toString bound ↔ isWithin before bound value = true := by
  rw [← find?_eq_some_iff_isWithin h]
  rw [bucketFor?] at hbucket
  cases hfind : (before ++ bound :: after).find? fun b => decide (value ≤ b) with
  | some b =>
    rw [hfind] at hbucket
    obtain rfl := Option.some.inj hbucket
    rw [label_atMost_inj, Option.some_inj]
  | none =>
    rw [hfind] at hbucket
    obtain ⟨b, -, rfl⟩ := Option.map_eq_some_iff.mp hbucket
    exact ⟨fun hlabel => absurd hlabel.symm (label_atMost_ne_above bound b),
      fun hnone => absurd hnone (Option.some_ne_none bound).symm⟩

theorem label_eq_above_iff (h : (before ++ [bound]).Pairwise (· < ·))
    (hbucket : bucketFor? value (before ++ [bound]) = some bucket) :
    bucket.label = "gt_" ++ toString bound ↔ bound < value := by
  rw [bucketFor?] at hbucket
  cases hfind : (before ++ [bound]).find? fun b => decide (value ≤ b) with
  | some b =>
    -- Some bound is not exceeded, so the last one is not, being the largest.
    rw [hfind] at hbucket
    obtain rfl := Option.some.inj hbucket
    obtain ⟨hmem, hle, -⟩ := find?_least h hfind
    have hbound : b ≤ bound := by
      rcases List.mem_append.mp hmem with hmem | hmem
      · exact Int.le_of_lt ((List.pairwise_append.mp h).2.2 b hmem bound List.mem_cons_self)
      · exact Int.le_of_eq (List.mem_singleton.mp hmem)
    refine ⟨fun hlabel => absurd hlabel (label_atMost_ne_above b bound), fun hlt => ?_⟩
    exact absurd hlt (Int.not_lt.mpr (Int.le_trans hle hbound))
  | none =>
    rw [hfind, List.getLast?_concat] at hbucket
    obtain rfl := Option.some.inj hbucket
    have hnot := List.find?_eq_none.mp hfind bound (List.mem_append_right _ List.mem_cons_self)
    exact ⟨fun _ => by simpa using hnot, fun _ => rfl⟩

end

theorem exists_of_mem_entered {name : Name} {history : List Posting} {entry : Int × String}
    (h : entry ∈ entered name history) :
    ∃ histogram bounds bucket, .observe histogram entry.1 bounds ∈ history ∧
      (name == histogram) = true ∧
      bucketFor? entry.1 (Posting.boundsOf bounds) = some bucket ∧ bucket.label = entry.2 := by
  obtain ⟨p, hp, hentered⟩ := List.mem_filterMap.mp h
  cases p with
  | add counter amount => cases hentered
  | reset => cases hentered
  | observe histogram value bounds =>
    rw [Posting.entered?, Bounds.bucketOf_ofIntegers] at hentered
    by_cases hname : (name == histogram) = true
    · rw [if_pos hname] at hentered
      cases hbucket : bucketFor? value (Posting.boundsOf bounds) with
      | none =>
        rw [hbucket] at hentered
        cases hentered
      | some bucket =>
        rw [hbucket, Option.elim_some, Bucket.labelled] at hentered
        split at hentered
        · obtain rfl := Option.some.inj hentered
          exact ⟨histogram, bounds, bucket, hp, hname, hbucket, rfl⟩
        · cases hentered
    · rw [if_neg hname] at hentered
      cases hentered

namespace Posting

/-- A posting observes a histogram, if at all, with certain bounds. -/
def KeepsTo (name : Name) (bounds : List Int) : Posting → Prop
  | .observe histogram _ given => (name == histogram) = true → boundsOf given = bounds
  | .add .. | .reset => True

end Posting

section

variable {name : Name} {history : List Posting} {before after : List Int} {bound : Int}

/-- Entries that are all made with the same bounds are counted by what their labels stand for. The
two theorems that follow say what that is, below a bound and above the last one. -/
theorem enteredUnder_eq_countP {bounds : List Int} {label : String} {p : Int → Bool}
    (hbounds : ∀ q ∈ history, q.KeepsTo name bounds)
    (hlabel : ∀ value bucket, bucketFor? value bounds = some bucket →
      (bucket.label = label ↔ p value = true)) :
    enteredUnder label (entered name history) = (observed name history).countP p := by
  rw [enteredUnder, observed, List.countP_map]
  refine List.countP_congr fun entry hentry => ?_
  obtain ⟨histogram, given, bucket, hmem, hname, hbucket, hentered⟩ :=
    exists_of_mem_entered hentry
  have hgiven : Posting.boundsOf given = bounds := hbounds _ hmem hname
  rw [hgiven] at hbucket
  rw [← hentered, beq_iff_eq]
  exact hlabel _ _ hbucket

theorem entered_in_interval (h : (before ++ bound :: after).Pairwise (· < ·))
    (hbounds : ∀ p ∈ history, p.KeepsTo name (before ++ bound :: after)) :
    enteredUnder ("le_" ++ toString bound) (entered name history) =
      (observed name history).countP (isWithin before bound) :=
  enteredUnder_eq_countP hbounds fun _ _ hbucket => label_eq_atMost_iff h hbucket

theorem entered_above (h : (before ++ [bound]).Pairwise (· < ·))
    (hbounds : ∀ p ∈ history, p.KeepsTo name (before ++ [bound])) :
    enteredUnder ("gt_" ++ toString bound) (entered name history) =
      (observed name history).countP fun value => decide (bound < value) :=
  enteredUnder_eq_countP hbounds fun _ _ hbucket =>
    (label_eq_above_iff h hbucket).trans decide_eq_true_iff.symm

end

/-! ## One observation

An observation is made in two steps, opening the histogram and entering the value, and only the
second one fails.
-/

/-- An observation goes well if it enters something, and only then does a histogram change. Counters
and the histograms of other names are left alone in any case. -/
theorem observe_alters (m : Metrics) (histogram : Name) (value : Int) (bounds : Option (List Int)) :
    let p := Posting.observe histogram value bounds
    (p.post m).2.counters = m.counters ∧
    (p.post m).1.toOption.isSome = (p.entered? histogram).isSome ∧
    ((p.post m).1.toOption = none →
      ∀ name, (p.post m).2.histogram name = m.histogram name) ∧
    ∀ name, (name == histogram) = false → (p.post m).2.histogram name = m.histogram name := by
  intro p
  have hself : (histogram == histogram) = true := BEq.rfl
  simp only [p, Posting.post_observe, Posting.entered?, hself, if_true]
  cases (Bounds.ofIntegers (Posting.boundsOf bounds)).bucketOf (.int value) with
  | error fault =>
    exact ⟨rfl, rfl, fun _ name => m.histogram_open histogram name,
      fun name _ => m.histogram_open histogram name⟩
  | ok bucket =>
    refine ⟨rfl, rfl, nofun, fun name hname => ?_⟩
    show (m.put histogram _).histogram name = _
    rw [m.histogram_put, hname]
    rfl

theorem observe_result (m : Metrics) (histogram : Name) (value : Int)
    (bounds : Option (List Int)) :
    let p := Posting.observe histogram value bounds
    (Posting.boundsOf bounds = [] → (p.post m).1 = .error .noBounds) ∧
    (Posting.boundsOf bounds ≠ [] → (∀ b ∈ Posting.boundsOf bounds, (Text.write? b).isSome) →
      (p.post m).1 = .ok ()) := by
  intro p
  simp only [p, Posting.post_observe, Bounds.bucketOf_ofIntegers]
  generalize Posting.boundsOf bounds = given
  refine ⟨?_, fun hne hwritten => ?_⟩
  · rintro rfl
    rfl
  · -- Only one bound is written, that of the value's own bucket. Which one is up to the value.
    obtain ⟨bucket, bound, hbucket, hbound, hmem⟩ : ∃ bucket bound,
        bucketFor? value given = some bucket ∧ bucket.bound = .int bound ∧ bound ∈ given := by
      rw [bucketFor?]
      cases hfind : given.find? fun b => decide (value ≤ b) with
      | some b => exact ⟨_, b, rfl, rfl, List.mem_of_find?_eq_some hfind⟩
      | none =>
        rw [List.getLast?_eq_some_getLast hne]
        exact ⟨_, _, rfl, rfl, List.getLast_mem hne⟩
    rw [hbucket, Option.elim_some, Bucket.labelled, hbound, Datum.write?,
      if_pos (hwritten bound hmem)]

/-! ## The books and their history -/

/-- The books that any postings leave behind are what has happened since the last reset.

A histogram counts the observations that went well, in the whole and in its buckets together, and
adds them up; what was observed with the same ascending bounds every time is counted by intervals. A
counter is the sum of what was added to it. An observation touches no counter and no other
histogram, and one that fails, as it does without bounds, not even its own. -/
theorem history_conserved (history : List Posting) :
    let m := Metrics.empty.postAll history
    let recent := sinceReset history
    (∀ name,
      (m.histogram name).total = (m.histogram name).count ∧
      (m.histogram name).count = (observed name recent).length ∧
      (m.histogram name).sum = (observed name recent).sum ∧
      m.counter name = (increments name recent).sum) ∧
    (∀ name before bound after, (before ++ bound :: after).Pairwise (· < ·) →
      (∀ p ∈ recent, p.KeepsTo name (before ++ bound :: after)) →
      (m.histogram name).bucketCount ("le_" ++ toString bound) =
        (observed name recent).countP (isWithin before bound) ∧
      (after = [] → (m.histogram name).bucketCount ("gt_" ++ toString bound) =
        (observed name recent).countP fun value => decide (bound < value))) ∧
    ∀ histogram value bounds,
      let p := Posting.observe histogram value bounds
      ((p.post m).2.counters = m.counters ∧
        (p.post m).1.toOption.isSome = (p.entered? histogram).isSome ∧
        ((p.post m).1.toOption = none →
          ∀ name, (p.post m).2.histogram name = m.histogram name) ∧
        ∀ name, (name == histogram) = false →
          (p.post m).2.histogram name = m.histogram name) ∧
      (Posting.boundsOf bounds = [] → (p.post m).1 = .error .noBounds) ∧
      (Posting.boundsOf bounds ≠ [] →
        (∀ b ∈ Posting.boundsOf bounds, (Text.write? b).isSome) → (p.post m).1 = .ok ()) := by
  intro m recent
  have htells : Tells recent m := tells_postAll history
  refine ⟨fun name => ?_, fun name before bound after hsorted hbounds => ?_,
    fun histogram value bounds =>
      ⟨observe_alters m histogram value bounds, observe_result m histogram value bounds⟩⟩
  · have hholds := htells.histogram name
    refine ⟨hholds.total, ?_, hholds.sum, htells.counter_eq name⟩
    rw [hholds.count, observed, List.length_map]
  · have hholds := htells.histogram name
    refine ⟨?_, ?_⟩
    · rw [hholds.bucketCount_eq]
      exact entered_in_interval hsorted hbounds
    · rintro rfl
      rw [hholds.bucketCount_eq]
      exact entered_above hsorted hbounds

/-- What was posted before the reset is gone, and the observation without bounds enters nothing. -/
theorem history_conserved_reset :
    let dice : Name := .text "dice"
    let other : Name := .text "other"
    let history : List Posting :=
      [.observe dice 7 none, .add other (.int 4), .reset, .observe dice 1 (some [1, 5]),
        .observe dice 3 (some [1, 5]), .observe other 2 (some []), .observe dice 9 (some [1, 5]),
        .add other (.int 2)]
    let m := Metrics.empty.postAll history
    (∀ p ∈ sinceReset history, p.KeepsTo dice [1, 5]) ∧
    (m.histogram dice).count = 3 ∧ (m.histogram dice).total = 3 ∧ (m.histogram dice).sum = 13 ∧
    (m.histogram dice).bucketCount ("le_" ++ toString (5 : Int)) = 1 ∧
    (m.histogram dice).bucketCount ("gt_" ++ toString (5 : Int)) = 1 ∧
    (m.histogram other).count = 0 ∧ m.counter other = 2 := by
  intro dice other history m
  obtain ⟨hwhole, hintervals, -⟩ := history_conserved history
  have hbounds : ∀ p ∈ sinceReset history, p.KeepsTo dice [1, 5] := by
    have hrecent : sinceReset history = history.drop 3 := rfl
    rw [hrecent]
    simp only [history, List.drop_succ_cons, List.drop_zero, List.mem_cons, List.not_mem_nil,
      or_false]
    rintro p (rfl | rfl | rfl | rfl | rfl)
    · exact fun _ => rfl
    · exact fun _ => rfl
    · exact nofun
    · exact fun _ => rfl
    · trivial
  have hdice : observed dice (sinceReset history) = [1, 3, 9] := by decide +kernel
  have hother : observed other (sinceReset history) = [] := by decide +kernel
  obtain ⟨htotal, hcount, hsum, -⟩ := hwhole dice
  obtain ⟨-, hcountOther, -, hcounter⟩ := hwhole other
  obtain ⟨hwithin, habove⟩ := hintervals dice [1] 5 [] (by decide) hbounds
  rw [hdice] at hcount hsum hwithin habove
  rw [hother] at hcountOther
  exact ⟨hbounds, hcount, htotal.trans hcount, hsum, hwithin, habove rfl, hcountOther, hcounter⟩

end Dicebox
