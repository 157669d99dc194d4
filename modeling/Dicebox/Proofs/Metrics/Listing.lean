import Dicebox.Proofs.Metrics.Exchange

/-!
# Listing the books loses nothing

In the list of all accounts (`Metrics.flatten`) a histogram is not one entry but several, each under
a name that is put together from the word `histo`, the name of the histogram and a label, with dots
between them. Histograms may be called anything, so the dots do not say where one part ends and the
next begins. What does is that no label has a dot in it:

> **what stands after the last dot is the label** (`account_inj`).

So no two accounts of histograms share a name, and if no counter takes one of these names either,
nothing in the list is written over (`entries_flatten`). Every account is then read off the list
again, and books of which the lists agree are alike (`flatten_lossless`).

That labels have no dots is true as long as bounds are integers. It is an invariant of the books
(`IsListable`), kept by everything that is posted to them, also where that goes wrong halfway.

## Names that are no texts

A histogram may be called `1`, and another one `"1"`. In the list both are written alike, and the
one that comes later hides the other. The books here have texts for the names of their histograms.
Their counters may be called by any name, since only a text can be the name of an account.
-/

set_option autoImplicit false

namespace Dicebox

-- The sum of a list starts from core's own zero, whatever else is imported.
attribute [local instance (high)] Zero.ofOfNat0

/-! ## Names of accounts

A name is `histo.`, that of the histogram, a dot and the label. The name in the middle may have dots
of its own, so the label is told from the end.
-/

namespace Metrics

/-- The name in the list of an account of a histogram. -/
def account (histogram label : String) : String := "histo." ++ histogram ++ "." ++ label

/-- The name of an account leads back to its histogram and its label. It would not if labels had
dots: then `b.c` of `a` and `c` of `a.b` would be one account. -/
theorem account_inj {s s' label label' : String} (hlabel : '.' ∉ label.toList)
    (hlabel' : '.' ∉ label'.toList) (h : account s label = account s' label') :
    s = s' ∧ label = label' := by
  have hchars : s.toList ++ '.' :: label.toList = s'.toList ++ '.' :: label'.toList := by
    have hlist := congrArg String.toList h
    simpa [account] using hlist
  -- If one of the names went on after the other has ended, its next character would be the dot, and
  -- its last dot would be in a label.
  rcases List.append_eq_append_iff.mp hchars with ⟨more, hs, hl⟩ | ⟨more, hs, hl⟩
  · cases more with
    | nil =>
      rw [List.append_nil] at hs
      exact ⟨(String.toList_inj.mp hs).symm, String.toList_inj.mp (List.cons.inj hl).2⟩
    | cons c rest =>
      have htail := (List.cons.inj hl).2
      exact absurd (htail ▸ List.mem_append_right rest List.mem_cons_self) hlabel
  · cases more with
    | nil =>
      rw [List.append_nil] at hs
      exact ⟨String.toList_inj.mp hs, (String.toList_inj.mp (List.cons.inj hl).2).symm⟩
    | cons c rest =>
      have htail := (List.cons.inj hl).2
      exact absurd (htail ▸ List.mem_append_right rest List.mem_cons_self) hlabel'

end Metrics

namespace Name

/-- Whether a name could be that of an account of a histogram: a text that begins with `histo.`. -/
def isReserved (name : Name) : Bool :=
  match name.key with
  | .text s => "histo.".toList.isPrefixOf s.toList
  | _ => false

theorem isReserved_congr {name other : Name} (h : (name == other) = true) :
    name.isReserved = other.isReserved := by
  rw [isReserved, isReserved, beq_iff.mp h]

theorem isReserved_account (s label : String) :
    (text (Metrics.account s label)).isReserved = true := by
  have hchars : (Metrics.account s label).toList =
      "histo.".toList ++ (s ++ "." ++ label).toList := by
    simp [Metrics.account]
  show "histo.".toList.isPrefixOf (Metrics.account s label).toList = true
  rw [hchars, List.isPrefixOf_iff_prefix]
  exact List.prefix_append _ _

end Name

/-! ## Labels of buckets

A label is `le_` or `gt_` and an integer, which is written with digits and a sign.
-/

/-- What the label of a bucket has to be to be found in the list again. -/
structure IsBucketLabel (label : String) : Prop where
  undotted : '.' ∉ label.toList
  ne_sum : label ≠ "sum"
  ne_count : label ≠ "count"

theorem dot_not_mem_toString (n : Int) : '.' ∉ (toString n).toList := by
  rw [Text.toList_toString, List.mem_append, not_or]
  constructor
  · split
    · decide
    · exact List.not_mem_nil
  · intro h
    have hdigit := Nat.isDigit_of_mem_toDigits (by decide) (by decide) h
    exact absurd hdigit (by decide)

theorem isBucketLabel_append {front : String} (hdot : '.' ∉ front.toList)
    (hunderscore : '_' ∈ front.toList) (bound : Int) :
    IsBucketLabel (front ++ toString bound) := by
  have hmem : '_' ∈ (front ++ toString bound).toList := by
    rw [String.toList_append]
    exact List.mem_append_left _ hunderscore
  -- The underscore tells the label from those of the sum and of the count.
  refine ⟨?_, fun hsum => ?_, fun hcount => ?_⟩
  · rw [String.toList_append, List.mem_append, not_or]
    exact ⟨hdot, dot_not_mem_toString bound⟩
  · rw [hsum] at hmem
    exact absurd hmem (by decide)
  · rw [hcount] at hmem
    exact absurd hmem (by decide)

theorem Bucket.isBucketLabel {bucket : Bucket} {bound : Int} (h : bucket.bound = .int bound) :
    IsBucketLabel bucket.label := by
  cases bucket with
  | atMost d =>
    obtain rfl : d = .int bound := h
    exact isBucketLabel_append (by decide) (by decide) bound
  | above d =>
    obtain rfl : d = .int bound := h
    exact isBucketLabel_append (by decide) (by decide) bound

namespace Bounds

theorem mem_of_firstAtLeast {value bound : Datum} {bounds : List Datum}
    (h : firstAtLeast value bounds = .ok (some bound)) : bound ∈ bounds := by
  induction bounds with
  | nil => cases h
  | cons first rest ih =>
    rw [firstAtLeast] at h
    cases hle : value.isAtMost first with
    | error fault =>
      rw [hle] at h
      cases h
    | ok le =>
      rw [hle] at h
      cases le with
      | true =>
        cases h
        exact List.mem_cons_self
      | false => exact List.mem_cons_of_mem first (ih h)

theorem eq_of_labelled {bucket bucket' : Bucket} (h : bucket.labelled = .ok bucket') :
    bucket = bucket' := by
  rw [Bucket.labelled] at h
  split at h
  · exact Except.ok.inj h
  · cases h

/-- A bucket among integer bounds is named after one of them, whatever the value is. -/
theorem exists_of_bucketOf {value : Datum} {bounds : List Int} {bucket : Bucket}
    (h : (ofIntegers bounds).bucketOf value = .ok bucket) :
    ∃ bound : Int, bucket.bound = .int bound := by
  have hitems : ∀ bound ∈ bounds.map Datum.int, ∃ n : Int, bound = .int n := by
    intro bound hbound
    obtain ⟨n, -, rfl⟩ := List.mem_map.mp hbound
    exact ⟨n, rfl⟩
  unfold bucketOf at h
  simp only [ofIntegers, ofList] at h
  cases hfirst : firstAtLeast value (bounds.map Datum.int) with
  | error fault =>
    rw [hfirst] at h
    cases h
  | ok first =>
    rw [hfirst] at h
    cases first with
    | some bound =>
      obtain rfl := eq_of_labelled h
      exact hitems bound (mem_of_firstAtLeast hfirst)
    | none =>
      cases hlast : (bounds.map Datum.int).getLast? with
      | none =>
        rw [hlast] at h
        cases h
      | some bound =>
        rw [hlast] at h
        obtain rfl := eq_of_labelled h
        exact hitems bound (List.mem_of_getLast? hlast)

end Bounds

/-! ## Books that can be listed

Books can be reached in which something went wrong: a value that no integer can be read from is
entered in its bucket before that is found out, and neither counted nor added up. The invariant
holds of such books too, as it is about names and labels and not about numbers.
-/

namespace Histogram

/-- All buckets of a histogram have labels of buckets. -/
def IsLabelled (h : Histogram) : Prop :=
  ∀ label, (h.buckets.find? label).isSome = true → IsBucketLabel label

theorem isLabelled_empty : IsLabelled {} := by
  intro label hlabel
  cases hlabel

theorem IsLabelled.enter {h : Histogram} (hh : h.IsLabelled) {bucket : Bucket}
    (hbucket : IsBucketLabel bucket.label) : (h.enter bucket).IsLabelled := by
  intro label hlabel
  rw [Histogram.enter, OrderedMap.find?_insert] at hlabel
  split at hlabel
  · next hsame =>
    rw [beq_iff_eq.mp hsame]
    exact hbucket
  · exact hh label hlabel

end Histogram

namespace Metrics

/-- Books with texts for the names of their histograms, and labels that can be told from these. -/
structure IsListable (m : Metrics) : Prop where
  named (name : Name) : (m.histograms.find? name).isSome = true → ∃ s, name = .text s
  labelled (name : Name) : (m.histogram name).IsLabelled

namespace IsListable

variable {m : Metrics}

theorem empty : IsListable .empty where
  named name h := by cases h
  labelled name := Histogram.isLabelled_empty

theorem add (hm : m.IsListable) (counter : Name) (amount : Datum) :
    (m.addDatum counter amount).2.IsListable := by
  have hsame : (m.addDatum counter amount).2.histograms = m.histograms := by
    rw [addDatum]
    cases amount.toInteger with
    | ok n => rfl
    | error why => rfl
  constructor
  · rw [hsame]
    exact hm.named
  · intro name
    rw [histogram, hsame]
    exact hm.labelled name

theorem put (hm : m.IsListable) (s : String) {h : Histogram} (hh : h.IsLabelled) :
    (m.put (.text s) h).IsListable := by
  constructor
  · intro name hname
    rw [isSome_find?_put, Bool.or_eq_true] at hname
    rcases hname with hname | hname
    · exact hm.named name hname
    · exact ⟨s, Name.eq_text_of_beq hname⟩
  · intro name
    rw [histogram_put]
    split
    · exact hh
    · exact hm.labelled name

/-- Whatever becomes of an observation, it leaves only labels of buckets behind. -/
theorem observe (hm : m.IsListable) (s : String) (value : Datum) (bounds : List Int) :
    (m.observe (.text s) value (.ofIntegers bounds)).2.IsListable := by
  have hlabelled := hm.labelled (.text s)
  rw [Metrics.observe]
  cases hbucket : (Bounds.ofIntegers bounds).bucketOf value with
  | error fault => exact hm.put s hlabelled
  | ok bucket =>
    obtain ⟨bound, hbound⟩ := Bounds.exists_of_bucketOf hbucket
    have hentered := hlabelled.enter (Bucket.isBucketLabel hbound)
    cases value.toInteger with
    | ok n => exact hm.put s hentered
    | error why => exact hm.put s hentered

end IsListable

/-- Books that come of increments, observations with integer bounds or the default ones, and resets,
whether these go well or not. -/
inductive Reachable : Metrics → Prop
  | empty : Reachable .empty
  | add {m : Metrics} (counter : Name) (amount : Datum) (h : Reachable m) :
      Reachable (m.addDatum counter amount).2
  | observe {m : Metrics} (histogram : String) (value : Datum) (bounds : Option (List Int))
      (h : Reachable m) :
      Reachable (m.observe (.text histogram) value (bounds.elim .default .ofIntegers)).2
  | reset {m : Metrics} (h : Reachable m) : Reachable .empty

/-- The step lemmas together: no way of posting to the books brings a label with a dot into them. -/
theorem Reachable.isListable {m : Metrics} (h : m.Reachable) : m.IsListable := by
  induction h with
  | empty => exact .empty
  | add counter amount _ ih => exact ih.add counter amount
  | observe histogram value bounds _ ih =>
    cases bounds with
    | none => exact ih.observe histogram value Bounds.standard
    | some bounds => exact ih.observe histogram value bounds
  | reset _ _ => exact .empty

end Metrics

/-! ## The accounts of a histogram

The buckets come first, then the sum and the count. As no bucket is labelled `sum` or `count`, a
label says which of the three it belongs to.
-/

namespace Histogram

/-- What is listed of a histogram, by labels. -/
def accounts (h : Histogram) : List (String × Int) :=
  h.buckets.entries.map (fun e => (e.1, (e.2 : Int))) ++
    [("sum", h.sum), ("count", (h.count : Int))]

variable {h : Histogram}

theorem mem_accounts {label : String} {value : Int} :
    (label, value) ∈ h.accounts ↔
      (∃ n, h.buckets.find? label = some n ∧ value = n) ∨
        label = "sum" ∧ value = h.sum ∨ label = "count" ∧ value = h.count := by
  have hbuckets : (label, value) ∈ h.buckets.entries.map (fun e => (e.1, (e.2 : Int))) ↔
      ∃ n, h.buckets.find? label = some n ∧ value = n := by
    rw [List.mem_map]
    constructor
    · rintro ⟨e, he, hsame⟩
      obtain ⟨rfl, rfl⟩ := Prod.mk.inj hsame
      exact ⟨e.2, OrderedMap.find?_of_mem he, rfl⟩
    · rintro ⟨n, hfind, rfl⟩
      obtain ⟨e, he, hkey, rfl⟩ := OrderedMap.find?_eq_some_iff.mp hfind
      exact ⟨e, he, by rw [beq_iff_eq.mp hkey]⟩
  rw [accounts, List.mem_append, hbuckets]
  simp

namespace IsLabelled

theorem undotted (hh : h.IsLabelled) {e : String × Int} (he : e ∈ h.accounts) :
    '.' ∉ e.1.toList := by
  rcases mem_accounts.mp he with ⟨n, hfind, -⟩ | ⟨hlabel, -⟩ | ⟨hlabel, -⟩
  · exact (hh e.1 (by rw [hfind]; rfl)).undotted
  · rw [hlabel]
    decide
  · rw [hlabel]
    decide

theorem mem_accounts_sum (hh : h.IsLabelled) {value : Int} :
    ("sum", value) ∈ h.accounts ↔ value = h.sum := by
  rw [mem_accounts]
  constructor
  · rintro (⟨n, hfind, -⟩ | ⟨-, hvalue⟩ | ⟨hlabel, -⟩)
    · exact absurd rfl (hh "sum" (by rw [hfind]; rfl)).ne_sum
    · exact hvalue
    · exact absurd hlabel (by decide)
  · intro hvalue
    exact .inr (.inl ⟨rfl, hvalue⟩)

theorem mem_accounts_count (hh : h.IsLabelled) {value : Int} :
    ("count", value) ∈ h.accounts ↔ value = h.count := by
  rw [mem_accounts]
  constructor
  · rintro (⟨n, hfind, -⟩ | ⟨hlabel, -⟩ | ⟨-, hvalue⟩)
    · exact absurd rfl (hh "count" (by rw [hfind]; rfl)).ne_count
    · exact absurd hlabel (by decide)
    · exact hvalue
  · intro hvalue
    exact .inr (.inr ⟨rfl, hvalue⟩)

theorem mem_accounts_bucket {label : String} (hlabel : IsBucketLabel label) {n : Nat} :
    (label, (n : Int)) ∈ h.accounts ↔ h.buckets.find? label = some n := by
  rw [mem_accounts]
  constructor
  · rintro (⟨n', hfind, hn⟩ | ⟨hsum, -⟩ | ⟨hcount, -⟩)
    · rw [hfind, Int.ofNat_inj.mp hn]
    · exact absurd hsum hlabel.ne_sum
    · exact absurd hcount hlabel.ne_count
  · intro hfind
    exact .inl ⟨n, hfind, rfl⟩

theorem distinct_accounts (hh : h.IsLabelled) : h.accounts.Pairwise fun a b => a.1 ≠ b.1 := by
  have hbuckets : (h.buckets.entries.map fun e => (e.1, (e.2 : Int))).Pairwise
      fun a b => a.1 ≠ b.1 :=
    List.pairwise_map.mpr (h.buckets.distinct.imp fun hne => ne_of_beq_false hne)
  refine List.pairwise_append.mpr ⟨hbuckets, by simp, fun a ha b hb => ?_⟩
  obtain ⟨e, he, rfl⟩ := List.mem_map.mp ha
  have hlabel : IsBucketLabel e.1 := hh e.1 (by rw [OrderedMap.find?_of_mem he]; rfl)
  simp only [List.mem_cons, List.not_mem_nil, or_false] at hb
  rcases hb with rfl | rfl
  · exact hlabel.ne_sum
  · exact hlabel.ne_count

end IsLabelled

end Histogram

/-! ## The list

The list is a copy of the counters into which the accounts of the histograms are written one by one.
A later entry would replace an earlier one of the same name.
-/

namespace Metrics

theorem histogramEntries_text (s : String) (h : Histogram) :
    histogramEntries (.text s) h = h.accounts.map fun e => (account s e.1, e.2) := by
  rw [Histogram.accounts, List.map_append, List.map_map]
  rfl

/-- All that is listed of histograms. -/
def listed (m : Metrics) : List (Name × Int) :=
  m.histograms.entries.flatMap fun e =>
    (histogramEntries e.1 e.2).map fun (account, value) => (.text account, value)

namespace IsListable

variable {m : Metrics}

theorem of_mem (hm : m.IsListable) {e : Name × Histogram} (he : e ∈ m.histograms.entries) :
    ∃ s, e.1 = .text s ∧ e.2.IsLabelled ∧
      (histogramEntries e.1 e.2).map (fun (account, value) => (Name.text account, value)) =
        e.2.accounts.map fun a => (Name.text (account s a.1), a.2) := by
  have hfind := OrderedMap.find?_of_mem he
  obtain ⟨s, hs⟩ := hm.named e.1 (by rw [hfind]; rfl)
  have hlabelled := hm.labelled e.1
  rw [histogram, OrderedMap.findD, hfind] at hlabelled
  refine ⟨s, hs, hlabelled, ?_⟩
  rw [hs, histogramEntries_text, List.map_map]
  rfl

theorem mem_listed (hm : m.IsListable) {e : Name × Int} :
    e ∈ m.listed ↔ ∃ s h a, m.histograms.find? (.text s) = some h ∧ a ∈ h.accounts ∧
      e = (.text (account s a.1), a.2) := by
  rw [listed, List.mem_flatMap]
  constructor
  · rintro ⟨entry, hentry, he⟩
    obtain ⟨s, hs, -, haccounts⟩ := hm.of_mem hentry
    rw [haccounts] at he
    obtain ⟨a, ha, rfl⟩ := List.mem_map.mp he
    exact ⟨s, entry.2, a, hs ▸ OrderedMap.find?_of_mem hentry, ha, rfl⟩
  · rintro ⟨s, h, a, hfind, ha, rfl⟩
    obtain ⟨entry, hentry, hkey, rfl⟩ := OrderedMap.find?_eq_some_iff.mp hfind
    obtain ⟨s', hs', -, haccounts⟩ := hm.of_mem hentry
    rw [hs', Name.text_beq, beq_iff_eq] at hkey
    refine ⟨entry, hentry, ?_⟩
    rw [haccounts, hkey]
    exact List.mem_map_of_mem ha

theorem distinct_listed (hm : m.IsListable) :
    m.listed.Pairwise fun a b => (a.1 == b.1) = false := by
  refine List.pairwise_flatMap.mpr ⟨fun e he => ?_, ?_⟩
  · -- Within a histogram the labels differ.
    obtain ⟨s, -, hlabelled, haccounts⟩ := hm.of_mem he
    rw [haccounts, List.pairwise_map]
    refine hlabelled.distinct_accounts.imp_of_mem fun {a b} ha hb hne => ?_
    rw [Name.text_beq, beq_eq_false_iff_ne]
    intro hsame
    exact hne (account_inj (hlabelled.undotted ha) (hlabelled.undotted hb) hsame).2
  · -- Between histograms the names do.
    refine m.histograms.distinct.imp_of_mem fun {e e'} he he' hne => ?_
    obtain ⟨s, hs, hlabelled, haccounts⟩ := hm.of_mem he
    obtain ⟨s', hs', hlabelled', haccounts'⟩ := hm.of_mem he'
    rw [haccounts, haccounts']
    intro x hx y hy
    obtain ⟨a, ha, rfl⟩ := List.mem_map.mp hx
    obtain ⟨b, hb, rfl⟩ := List.mem_map.mp hy
    rw [hs, hs', Name.text_beq, beq_eq_false_iff_ne] at hne
    rw [Name.text_beq, beq_eq_false_iff_ne]
    intro hsame
    exact hne (account_inj (hlabelled.undotted ha) (hlabelled'.undotted hb) hsame).1

end IsListable

/-- No counter has the name of an account of a histogram. -/
def IsUnreserved (m : Metrics) : Prop := ∀ name ∈ m.counters.keys, name.isReserved = false

instance (m : Metrics) : Decidable m.IsUnreserved :=
  inferInstanceAs (Decidable (∀ name ∈ m.counters.keys, name.isReserved = false))

section

variable {m : Metrics}

theorem find?_counters_of_isReserved (hc : m.IsUnreserved) {name : Name}
    (h : name.isReserved = true) : m.counters.find? name = none := by
  rw [Option.eq_none_iff_forall_ne_some]
  intro value hfind
  obtain ⟨e, he, hkey, -⟩ := OrderedMap.find?_eq_some_iff.mp hfind
  have hfree := hc e.1 (List.mem_map_of_mem he)
  rw [← Name.isReserved_congr hkey, h] at hfree
  cases hfree

/-- Nothing in the list is written over: it is the counters and then the accounts of the histograms,
each as often as there are any. That no counter takes a reserved name is needed, since one may
well be called `histo.x.sum`. -/
theorem entries_flatten (hm : m.IsListable) (hc : m.IsUnreserved) :
    m.flatten.entries = m.counters.entries ++ m.listed := by
  refine OrderedMap.entries_insertAll m.counters
    (List.pairwise_append.mpr ⟨m.counters.distinct, hm.distinct_listed, fun a ha b hb => ?_⟩)
  obtain ⟨s, h, e, -, -, rfl⟩ := hm.mem_listed.mp hb
  rw [Bool.eq_false_iff]
  intro hkey
  have hfree := hc a.1 (List.mem_map_of_mem ha)
  rw [Name.isReserved_congr hkey, Name.isReserved_account] at hfree
  cases hfree

theorem find?_flatten_eq_some_iff (hm : m.IsListable) (hc : m.IsUnreserved) {name : Name}
    {value : Int} :
    m.flatten.find? name = some value ↔
      m.counters.find? name = some value ∨
        ∃ s h a, m.histograms.find? (.text s) = some h ∧ a ∈ h.accounts ∧
          name = .text (account s a.1) ∧ value = a.2 := by
  rw [OrderedMap.find?_eq_some_iff, entries_flatten hm hc]
  constructor
  · rintro ⟨e, he, hkey, rfl⟩
    rcases List.mem_append.mp he with he | he
    · exact .inl (OrderedMap.find?_eq_some_iff.mpr ⟨e, he, hkey, rfl⟩)
    · obtain ⟨s, h, a, hfind, ha, rfl⟩ := hm.mem_listed.mp he
      exact .inr ⟨s, h, a, hfind, ha, Name.eq_text_of_beq hkey, rfl⟩
  · rintro (hfind | ⟨s, h, a, hfind, ha, rfl, rfl⟩)
    · obtain ⟨e, he, hkey, hvalue⟩ := OrderedMap.find?_eq_some_iff.mp hfind
      exact ⟨e, List.mem_append_left _ he, hkey, hvalue⟩
    · exact ⟨_, List.mem_append_right _ (hm.mem_listed.mpr ⟨s, h, a, hfind, ha, rfl⟩), BEq.rfl, rfl⟩

theorem find?_flatten_counter (hm : m.IsListable) (hc : m.IsUnreserved) {name : Name}
    (hname : name.isReserved = false) : m.flatten.find? name = m.counters.find? name := by
  refine Option.ext fun value => ?_
  rw [find?_flatten_eq_some_iff hm hc]
  refine ⟨?_, .inl⟩
  rintro (hfind | ⟨s, h, a, -, -, rfl, -⟩)
  · exact hfind
  · rw [Name.isReserved_account] at hname
    cases hname

/-- An account of a histogram is read off the list under the name that is put together for it, and
under this one only. -/
theorem find?_flatten_account (hm : m.IsListable) (hc : m.IsUnreserved) {s label : String}
    (hlabel : '.' ∉ label.toList) {value : Int} :
    m.flatten.find? (.text (account s label)) = some value ↔
      ∃ h, m.histograms.find? (.text s) = some h ∧ (label, value) ∈ h.accounts := by
  rw [find?_flatten_eq_some_iff hm hc,
    find?_counters_of_isReserved hc (Name.isReserved_account s label)]
  constructor
  · rintro (hnone | ⟨s', h, a, hfind, ha, hname, rfl⟩)
    · cases hnone
    · have hlabelled := hm.labelled (.text s')
      rw [histogram, OrderedMap.findD, hfind] at hlabelled
      obtain ⟨rfl, rfl⟩ := account_inj hlabel (hlabelled.undotted ha) (Name.text.inj hname)
      exact ⟨h, hfind, ha⟩
  · rintro ⟨h, hfind, ha⟩
    exact .inr ⟨s, h, (label, value), hfind, ha, rfl, rfl⟩

theorem IsListable.isLabelled (hm : m.IsListable) {name : Name} {h : Histogram}
    (hfind : m.histograms.find? name = some h) : h.IsLabelled := by
  have hlabelled := hm.labelled name
  rw [histogram, OrderedMap.findD, hfind] at hlabelled
  exact hlabelled

end

end Metrics

/-! ## From the list back to the books

Books are alike if no reader can tell them apart: the same counters, the same histograms open, and
the same in every bucket, sum and count.
-/

/-- Histograms of which the same is listed are alike. Labels with a dot are left out of the
comparison, since the list says nothing of them, and neither histogram has any. -/
theorem Histogram.readsAlike_of_accounts {h h' : Histogram} (hh : h.IsLabelled)
    (hh' : h'.IsLabelled)
    (hsame : ∀ label value, '.' ∉ label.toList →
      ((label, value) ∈ h.accounts ↔ (label, value) ∈ h'.accounts)) : h.ReadsAlike h' where
  bucket label := by
    by_cases hlabel : IsBucketLabel label
    · refine Option.ext fun n => ?_
      have hiff := hsame label n hlabel.undotted
      rwa [IsLabelled.mem_accounts_bucket hlabel, IsLabelled.mem_accounts_bucket hlabel] at hiff
    · rw [Option.not_isSome_iff_eq_none.mp fun h => hlabel (hh label h),
        Option.not_isSome_iff_eq_none.mp fun h => hlabel (hh' label h)]
  sum := hh'.mem_accounts_sum.mp ((hsame "sum" h.sum (by decide)).mp (hh.mem_accounts_sum.mpr rfl))
  count := by
    have hlisted := (hsame "count" h.count (by decide)).mp (hh.mem_accounts_count.mpr rfl)
    exact Int.ofNat_inj.mp (hh'.mem_accounts_count.mp hlisted)

namespace Metrics

section

variable {m m' : Metrics}

theorem isSome_of_flatten (hm : m.IsListable) (hc : m.IsUnreserved) (hm' : m'.IsListable)
    (hc' : m'.IsUnreserved) (h : ∀ name, m.flatten.find? name = m'.flatten.find? name)
    {name : Name} (hopen : (m.histograms.find? name).isSome = true) :
    (m'.histograms.find? name).isSome = true := by
  obtain ⟨s, rfl⟩ := hm.named name hopen
  obtain ⟨g, hfind⟩ := Option.isSome_iff_exists.mp hopen
  -- An open histogram has a sum in the list.
  have hsum := (find?_flatten_account hm hc (by decide)).mpr
    ⟨g, hfind, (hm.isLabelled hfind).mem_accounts_sum.mpr rfl⟩
  rw [h] at hsum
  obtain ⟨g', hfind', -⟩ := (find?_flatten_account hm' hc' (by decide)).mp hsum
  rw [hfind']
  rfl

theorem readsAlike_of_flatten (hm : m.IsListable) (hc : m.IsUnreserved) (hm' : m'.IsListable)
    (hc' : m'.IsUnreserved) (h : ∀ name, m.flatten.find? name = m'.flatten.find? name) :
    m.ReadsAlike m' where
  counter name := by
    cases hname : name.isReserved with
    | true => rw [find?_counters_of_isReserved hc hname, find?_counters_of_isReserved hc' hname]
    | false => rw [← find?_flatten_counter hm hc hname, ← find?_flatten_counter hm' hc' hname, h]
  opened name := Bool.eq_iff_iff.mpr
    ⟨isSome_of_flatten hm hc hm' hc' h, isSome_of_flatten hm' hc' hm hc fun name => (h name).symm⟩
  histogram name := by
    refine Histogram.readsAlike_of_accounts (hm.labelled name) (hm'.labelled name) ?_
    intro label value hlabel
    have hopened : (m.histograms.find? name).isSome = true →
        (m'.histograms.find? name).isSome = true := isSome_of_flatten hm hc hm' hc' h
    have hopened' : (m'.histograms.find? name).isSome = true →
        (m.histograms.find? name).isSome = true :=
      isSome_of_flatten hm' hc' hm hc fun name => (h name).symm
    rw [histogram, histogram, OrderedMap.findD, OrderedMap.findD]
    cases hfind : m.histograms.find? name with
    | none =>
      rw [hfind] at hopened'
      have hnone : m'.histograms.find? name = none :=
        Option.not_isSome_iff_eq_none.mp fun hopen => by cases hopened' hopen
      rw [hnone]
    | some g =>
      rw [hfind] at hopened
      obtain ⟨g', hfind'⟩ := Option.isSome_iff_exists.mp (hopened rfl)
      obtain ⟨s, rfl⟩ := hm.named name (by rw [hfind]; rfl)
      have hiff : (∃ h, m.histograms.find? (.text s) = some h ∧ (label, value) ∈ h.accounts) ↔
          ∃ h, m'.histograms.find? (.text s) = some h ∧ (label, value) ∈ h.accounts := by
        rw [← find?_flatten_account hm hc hlabel, h, find?_flatten_account hm' hc' hlabel]
      rw [hfind, hfind'] at hiff
      rw [hfind']
      simpa using hiff

end

/-- The list of all accounts has one entry for each counter, one for each bucket of a histogram and
two for its sum and its count. Under its own name each is found with its own value, so books that
differ in any of them have different lists. -/
theorem flatten_lossless {m : Metrics} (hm : m.Reachable) (hc : m.IsUnreserved) :
    m.flatten.keys = m.counters.keys ++ m.histograms.entries.flatMap (fun e =>
      (e.2.buckets.keys ++ ["sum", "count"]).map fun label =>
        .text (account e.1.display label)) ∧
    m.flatten.entries.length = m.counters.entries.length +
      (m.histograms.entries.map fun e => e.2.buckets.entries.length + 2).sum ∧
    (∀ name value, m.counters.find? name = some value → m.flatten.find? name = some value) ∧
    (∀ s h, m.histograms.find? (.text s) = some h →
      (∀ label n, h.buckets.find? label = some n →
        m.flatten.find? (.text (account s label)) = some (n : Int)) ∧
      m.flatten.find? (.text (account s "sum")) = some h.sum ∧
      m.flatten.find? (.text (account s "count")) = some (h.count : Int)) ∧
    ∀ m' : Metrics, m'.Reachable → m'.IsUnreserved →
      (∀ name, m.flatten.find? name = m'.flatten.find? name) → m.ReadsAlike m' := by
  have hl := hm.isListable
  have hentries := entries_flatten hl hc
  refine ⟨?_, ?_, fun name value hfind => ?_, fun s h hfind => ?_, fun m' hm' hc' hsame => ?_⟩
  · rw [OrderedMap.keys, hentries, List.map_append, listed, List.map_flatMap]
    refine congrArg (m.counters.keys ++ ·) (List.flatMap_congr fun e _ => ?_)
    simp [histogramEntries, OrderedMap.keys, account, Function.comp_def]
  · rw [hentries, List.length_append, listed, List.length_flatMap]
    refine congrArg (_ + List.sum ·) (List.map_congr_left fun e _ => ?_)
    rw [List.length_map, histogramEntries, List.length_append, List.length_map]
    rfl
  · exact (find?_flatten_eq_some_iff hl hc).mpr (.inl hfind)
  · have hlabelled := hl.isLabelled hfind
    refine ⟨fun label n hbucket => ?_, ?_, ?_⟩
    · have hlabel := hlabelled label (by rw [hbucket]; rfl)
      exact (find?_flatten_account hl hc hlabel.undotted).mpr
        ⟨h, hfind, (Histogram.IsLabelled.mem_accounts_bucket hlabel).mpr hbucket⟩
    · exact (find?_flatten_account hl hc (by decide)).mpr
        ⟨h, hfind, hlabelled.mem_accounts_sum.mpr rfl⟩
    · exact (find?_flatten_account hl hc (by decide)).mpr
        ⟨h, hfind, hlabelled.mem_accounts_count.mpr rfl⟩
  · exact readsAlike_of_flatten hl hc hm'.isListable hc' hsame

/-- A histogram called like the sum of another, and one called like its bucket. -/
theorem flatten_lossless_nested_names :
    ∃ m : Metrics, m.Reachable ∧ m.IsUnreserved ∧
      m.flatten.entries.length = 11 ∧
      m.flatten.find? (.text "histo") = some 2 ∧
      m.flatten.find? (.text (account "x" "le_-5")) = some 1 ∧
      m.flatten.find? (.text (account "x" "sum")) = some 1 ∧
      m.flatten.find? (.text (account "x.sum" "sum")) = some 3 ∧
      m.flatten.find? (.text (account "x.le_-5" "count")) = some 1 := by
  let added := (Metrics.empty.addDatum (.text "histo") (.text " 2 ")).2
  let once := (added.observe (.text "x") (.int (-6)) (.ofIntegers [-7, -5])).2
  let twice := (once.observe (.text "x") (.int 7) .default).2
  let like := (twice.observe (.text "x.sum") (.int 3) .default).2
  let m := (like.observe (.text "x.le_-5") (.int 1) (.ofIntegers [1])).2
  have hm : m.Reachable :=
    .observe "x.le_-5" (.int 1) (some [1]) <| .observe "x.sum" (.int 3) none <|
      .observe "x" (.int 7) none <| .observe "x" (.int (-6)) (some [-7, -5]) <|
        .add (.text "histo") (.text " 2 ") .empty
  have hc : m.IsUnreserved := by decide +kernel
  obtain ⟨-, hlength, hcounters, hhistograms, -⟩ := flatten_lossless hm hc
  have hopen : ∀ s ∈ ["x", "x.sum", "x.le_-5"],
      m.histograms.find? (.text s) = some (m.histogram (.text s)) := by
    intro s hs
    have hsome : (m.histograms.find? (.text s)).isSome = true := by
      revert s
      decide +kernel
    obtain ⟨h, hfind⟩ := Option.isSome_iff_exists.mp hsome
    rw [histogram, OrderedMap.findD, hfind]
    rfl
  obtain ⟨hbuckets, hsum, -⟩ := hhistograms "x" _ (hopen "x" (by decide))
  obtain ⟨-, hsum', -⟩ := hhistograms "x.sum" _ (hopen "x.sum" (by decide))
  obtain ⟨-, -, hcount⟩ := hhistograms "x.le_-5" _ (hopen "x.le_-5" (by decide))
  have hsumX : (m.histogram (.text "x")).sum = 1 := by decide +kernel
  have hsumSum : (m.histogram (.text "x.sum")).sum = 3 := by decide +kernel
  have hcountBucket : (m.histogram (.text "x.le_-5")).count = 1 := by decide +kernel
  rw [hsumX] at hsum
  rw [hsumSum] at hsum'
  rw [hcountBucket] at hcount
  refine ⟨m, hm, hc, ?_, ?_, ?_, hsum, hsum', hcount⟩
  · rw [hlength]
    decide +kernel
  · exact hcounters (.text "histo") 2 (by decide +kernel)
  · exact hbuckets "le_-5" 1 (by decide +kernel)

end Metrics

end Dicebox
