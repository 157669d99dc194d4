import Dicebox.Datum.Arithmetic
import Dicebox.Datum.Items
import Dicebox.Name
import Dicebox.Run

/-!
# Metrics — the books that are kept about throws

Two kinds of account. A **counter** is a number that goes up. A **histogram** sorts observed values
into buckets by their size, and also keeps how many there were and their sum; its buckets are
created as they are needed, and are known by their labels. A bound that is too long to be written
makes no label, and a value that would have to go by it is refused.

Values and bounds are compared as data are (`Datum.isAtMost`), so anything that compares can be
observed; but only what is an integer in the end (`Datum.toInteger`) enters the sum. A value that is
none has been put into its bucket by the time this is found out.

All of the accounts can be listed in a single map of names (`Metrics.flatten`), in which those of a
histogram are named after it and after the bucket. A counter whose name happens to be such a name is
hidden by it.
-/

set_option autoImplicit false

namespace Dicebox

/-! ## Buckets -/

/-- Where an observed value goes: to the values that are at most a bound and above the bounds before
it, or to those above the last bound. -/
inductive Bucket
  | atMost (bound : Datum)
  | above (bound : Datum)
  deriving Inhabited

namespace Bucket

def label : Bucket → String
  | .atMost bound => "le_" ++ bound.display
  | .above bound => "gt_" ++ bound.display

/-- The bound that a bucket is named after. -/
def bound : Bucket → Datum
  | .atMost bound | .above bound => bound

/-- A bucket, unless its bound is a number that is too long to be written in a label. -/
def labelled (b : Bucket) : Except Fault Bucket :=
  if b.bound.write?.isSome then .ok b else .error .numeralTooLong

end Bucket

/-- The bounds between buckets, in the order in which a value is held against them, and the one that
the values above all of them are named after. -/
structure Bounds where
  items : List Datum
  last : Except Fault Datum

namespace Bounds

/-- The bounds of a list. -/
def ofList (items : List Datum) : Bounds where
  items
  last := match items.getLast? with
    | some bound => .ok bound
    | none => .error .noBounds

/-- Bounds that are integers. -/
def ofIntegers (bounds : List Int) : Bounds := ofList (bounds.map .int)

/-- The bounds that are used unless others are given. -/
def default : Bounds := ofIntegers [1, 2, 5, 10, 20, 50, 100, 1000, 10000, 100000]

instance : Inhabited Bounds := ⟨default⟩

/-- The bounds that a datum holds. A table has no last one. -/
def ofDatum (d : Datum) : Except Fault Bounds := do
  let items ← d.items
  match d with
  | .table _ => return ⟨items, .error .boundsAreTable⟩
  | _ => return ofList items

/-- The first of some bounds that a value does not exceed. -/
def firstAtLeast (value : Datum) : List Datum → Except Fault (Option Datum)
  | [] => .ok none
  | bound :: others => do
    if ← value.isAtMost bound then return some bound else firstAtLeast value others

/-- The bucket of a value: that of the first bound that it does not exceed, and otherwise the rest
above the last one. -/
def bucketOf (b : Bounds) (value : Datum) : Except Fault Bucket := do
  match ← firstAtLeast value b.items with
  | some bound => Bucket.labelled (.atMost bound)
  | none => Bucket.labelled (.above (← b.last))

end Bounds

/-! ## Histograms -/

/-- How many values went into each bucket, how many there were, and their sum. -/
structure Histogram where
  buckets : OrderedMap String Nat := .empty
  sum : Int := 0
  count : Nat := 0
  deriving Inhabited

namespace Histogram

/-- Puts a value into a bucket, and leaves it out of the sum. -/
def enter (h : Histogram) (bucket : Bucket) : Histogram :=
  { h with buckets := h.buckets.insert bucket.label (h.buckets.findD bucket.label 0 + 1) }

/-- Adds a value to the sum. -/
def tally (h : Histogram) (value : Int) : Histogram :=
  { h with sum := h.sum + value, count := h.count + 1 }

end Histogram

/-! ## The books -/

/-- All counters and histograms. -/
structure Metrics where
  counters : OrderedMap Name Int := .empty
  histograms : OrderedMap Name Histogram := .empty
  deriving Inhabited

namespace Metrics

/-- Empty books. -/
def empty : Metrics := {}

/-- The value of a counter; one that was never touched stands at zero. -/
def counter (m : Metrics) (name : Name) : Int := m.counters.findD name 0

/-- Adds to a counter. -/
def add (m : Metrics) (name : Name) (n : Int) : Metrics :=
  { m with counters := m.counters.insert name (m.counter name + n) }

/-- Adds what a datum is read as to a counter. If it is no integer, the counter is still opened. -/
def addDatum (m : Metrics) (name : Name) (d : Datum) : Except Fault Int × Metrics :=
  match d.toInteger with
  | .ok n => (.ok ((m.add name n).counter name), m.add name n)
  | .error why => (.error (.notInteger why), m.add name 0)

/-- Writes a histogram. -/
def put (m : Metrics) (name : Name) (h : Histogram) : Metrics :=
  { m with histograms := m.histograms.insert name h }

/-- Enters a value into a histogram. If there is no bucket for it, the histogram is opened only; if
it is no integer, its bucket is all that changes. -/
def observe (m : Metrics) (name : Name) (value : Datum) (bounds : Bounds) :
    Except Fault Unit × Metrics :=
  let histogram := m.histograms.findD name {}
  match bounds.bucketOf value with
  | .error fault => (.error fault, m.put name histogram)
  | .ok bucket =>
    match value.toInteger with
    | .ok n => (.ok (), m.put name ((histogram.enter bucket).tally n))
    | .error why => (.error (.notInteger why), m.put name (histogram.enter bucket))

/-- Enters a value into a histogram whose bounds are those that a datum holds. -/
def observeWithin (m : Metrics) (name : Name) (value bounds : Datum) :
    Except Fault Unit × Metrics :=
  match Bounds.ofDatum bounds with
  | .ok bounds => m.observe name value bounds
  | .error fault => (.error fault, m.put name (m.histograms.findD name {}))

/-- The accounts of a histogram under its name. -/
def histogramEntries (name : Name) (h : Histogram) : List (String × Int) :=
  let account (what : String) : String := "histo." ++ name.display ++ "." ++ what
  h.buckets.entries.map (fun e => (account e.1, (e.2 : Int))) ++
    [(account "sum", h.sum), (account "count", (h.count : Int))]

/-- All accounts by name. -/
def flatten (m : Metrics) : OrderedMap Name Int :=
  m.counters.insertAll
    (m.histograms.entries.flatMap fun e =>
      (histogramEntries e.1 e.2).map fun (account, value) => (.text account, value))

/-! ## Keeping the books of a run -/

/-- What an event changes in the books. -/
def enter (m : Metrics) : Event → Metrics
  | .counted name => m.add name 1
  | .observed name value => (m.observe name value .default).2
  | .shown _ | .logged _ | .sent _ => m

/-- The books after the events of a run. -/
def book (m : Metrics) (events : List Event) : Metrics := events.foldl enter m

@[simp] theorem book_nil (m : Metrics) : m.book [] = m := rfl

theorem book_append (m : Metrics) (a b : List Event) : m.book (a ++ b) = (m.book a).book b := by
  simp [book]

end Metrics

end Dicebox
