import Dicebox.Datum.Arithmetic
import Dicebox.Datum.Items
import Dicebox.Throw.Evaluate

/-!
# Reports — how evenly the faces came up

A report counts how often each face of a throw came up, and compares the counts with the mean they
would all have if the dice were perfectly even. The comparison is done in doubles, each operation
rounded on its own: a percentage is a quotient, times one hundred, to two places; a deviation is the
distance of a count from the mean, over the mean.

`Report` holds whatever figures it is given, of any kind; the statistics of a report can therefore
fail, if a figure is no number, or beyond all doubles, or if there is no face to take the largest
deviation of. `Report.of` builds the report of a throw, where all figures are integers.
-/

set_option autoImplicit false

namespace Dicebox

open Number

/-- Faces and how often each came up, with the figures of the summary. -/
structure Report where
  label : Datum
  sides : Datum
  /-- Each face with its count, in the order in which they are listed. -/
  counts : List (Datum × Datum)
  totalRolls : Datum
  minCount : Datum
  maxCount : Datum
  difference : Datum
  /-- The time that the throw took, in milliseconds. -/
  elapsed : Double
  deriving Inhabited

namespace Report

/-! ## Figures -/

/-- A count in percent of a total, to two places. -/
def percentage (total count : Datum) : Except Fault Double := do
  let share ← count.divide total
  return (share.mul (.finite ⟨false, 100, 0⟩)).roundPlaces 2

/-- Each face with its percentage. All are zero if nothing was rolled. -/
def percentages (r : Report) : Except Fault (List (Datum × Double)) :=
  if r.totalRolls.isGiven then
    r.counts.mapM fun e => do return (e.1, ← percentage r.totalRolls e.2)
  else .ok (r.counts.map fun e => (e.1, .finite .zero))

/-- The distance of a count from a mean other than zero, relative to the mean. -/
def deviation (mean : Double) (count : Datum) : Except Fault Double := do
  return (← count.minus mean).abs.div mean

/-- The larger of two doubles; of two equal ones, and of two that do not compare, the first. -/
def larger (x y : Double) : Double := if x.lt y then y else x

/-- The largest deviation of any face from the mean. -/
def maxDeviation (r : Report) : Except Fault Double := do
  let mean ← r.totalRolls.divide r.sides
  if mean.isZero then return .finite .zero
  match ← r.counts.mapM fun e => deviation mean e.2 with
  | [] => .error .noCounts
  | first :: others => return others.foldl larger first

/-- The line of a face. -/
def faceLine (face count : Datum) (percentage : Double) : String :=
  face.display ++ " results:\t" ++ count.display ++ "\t" ++ percentage.toText ++ "%"

/-- The lines of the summary. -/
def summaryLines (r : Report) : List String :=
  ["Max value: " ++ r.maxCount.display, "Min value: " ++ r.minCount.display,
    "Difference: " ++ r.difference.display,
    "Time taken: " ++ r.elapsed.toWholeText ++ " msec"]

/-- The report in words: a line for each face, and the summary. -/
def lines (r : Report) : Except Fault (List String) := do
  let percentages ← r.percentages
  return List.zipWith (fun e p => faceLine e.1 e.2 p.2) r.counts percentages ++ r.summaryLines

/-- The lines as one text. -/
def render (r : Report) (separator : String) : Except Fault String := do
  return String.intercalate separator (← r.lines)

/-! ## Faces with counts -/

/-- Puts the count of a face: a new face comes last, a face that is there keeps its place. Faces
are told apart as data are, so that `1` and `1.0` are one face. -/
def putCount (face count : Datum) : List (Datum × Datum) → List (Datum × Datum)
  | [] => [(face, count)]
  | (f, c) :: rest => if f.same face then (f, count) :: rest else (f, c) :: putCount face count rest

/-- Counts one after another as the counts of a report, in which a face has its last count. Each of
them has to be a face and a count, and what holds other data is no face. -/
def countsOf (counts : Datum) : Except Fault (List (Datum × Datum)) := do
  (← counts.items).foldlM (fun counts d => do
    let (face, count) ← d.pair
    match face with
    | .list _ | .table _ => .error (.notKey face.kind)
    | _ => return putCount face count counts) []

/-! ## The report of a throw -/

/-- How often each of the faces `1` to `sides` comes up, in order. On a face beyond these there is
nothing to count. -/
def tally (sides : Nat) (faces : List Int) : Except Fault (Array Nat) :=
  faces.foldlM (fun (counts : Array Nat) (face : Int) =>
    if 1 ≤ face ∧ face ≤ sides then .ok (counts.modify (face.toNat - 1) (· + 1))
    else .error (.unknownFace face)) (Array.replicate sides 0)

/-- The report of a throw whose faces have been counted. -/
def ofCounts (o : Outcome) (counts : List Nat) : Report :=
  let least := counts.min?.getD 0
  let greatest := counts.max?.getD 0
  { label := .text o.thrown.label
    sides := .int o.thrown.sides
    counts := counts.zipIdx.map fun (count, i) => (.int ((i : Int) + 1), .int count)
    totalRolls := .int o.faces.length
    minCount := .int least
    maxCount := .int greatest
    difference := .int ((greatest : Int) - least)
    elapsed := .finite .zero }

/-- The report of a finished throw that took no time to speak of. -/
def of (o : Outcome) : Except Fault Report := do
  let counts ← tally o.thrown.sides o.faces
  return ofCounts o counts.toList

/-- The record of a report. -/
def record (r : Report) : Log.Record :=
  .info "rules.randomness.report" [("notation", r.label), ("total_rolls", r.totalRolls),
    ("min_count", r.minCount), ("max_count", r.maxCount), ("difference", r.difference)]

end Report

/-- The throw whose report is made if no other is asked for. -/
def defaultReportText : String := "10000d10"

/-- Reports on a throw that has ended. -/
def reportOn (thrown : Run Outcome) : Run Report := do
  let report ← .ofExcept (Report.of (← thrown))
  Run.emit [.logged report.record]
  return report

/-- Throws what a text asks for, and reports on it. -/
def reportText (given : Datum) (limits : Limits) (s : Source) : Run Report × Source :=
  let (thrown, rest) := evaluateText false given limits s
  (reportOn thrown, rest)

end Dicebox
