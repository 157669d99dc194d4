import Dicebox.Proofs.Report.Counting
import Dicebox.Proofs.Throw.Accounting

/-!
# Reporting on a throw

A report is made of a throw that has ended, and adds nothing to it but a record in the log. If the
throw ends with a fault there is no report, and nothing more happens (`reportOn_of_error`). If it is
finished, then on draws from zero to below one all of its faces are known, so there is a report, and
it is the one of their counts (`reportOn_of_ok`).
-/

set_option autoImplicit false

namespace Dicebox

open Run

/-- Draws from zero to below one roll faces of the dice, so all faces of a finished throw are known.
Other sources might well roll a face that the dice do not have, and counting would fail there. -/
theorem faces_mem_of_evaluateText {watched : Bool} {given : Datum} {limits : Limits} {s : Source}
    (hs : s.InUnit) {o : Outcome} (h : (evaluateText watched given limits s).1.result = .ok o) :
    ∀ f ∈ o.faces, 1 ≤ f ∧ f ≤ (o.thrown.sides : Int) := by
  obtain ⟨-, hfaces, -⟩ := parse_of_evaluateText watched s h
  rw [hfaces]
  exact rollDice_mem o.thrown.sides_pos o.thrown.dieCount hs

theorem length_faces_of_evaluateText {watched : Bool} {given : Datum} {limits : Limits} {s : Source}
    {o : Outcome} (h : (evaluateText watched given limits s).1.result = .ok o) :
    o.faces.length = o.thrown.dieCount := by
  obtain ⟨-, hfaces, hstopped⟩ := parse_of_evaluateText watched s h
  rw [hfaces]
  exact length_rollDice hstopped

theorem reportOn_of_error {thrown : Run Outcome} {fault : Fault}
    (h : thrown.result = .error fault) : reportOn thrown = ⟨thrown.events, .error fault⟩ := by
  rw [reportOn, bind_error h]

theorem reportOn_of_ok {thrown : Run Outcome} {o : Outcome} {report : Report}
    (h : thrown.result = .ok o) (hreport : Report.of o = .ok report) :
    reportOn thrown = ⟨thrown.events ++ [.logged report.record], .ok report⟩ := by
  have hrest : (ofExcept (Report.of o) >>= fun report => do
      emit [.logged report.record]
      return report : Run Report) = ⟨[.logged report.record], .ok report⟩ := by
    rw [hreport]
    rfl
  rw [reportOn, bind_ok h, hrest]

theorem of_of_reportOn {thrown : Run Outcome} {report : Report}
    (h : (reportOn thrown).result = .ok report) :
    ∃ o, thrown.result = .ok o ∧ Report.of o = .ok report := by
  cases hthrown : thrown.result with
  | error fault =>
    rw [reportOn_of_error hthrown] at h
    cases h
  | ok o =>
    cases hof : Report.of o with
    | error fault =>
      rw [reportOn, bind_ok hthrown, hof] at h
      cases h
    | ok report' =>
      rw [reportOn_of_ok hthrown hof] at h
      exact ⟨o, rfl, hof.trans h⟩

theorem reportText_fst (given : Datum) (limits : Limits) (s : Source) :
    (reportText given limits s).1 = reportOn (evaluateText false given limits s).1 := by
  unfold reportText
  generalize evaluateText false given limits s = thrown
  rfl

/-- A report makes the entries of its throw, and is there whenever that is finished.

The second half compares only whether there is a result, and with which fault there is none: what
the two results hold are different things. -/
theorem booked_reportText (given : Datum) (limits : Limits) {s : Source} (hs : s.InUnit) :
    booked (reportText given limits s).1.events =
      entriesOf (evaluateText false given limits s).1.result ∧
    (reportText given limits s).1.result.map (fun _ => ()) =
      (evaluateText false given limits s).1.result.map fun _ => () := by
  rw [reportText_fst, ← booked_evaluateText]
  cases hresult : (evaluateText false given limits s).1.result with
  | error fault =>
    rw [reportOn_of_error hresult]
    exact ⟨rfl, rfl⟩
  | ok o =>
    rw [reportOn_of_ok hresult (Report.of_eq (faces_mem_of_evaluateText hs hresult))]
    exact ⟨by rw [booked_append]; exact List.append_nil _, rfl⟩

end Dicebox
