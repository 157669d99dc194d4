import Dicebox.Proofs.Throw.Accounting
import Dicebox.Throw.Draft

/-!
# Watching a throw

Whoever watches a throw is shown its steps while it is made, between one die and the next and right
before whatever may go wrong. It is the same throw:

> **without the lines that it shows, a watched throw is the throw that nobody watches**
> (`unwatched_evaluateText`).

This is an equation of whole runs, with all other events in their order, and of the sources that
remain. So it does not matter how a throw ends, nor where. What it says about the result, the draws
and the books is collected in `Alike`; that the log is the same as well is not needed anywhere.

A throw that was put together by hand may come to its end in more ways. The same holds of it, and
for the same reason: the lines are shown by `stepEvents` and by nothing else.
-/

set_option autoImplicit false

namespace Dicebox

/-! ## Events without those that are shown

Leaving out what is shown is a filter, so it goes through everything that events are put together
with. The books are a filter, too, and one that leaves out more. -/

/-- Whether an event is a line that is shown to a watcher. -/
def Event.isShown : Event → Bool
  | .shown _ => true
  | .logged _ | .counted _ | .observed _ _ | .sent _ => false

/-- The events that are there whether or not anybody watches. -/
def unwatched (events : List Event) : List Event := events.filter fun e => !e.isShown

@[simp] theorem unwatched_append (a b : List Event) :
    unwatched (a ++ b) = unwatched a ++ unwatched b := List.filter_append ..

theorem unwatched_flatMap {α : Type} (f : α → List Event) (l : List α) :
    unwatched (l.flatMap f) = l.flatMap fun a => unwatched (f a) := List.filter_flatMap

theorem booked_unwatched (events : List Event) : booked (unwatched events) = booked events := by
  rw [booked, unwatched, List.filter_filter]
  refine List.filter_congr fun e _ => ?_
  cases e <;> rfl

namespace Run

/-- A run without the lines that it shows. -/
def unwatched {α : Type} (x : Run α) : Run α := ⟨Dicebox.unwatched x.events, x.result⟩

@[simp] theorem events_unwatched {α : Type} (x : Run α) :
    x.unwatched.events = Dicebox.unwatched x.events := rfl

@[simp] theorem result_unwatched {α : Type} (x : Run α) : x.unwatched.result = x.result := rfl

theorem OnlyLogs.unwatched {α : Type} {x : Run α} (h : x.OnlyLogs) : x.unwatched = x := by
  obtain ⟨records, hrecords, -⟩ := h
  have hevents : Dicebox.unwatched x.events = x.events := by
    rw [hrecords, Dicebox.unwatched, List.filter_eq_self]
    intro e he
    obtain ⟨record, -, rfl⟩ := List.mem_map.mp he
    rfl
  rw [Run.unwatched, hevents]

end Run

/-! ## Two runs that are alike

To be alike is less than to be equal but for the lines that are shown: other events are left out as
well, and all that is left of them is what they do to the books. -/

/-- Two runs that end in the same way, leave the same source, and do the same to the books. -/
structure Alike {α : Type} (x y : Run α × Source) : Prop where
  result : x.1.result = y.1.result
  rest : x.2 = y.2
  books (m : Metrics) : m.book x.1.events = m.book y.1.events

theorem alike_of_unwatched {α : Type} {x y : Run α × Source} (hrun : x.1.unwatched = y.1)
    (hrest : x.2 = y.2) : Alike x y where
  result := by rw [← hrun, Run.result_unwatched]
  rest := hrest
  books m := by
    rw [← hrun, Run.events_unwatched, ← m.book_booked, ← m.book_booked (unwatched x.1.events),
      booked_unwatched]

/-! ## The parts of a throw

Each part is given the choice to show something, and does so in one way only. For each of them it is
said that without this it is the part that shows nothing. -/

variable (watched : Bool)

@[simp] theorem unwatched_stepEvents (label : Datum) (line : String)
    (values : List (String × Datum)) :
    unwatched (stepEvents label watched line values) = stepEvents label false line values := by
  cases watched <;> rfl

@[simp] theorem unwatched_dieEvents (label sides : Datum) (l : DieLine) :
    unwatched (dieEvents label sides watched l) = dieEvents label sides false l := by
  cases watched <;> rfl

@[simp] theorem unwatched_closingEvents (label dieCount : Datum) (modifierSteps : List String)
    (summary : String) (total : Datum) :
    unwatched (closingEvents label dieCount watched modifierSteps summary total) =
      closingEvents label dieCount false modifierSteps summary total := by
  simp only [closingEvents, unwatched_append, unwatched_flatMap, unwatched_stepEvents]
  rfl

theorem unwatched_tell {α : Type} (opening : List Event) (dice : List Int → List Event)
    (ending : List Int → Run α) (rolls : Rolls) :
    (tell opening dice ending rolls).unwatched =
      tell (unwatched opening) (fun faces => unwatched (dice faces))
        (fun faces => (ending faces).unwatched) rolls := by
  rw [tell_eq, tell_eq]
  cases rolls.stopped with
  | some fault => simp [Run.unwatched]
  | none => simp [Run.unwatched]

theorem unwatched_openingEvents (given : Datum) :
    unwatched (openingEvents watched given) = openingEvents false given := by
  cases watched <;> rfl

theorem unwatched_accountEvents (given : Datum) (result : Except Fault Outcome) :
    unwatched (accountEvents given result) = accountEvents given result := by
  cases result with
  | ok o => rfl
  | error fault => cases fault <;> rfl

/-! ## Throws -/

theorem Throw.unwatched_finish (t : Throw) (faces : List Int) :
    (t.finish watched faces).unwatched = t.finish false faces := by
  unfold finish
  simp only
  cases Text.write? (t.totalOf faces) with
  | none => rfl
  | some written =>
    rw [Run.unwatched]
    simp only [finalEvents, unwatched_closingEvents]

theorem Throw.unwatched_evaluate (t : Throw) (s : Source) :
    (t.evaluate watched s).1.unwatched = (t.evaluate false s).1 ∧
    (t.evaluate watched s).2 = (t.evaluate false s).2 := by
  unfold evaluate
  cases t.announcement? with
  | none => exact ⟨rfl, rfl⟩
  | some announcement =>
    -- The dice are rolled beside the telling, so the same source remains.
    refine ⟨?_, rfl⟩
    simp only [unwatched_tell, unwatched_stepEvents, diceEvents, unwatched_flatMap,
      unwatched_dieEvents, unwatched_finish]
    rfl

theorem Draft.unwatched_finish (d : Draft) (faces : List Int) :
    (d.finish watched faces).unwatched = d.finish false faces := by
  unfold finish
  cases d.totalOf faces with
  | error fault => rfl
  | ok total =>
    cases hwritten : total.write? with
    | none => simp only [hwritten]; rfl
    | some written => simp only [hwritten, Run.unwatched, unwatched_closingEvents]

theorem Draft.unwatched_evaluate (d : Draft) (s : Source) :
    (d.evaluate watched s).1.unwatched = (d.evaluate false s).1 ∧
    (d.evaluate watched s).2 = (d.evaluate false s).2 := by
  refine ⟨?_, rfl⟩
  simp only [evaluate, unwatched_tell, unwatched_stepEvents, unwatched_flatMap,
    unwatched_dieEvents, unwatched_finish]

/-- Watching a throw from a text makes no difference but to what is shown.

The reading has no one to show anything to, and the account is given in the same way whoever has
watched. So what is left is the throw itself, whose result may then be put in for the account. -/
theorem unwatched_evaluateText (given : Datum) (limits : Limits) (s : Source) :
    (evaluateText watched given limits s).1.unwatched = (evaluateText false given limits s).1 ∧
    (evaluateText watched given limits s).2 = (evaluateText false given limits s).2 := by
  have hparse : unwatched (Throw.parse given limits).events = (Throw.parse given limits).events :=
    congrArg Run.events (Throw.onlyLogs_parse given limits).unwatched
  cases hread : (Throw.parse given limits).result with
  | error fault =>
    rw [evaluateText_of_parse_error watched s hread, evaluateText_of_parse_error false s hread]
    refine ⟨?_, rfl⟩
    rw [Run.unwatched, unwatched_append, unwatched_append, unwatched_openingEvents, hparse,
      unwatched_accountEvents]
  | ok t =>
    obtain ⟨hrun, hrest⟩ := t.unwatched_evaluate watched s
    have hresult : (t.evaluate watched s).1.result = (t.evaluate false s).1.result := by
      rw [← hrun, Run.result_unwatched]
    have hevents : unwatched (t.evaluate watched s).1.events = (t.evaluate false s).1.events := by
      rw [← hrun, Run.events_unwatched]
    rw [evaluateText_of_parse watched s hread, evaluateText_of_parse false s hread]
    dsimp only
    refine ⟨?_, hrest⟩
    rw [Run.unwatched, unwatched_append, unwatched_append, unwatched_append,
      unwatched_openingEvents, hparse, hevents, unwatched_accountEvents, hresult]

end Dicebox
