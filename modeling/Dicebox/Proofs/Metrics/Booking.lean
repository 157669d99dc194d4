import Dicebox.Metrics

/-!
# What enters the books

Of all the events of a run the books only see two kinds, so a run is followed by its entries
(`booked`), and whatever else it shows, logs or sends can be left out (`Metrics.book_booked`). The
entries of a composed run are those of its parts, and most parts have none (`Run.Unbooked`): one
part after another leaves the books alone if each of them does.
-/

set_option autoImplicit false

namespace Dicebox

/-- Whether an event is entered into the books. -/
def Event.isBooked : Event → Bool
  | .counted _ | .observed _ _ => true
  | .shown _ | .logged _ | .sent _ => false

/-- The events that are entered into the books. -/
def booked (events : List Event) : List Event := events.filter Event.isBooked

@[simp] theorem booked_nil : booked [] = [] := rfl

@[simp] theorem booked_append (a b : List Event) : booked (a ++ b) = booked a ++ booked b :=
  List.filter_append ..

theorem booked_flatMap_eq_nil {α : Type} {f : α → List Event} (h : ∀ a, booked (f a) = [])
    (l : List α) : booked (l.flatMap f) = [] := by
  rw [booked, List.filter_flatMap]
  exact List.flatMap_eq_nil_iff.mpr fun a _ => h a

/-- The other events change nothing. So of two runs with the same entries one need not know what
they showed or sent to know that they leave the same books. -/
theorem Metrics.book_booked (m : Metrics) (events : List Event) :
    m.book (booked events) = m.book events := by
  induction events generalizing m with
  | nil => rfl
  | cons e rest ih =>
    -- By the sort of the event: it is entered on both sides, or left out on both.
    cases e with
    | counted name => exact ih (m.enter (.counted name))
    | observed name value => exact ih (m.enter (.observed name value))
    | shown _ => exact ih m
    | logged _ => exact ih m
    | sent _ => exact ih m

/-! ## Runs without entries -/

namespace Run

variable {α β : Type}

/-- A run that leaves the books alone. -/
def Unbooked (x : Run α) : Prop := booked x.events = []

theorem unbooked_ofExcept (result : Except Fault α) : (ofExcept result).Unbooked := rfl

theorem Unbooked.bind {x : Run α} {f : α → Run β} (hx : x.Unbooked) (hf : ∀ a, (f a).Unbooked) :
    (x >>= f).Unbooked := by
  rw [Unbooked, events_bind, booked_append, hx, List.nil_append]
  cases x.result with
  | ok a => exact hf a
  | error fault => rfl

/-! ## What comes after them

A part without entries drops out in front of what is entered afterwards, provided that it has a
result: where it fails, nothing comes afterwards. -/

theorem booked_bind_of_unbooked {x : Run α} {a : α} (hx : x.Unbooked) (ha : x.result = .ok a)
    (f : α → Run β) : booked (x >>= f).events = booked (f a).events := by
  rw [bind_ok ha]
  show booked (x.events ++ (f a).events) = booked (f a).events
  rw [booked_append, hx, List.nil_append]

theorem events_emit (events : List Event) : (emit events).events = events := rfl

theorem ofExcept_bind (a : α) (f : α → Run β) : ofExcept (.ok a) >>= f = f a := rfl

theorem booked_emit_bind (events : List Event) (f : Unit → Run α) :
    booked (emit events >>= f).events = booked events ++ booked (f ()).events := by
  rw [bind_ok rfl]
  exact booked_append events (f ()).events

theorem booked_emit_of_unbooked (events : List Event) {f : Unit → Run α} (hf : (f ()).Unbooked) :
    booked (emit events >>= f).events = booked events := by
  rw [booked_emit_bind, hf, List.append_nil]

end Run

end Dicebox
