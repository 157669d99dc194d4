import Dicebox.Fault
import Dicebox.Log.Record

/-!
# `Run` — what a computation did, and how it ended

Throwing dice is a computation that others can follow: it shows steps to whoever watches, writes log
records, keeps books in counters, and sends messages. None of that is an effect here. A computation
yields a `Run`: the list of its events in order, and either its value or the fault that ended it.
The watcher's transcript, the log and the books are all readings of that one list, which is what
makes them comparable.

`Run` is a monad in which the events of the parts follow one another and a fault ends the whole
(`events_bind`, `result_bind`). The readings are filters on the event list, so what a composed run
shows, logs or sends is read off its parts.
-/

set_option autoImplicit false

namespace Dicebox

/-- A message to the person who gave a command. An ephemeral one is for their eyes only. -/
structure Message where
  content : String
  ephemeral : Bool
  deriving Repr, DecidableEq, Inhabited

/-- Something that others can notice about a computation. -/
inductive Event
  /-- A step shown to the watcher of a throw. -/
  | shown (line : String)
  /-- A log record. -/
  | logged (record : Log.Record)
  /-- A counter that goes up by one. -/
  | counted (counter : String)
  /-- A value that enters a histogram. -/
  | observed (histogram : String) (value : Datum)
  /-- A message to the person who gave the command. -/
  | sent (message : Message)
  deriving Inhabited

namespace Event

/-- The line that an event shows to a watcher. -/
def line? : Event → Option String
  | .shown line => some line
  | _ => none

/-- The record that an event writes. -/
def record? : Event → Option Log.Record
  | .logged record => some record
  | _ => none

/-- The message that an event sends. -/
def message? : Event → Option Message
  | .sent message => some message
  | _ => none

end Event

/-- The events of a computation, and its value or the fault that ended it. -/
structure Run (α : Type) where
  events : List Event
  result : Except Fault α

namespace Run

variable {α β : Type}

/-- A run without events. -/
def value (a : α) : Run α := ⟨[], .ok a⟩

/-- A run that fails at once. -/
def fail (f : Fault) : Run α := ⟨[], .error f⟩

/-- A run that only has events. -/
def emit (events : List Event) : Run Unit := ⟨events, .ok ()⟩

/-- A plain computation as a run without events. -/
def ofExcept (result : Except Fault α) : Run α := ⟨[], result⟩

/-- One run after another; a fault ends both. -/
def andThen (x : Run α) (f : α → Run β) : Run β :=
  match x.result with
  | .ok a => ⟨x.events ++ (f a).events, (f a).result⟩
  | .error e => ⟨x.events, .error e⟩

instance : Monad Run where
  pure := value
  bind := andThen

@[simp] theorem pure_eq (a : α) : (pure a : Run α) = ⟨[], .ok a⟩ := rfl

theorem bind_ok {x : Run α} {a : α} (h : x.result = .ok a) (f : α → Run β) :
    x >>= f = ⟨x.events ++ (f a).events, (f a).result⟩ := by
  simp [bind, andThen, h]

theorem bind_error {x : Run α} {e : Fault} (h : x.result = .error e) (f : α → Run β) :
    x >>= f = ⟨x.events, .error e⟩ := by
  simp [bind, andThen, h]

/-- Of three computations one after another, it does not matter which two are taken together. -/
theorem andThen_assoc {γ : Type} (x : Run α) (f : α → Run β) (g : β → Run γ) :
    x >>= f >>= g = x >>= fun a => f a >>= g := by
  cases hx : x.result with
  | error e => rw [bind_error hx, bind_error hx, bind_error rfl]
  | ok a =>
    rw [bind_ok hx, bind_ok hx]
    cases hf : (f a).result with
    | error e => rw [bind_error rfl, bind_error hf]
    | ok b => rw [bind_ok rfl, bind_ok hf, List.append_assoc]

/-! ## The readings of the events -/

/-- The lines shown to the watcher. -/
def steps (x : Run α) : List String := x.events.filterMap Event.line?

/-- The log records written. -/
def records (x : Run α) : List Log.Record := x.events.filterMap Event.record?

/-- The messages sent. -/
def sent (x : Run α) : List Message := x.events.filterMap Event.message?

theorem events_bind (x : Run α) (f : α → Run β) :
    (x >>= f).events = x.events ++ (match x.result with
      | .ok a => (f a).events
      | .error _ => []) := by
  cases h : x.result with
  | ok a => rw [bind_ok h]
  | error e => rw [bind_error h]; simp

theorem result_bind (x : Run α) (f : α → Run β) :
    (x >>= f).result = (match x.result with
      | .ok a => (f a).result
      | .error e => .error e) := by
  cases h : x.result with
  | ok a => rw [bind_ok h]
  | error e => rw [bind_error h]

theorem result_bind_of_ok {x : Run α} {a : α} (h : x.result = .ok a) (f : α → Run β) :
    (x >>= f).result = (f a).result := by
  rw [bind_ok h]

theorem events_bind_pure (x : Run α) (b : β) : (x >>= fun _ => pure b).events = x.events := by
  cases hx : x.result with
  | ok a => rw [bind_ok hx, pure_eq, List.append_nil]
  | error fault => rw [bind_error hx]

theorem result_bind_pure (x : Run α) (b : β) :
    (x >>= fun _ => pure b).result = x.result.map fun _ => b := by
  cases hx : x.result with
  | ok a => rw [bind_ok hx]; rfl
  | error fault => rw [bind_error hx]; rfl

@[simp] theorem steps_emit (events : List Event) :
    (emit events).steps = events.filterMap Event.line? := rfl

@[simp] theorem records_emit (events : List Event) :
    (emit events).records = events.filterMap Event.record? := rfl

end Run

end Dicebox
