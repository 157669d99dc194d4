import Dicebox.Proofs.Metrics.Booking

/-!
# Runs that are told to the log alone

Reading a text, and looking for settings, is told to the log and to nobody else. Such a run
(`Run.OnlyLogs`) can be left out of every other reading: it enters nothing into the books, shows
nothing to a watcher and sends nothing. Nor does it write records that a log at `DEBUG` would not
keep. That a run is of this sort is closed under everything that runs are put together with, so it
is proved of a long one step by step.
-/

set_option autoImplicit false

namespace Dicebox.Run

variable {α β : Type}

/-- A run whose events are log records, all of them, and none below `DEBUG`. How it ends is left
open: a run that fails may well have told the log why. -/
def OnlyLogs (x : Run α) : Prop :=
  ∃ records : List Log.Record, x.events = records.map .logged ∧
    ∀ r ∈ records, r.reaches .debug = true

/-! ## How they are put together -/

theorem onlyLogs_pure (a : α) : (pure a : Run α).OnlyLogs := ⟨[], rfl, nofun⟩

theorem onlyLogs_ofExcept (result : Except Fault α) : (ofExcept result).OnlyLogs :=
  ⟨[], rfl, nofun⟩

theorem onlyLogs_of_events {x : Run α} {record : Log.Record} (h : x.events = [.logged record])
    (hrecord : record.reaches .debug = true) : x.OnlyLogs :=
  ⟨[record], h, List.forall_mem_singleton.mpr hrecord⟩

theorem onlyLogs_logged {record : α → Log.Record}
    (hrecord : ∀ a, (record a).reaches .debug = true) (l : List α) :
    (emit (l.map fun a => .logged (record a))).OnlyLogs :=
  ⟨l.map record, by rw [List.map_map]; rfl, List.forall_mem_map.mpr fun a _ => hrecord a⟩

theorem OnlyLogs.bind {x : Run α} {f : α → Run β} (hx : x.OnlyLogs) (hf : ∀ a, (f a).OnlyLogs) :
    (x >>= f).OnlyLogs := by
  obtain ⟨records, hrecords, hheard⟩ := hx
  cases hresult : x.result with
  | ok a =>
    obtain ⟨others, hothers, hheard'⟩ := hf a
    refine ⟨records ++ others, ?_, List.forall_mem_append.mpr ⟨hheard, hheard'⟩⟩
    rw [bind_ok hresult, List.map_append, ← hrecords, ← hothers]
  | error fault =>
    refine ⟨records, ?_, hheard⟩
    rw [bind_error hresult, ← hrecords]

theorem OnlyLogs.mapM {f : α → Run β} (hf : ∀ a, (f a).OnlyLogs) (l : List α) :
    (l.mapM f).OnlyLogs := by
  -- The loop carries what it has done so far, so the induction is for any of that.
  suffices h : ∀ done : List β, (List.mapM.loop f l done).OnlyLogs from h []
  induction l with
  | nil => exact fun done => onlyLogs_pure done.reverse
  | cons a rest ih => exact fun done => (hf a).bind fun b => ih (b :: done)

/-! ## What they leave alone

The books, the steps and the messages are each read off the events by their sort. None of these
readings takes records for anything, and so each of them comes out empty. -/

theorem OnlyLogs.filterMap_eq_nil {γ : Type} {x : Run α} (h : x.OnlyLogs) {read : Event → Option γ}
    (hread : ∀ record, read (.logged record) = none) : x.events.filterMap read = [] := by
  obtain ⟨records, hrecords, -⟩ := h
  rw [hrecords, List.filterMap_map, List.filterMap_eq_nil_iff]
  exact fun record _ => hread record

theorem OnlyLogs.steps {x : Run α} (h : x.OnlyLogs) : x.steps = [] :=
  h.filterMap_eq_nil fun _ => rfl

theorem OnlyLogs.sent {x : Run α} (h : x.OnlyLogs) : x.sent = [] :=
  h.filterMap_eq_nil fun _ => rfl

theorem OnlyLogs.unbooked {x : Run α} (h : x.OnlyLogs) : x.Unbooked := by
  obtain ⟨records, hrecords, -⟩ := h
  rw [Unbooked, hrecords, booked, List.filter_eq_nil_iff]
  intro e he
  obtain ⟨record, -, rfl⟩ := List.mem_map.mp he
  exact Bool.false_ne_true

end Dicebox.Run

namespace Dicebox

/-! ## Runs without their log records

Leaving the records out is compatible with going on to another run, so two long runs that differ in
what they log can be compared piece by piece. What only logs comes down to its result. -/

/-- Whether an event is a log record. -/
def Event.isLogged : Event → Bool
  | .logged _ => true
  | _ => false

/-- The events that are no log records. -/
def unlogged (events : List Event) : List Event := events.filter fun e => !e.isLogged

theorem filterMap_unlogged {γ : Type} (read : Event → Option γ)
    (hread : ∀ record, read (.logged record) = none) (events : List Event) :
    (unlogged events).filterMap read = events.filterMap read := by
  induction events with
  | nil => rfl
  | cons e rest ih =>
    cases e with
    | logged record => rw [List.filterMap_cons_none (hread record), ← ih]; rfl
    | _ => rw [unlogged, List.filter_cons_of_pos rfl, List.filterMap_cons, List.filterMap_cons,
        ← ih, unlogged]

theorem Metrics.book_unlogged (m : Metrics) (events : List Event) :
    m.book (unlogged events) = m.book events := by
  induction events generalizing m with
  | nil => rfl
  | cons e rest ih =>
    cases e with
    | logged record => exact ih m
    | _ => exact ih (m.enter _)

namespace Run

variable {α β : Type}

/-- A run without its log records. -/
def unlogged (x : Run α) : Run α := ⟨Dicebox.unlogged x.events, x.result⟩

theorem unlogged_bind (x : Run α) (f : α → Run β) :
    (x >>= f).unlogged = x.unlogged >>= fun a => (f a).unlogged := by
  cases hx : x.result with
  | ok a =>
    rw [bind_ok hx, bind_ok (x := x.unlogged) hx, unlogged, Dicebox.unlogged, List.filter_append]
    rfl
  | error fault =>
    rw [bind_error hx, bind_error (x := x.unlogged) hx]
    rfl

theorem OnlyLogs.unlogged_eq {x : Run α} (h : x.OnlyLogs) : x.unlogged = ofExcept x.result := by
  obtain ⟨records, hrecords, -⟩ := h
  have hnil : Dicebox.unlogged x.events = [] := by
    rw [hrecords, Dicebox.unlogged, List.filter_eq_nil_iff]
    intro e he
    obtain ⟨record, -, rfl⟩ := List.mem_map.1 he
    exact Bool.false_ne_true
  rw [unlogged, hnil]
  rfl

end Run

end Dicebox
