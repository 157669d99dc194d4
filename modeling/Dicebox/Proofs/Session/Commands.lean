import Dicebox.Proofs.Command.Entries
import Dicebox.Proofs.Metrics.Exchange
import Dicebox.Session.Perform

/-!
# Commands in any order

A command is given in a session, and all that it finds there are the books, from which it reads
nothing. So what it does does not depend on the commands before it, and what it enters into the
books is known beforehand (`commandEvents`).

> **Commands may be given in any order**: the books are the same in the end, and each command
> returns, sends or raises what it does when it is given alone (`commands_exchange`).

Everything that a command observes is a number of dice, in the one histogram that throws have
(`OnlyObservesDice`). Therefore the accounts can be listed in one map without loss.
-/

set_option autoImplicit false

namespace Dicebox

open Run

/-! ## What a command observes

A list of accounts in one map has a weakness: a counter may have the very name that a bucket of some
histogram would be listed under. So the order of postings could show after all, if there were other
histograms than the one of dice. -/

/-- All that is observed among some events are numbers of dice. Counters may be of any name. -/
def OnlyObservesDice (events : List Event) : Prop :=
  ∀ name value, Event.observed name value ∈ events →
    name = dieCountHistogram ∧ ∃ n, value = .int n

theorem onlyObservesDice_iff_booked {events : List Event} :
    OnlyObservesDice (booked events) ↔ OnlyObservesDice events := by
  have hmem : ∀ name value,
      Event.observed name value ∈ booked events ↔ Event.observed name value ∈ events :=
    fun _ _ => List.mem_filter.trans ⟨And.left, fun h => ⟨h, rfl⟩⟩
  exact forall₂_congr fun name value => imp_congr (hmem name value) Iff.rfl

theorem onlyObservesDice_callEntries (ledger : Ledger) (result : Option (Except Fault Outcome)) :
    OnlyObservesDice (callEntries ledger result) := by
  intro name value h
  cases result with
  | none => cases h
  | some result =>
    cases result with
    | ok o =>
      -- The number of dice comes first, and nothing else is observed.
      simp only [callEntries, entriesOf, answerEntries, List.mem_append, List.mem_cons,
        Event.observed.injEq, reduceCtorEq, List.not_mem_nil, or_false] at h
      obtain ⟨rfl, rfl⟩ := h
      exact ⟨rfl, _, rfl⟩
    | error fault =>
      cases fault with
      | dice e => simp [callEntries, entriesOf, answerEntries] at h
      | _ => cases h

theorem Command.onlyObservesDice_invoke (command : Command) (inv : Invocation) :
    OnlyObservesDice (command.invoke inv).events := by
  -- Options that cannot be read end the command before it has done anything.
  rw [← onlyObservesDice_iff_booked, invoke]
  cases readOptions command.action inv.options with
  | error fault => exact nofun
  | ok values =>
    rw [ofExcept_bind, events_bind_pure]
    cases values with
    | roll o =>
      show OnlyObservesDice (booked (Call.roll inv o).run.events)
      rw [Call.booked_run]
      exact onlyObservesDice_callEntries _ _
    | randomness o =>
      show OnlyObservesDice (booked (Call.randomness inv o).run.events)
      rw [Call.booked_run]
      exact onlyObservesDice_callEntries _ _
    | none => exact nofun

theorem OnlyObservesDice.isPostable {events : List Event} (h : OnlyObservesDice events) :
    ∀ e ∈ events, e.IsPostable := by
  intro e he hbooked
  cases e with
  | counted counter => rfl
  | observed name value =>
    obtain ⟨-, n, rfl⟩ := h name value he
    rfl
  | _ => cases hbooked

theorem OnlyObservesDice.observes {events : List Event} (h : OnlyObservesDice events)
    {name : Name} (hname : (postings events).any (Posting.observes name) = true) :
    (name == .text dieCountHistogram) = true := by
  obtain ⟨p, hp, hobserves⟩ := List.any_eq_true.mp hname
  obtain ⟨e, he, hposting⟩ := List.mem_filterMap.mp hp
  cases e with
  | counted counter => obtain rfl := Option.some.inj hposting; cases hobserves
  | observed histogram value =>
    obtain ⟨rfl, n, rfl⟩ := h histogram value he
    obtain rfl := Option.some.inj hposting
    exact hobserves
  | _ => cases hposting

/-- Books that are kept of events that only observe dice list the same accounts, whatever the order
in which the events came.

The listing itself may well be in another order, since accounts stand in the order in which they
were opened. It is the same as a map. -/
theorem OnlyObservesDice.find?_flatten {events events' : List Event} (h : OnlyObservesDice events)
    (h' : OnlyObservesDice events') (hperm : (postings events).Perm (postings events'))
    (key : Name) : (Metrics.empty.book events).flatten.find? key =
      (Metrics.empty.book events').flatten.find? key := by
  have hreset : ∀ p ∈ postings events, p.isReset = false := fun _ => isReset_of_mem_postings
  rw [Metrics.book_eq_postAll _ h.isPostable, Metrics.book_eq_postAll _ h'.isPostable]
  refine (readsAlike_of_perm hperm hreset).find?_flatten dieCountHistogram
    (fun other hother => ?_) key
  have htells := tells_postAll (postings events)
  rw [sinceReset_eq_self hreset] at htells
  rw [htells.opened] at hother
  exact h.observes hother

/-! ## Commands of a session

The counters are part of every reply, and they do depend on what was done before. They are left
aside when replies are compared, and are spoken of once, at the end. -/

namespace Session

/-- A reply with the counters left aside. Only the reply to a single operation has any at its top,
and that is the only sort of reply that commands have. -/
def Reply.withoutCounters : Reply → Reply
  | .single answer steps sent _ => .single answer steps sent none
  | reply => reply

/-- A command by its name, as a request. -/
def commandRequest (given : Datum × Command.Invocation) : Request :=
  .single (.command given.1 given.2)

/-- What happens when a command is given, whatever has happened before. -/
def commandEvents (given : Datum × Command.Invocation) : List Event :=
  match (Name.of? given.1).map Registry.builtIn.find? with
  | .ok (some command) => (command.invoke given.2).events
  | .ok none | .error _ => []

theorem onlyObservesDice_commandEvents (given : Datum × Command.Invocation) :
    OnlyObservesDice (commandEvents given) := by
  unfold commandEvents
  split
  · exact Command.onlyObservesDice_invoke _ _
  · exact nofun
  · exact nofun

theorem performCommand_state (name : Datum) (inv : Command.Invocation) (s : State) :
    (performCommand name inv s).state = s.book (commandEvents (name, inv)) := by
  unfold performCommand commandEvents
  dsimp only
  cases (Name.of? name).map Registry.builtIn.find? with
  | error fault => rfl
  | ok found => cases found <;> rfl

theorem performCommand_reply (name : Datum) (inv : Command.Invocation) (s s' : State) :
    (performCommand name inv s).reply.withoutCounters =
      (performCommand name inv s').reply.withoutCounters := by
  unfold performCommand
  cases (Name.of? name).map Registry.builtIn.find? with
  | error fault => rfl
  | ok found => cases found <;> rfl

theorem performAll_single (operation : Operation) (rest : List Request) (s : State) :
    performAll (.single operation :: rest) s =
      ((performAll rest (performOperation s operation).state).1.map
        ((performOperation s operation).reply :: ·),
      (performOperation s operation).toAftermath.andThen
        (performAll rest (performOperation s operation).state).2) := by
  rw [performAll, perform]
  rfl

/-- Commands one after another: each replies what it would have replied alone, and the books are
those of all their events in a row. -/
theorem performAll_commands (given : List (Datum × Command.Invocation)) (s : State) :
    ((performAll (given.map commandRequest) s).1.map fun replies =>
      replies.map Reply.withoutCounters) =
        .ok (given.map fun c => (answer (commandRequest c)).withoutCounters) ∧
    (performAll (given.map commandRequest) s).2.state =
      s.book (given.flatMap commandEvents) := by
  induction given generalizing s with
  | nil => exact ⟨rfl, rfl⟩
  | cons c rest ih =>
    obtain ⟨name, inv⟩ := c
    obtain ⟨hreplies, hstate⟩ := ih (s.book (commandEvents (name, inv)))
    have hnext : (performOperation s (.command name inv)).state =
        s.book (commandEvents (name, inv)) := performCommand_state name inv s
    have hreply : (performOperation s (.command name inv)).reply.withoutCounters =
        (answer (commandRequest (name, inv))).withoutCounters := performCommand_reply name inv s {}
    rw [List.map_cons, commandRequest, performAll_single, hnext]
    constructor
    · cases hrest : (performAll (rest.map commandRequest)
        (s.book (commandEvents (name, inv)))).1 with
      | error fault =>
        rw [hrest] at hreplies
        cases hreplies
      | ok replies =>
        rw [hrest] at hreplies
        show Except.ok (_ :: replies.map Reply.withoutCounters) = _
        rw [hreply, show replies.map Reply.withoutCounters = _ from Except.ok.inj hreplies]
        rfl
    · show (performAll (rest.map commandRequest) _).2.state = _
      rw [hstate, List.flatMap_cons, State.book, State.book, State.book, Metrics.book_append]

/-- Commands may be given in any order. The accounts are the same in the end, and in either order
each command replies, apart from the counters, what it replies when it is given alone.

They may be known or unknown, understood or not; one that ends with a fault does not end the
session. In particular no command hears of the throws of another one, for each brings its own
draws. -/
theorem commands_exchange {given given' : List (Datum × Command.Invocation)}
    (h : given.Perm given') :
    let (replies, after) := performAll (given.map commandRequest) {}
    let (replies', after') := performAll (given'.map commandRequest) {}
    (∀ key, after.state.counters.find? key = after'.state.counters.find? key) ∧
    (replies.map fun replies => replies.map Reply.withoutCounters) =
      .ok (given.map fun c => (answer (commandRequest c)).withoutCounters) ∧
    (replies'.map fun replies => replies.map Reply.withoutCounters) =
      .ok (given'.map fun c => (answer (commandRequest c)).withoutCounters) := by
  obtain ⟨hreplies, hstate⟩ := performAll_commands given {}
  obtain ⟨hreplies', hstate'⟩ := performAll_commands given' {}
  have honly : ∀ given : List (Datum × Command.Invocation),
      OnlyObservesDice (given.flatMap commandEvents) := by
    intro given name value hmem
    obtain ⟨c, -, hc⟩ := List.mem_flatMap.mp hmem
    exact onlyObservesDice_commandEvents c name value hc
  have hperm : (postings (given.flatMap commandEvents)).Perm
      (postings (given'.flatMap commandEvents)) := by
    rw [postings_flatMap, postings_flatMap]
    exact h.flatMap_right _
  refine ⟨fun key => ?_, hreplies, hreplies'⟩
  rw [State.counters, State.counters, hstate, hstate']
  exact (honly given).find?_flatten (honly given') hperm key

/-- A throw that makes no sense, and a command that is unknown. -/
theorem commands_exchange_mistaken :
    let mistaken : Datum × Command.Invocation :=
      (.text "roll", ⟨.table [("expr", .text "dice")], some [], {}, .null, 0⟩)
    let unknown : Datum × Command.Invocation :=
      (.text "dance", ⟨.table [], some [], {}, .null, 0⟩)
    [mistaken, unknown].Perm [unknown, mistaken] ∧
    let after := (performAll ([mistaken, unknown].map commandRequest) {}).2
    let after' := (performAll ([unknown, mistaken].map commandRequest) {}).2
    after.state.counters.find? (.text "roll.error.invalid_notation") = some 1 ∧
    after'.state.counters.find? (.text "roll.error.invalid_notation") = some 1 := by
  intro mistaken unknown
  have hperm : [mistaken, unknown].Perm [unknown, mistaken] := .swap ..
  obtain ⟨hcounters, -⟩ := commands_exchange hperm
  have hone : (performAll ([mistaken, unknown].map commandRequest) {}).2.state.counters.find?
      (.text "roll.error.invalid_notation") = some 1 := by decide +kernel
  exact ⟨hperm, hone, (hcounters _).symm.trans hone⟩

end Session

end Dicebox
