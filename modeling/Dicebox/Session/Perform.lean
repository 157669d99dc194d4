import Dicebox.Session.Request

/-!
# Performing requests

`perform` answers a request in a state, and gives the state afterwards and the log records that were
written on the way. A fault is an answer like any other: it is replied, and the session goes on.

There is one log at a time. A request that sets it up anew takes it away from a request around it,
which gets none of the records that are written afterwards (`Aftermath.takesLog`).
-/

set_option autoImplicit false

namespace Dicebox.Session

/-- What a session remembers: the books and the named sources. -/
structure State where
  metrics : Metrics := .empty
  sources : Sources := {}
  deriving Inhabited

/-- What a request leaves behind beside its reply: the state after it, and the log records that were
written while it could be seen by those around it. -/
structure Aftermath where
  state : State
  records : List Log.Record := []
  /-- Whether the log was set up anew. -/
  takesLog : Bool := false

/-- A reply and its aftermath. -/
structure Performed extends Aftermath where
  reply : Reply

/-- The aftermath of two requests, one after the other. Once the log is taken away, no further
records are kept. -/
def Aftermath.andThen (first second : Aftermath) : Aftermath :=
  { state := second.state
    records := first.records ++ (if first.takesLog then [] else second.records)
    takesLog := first.takesLog || second.takesLog }

/-- Of three requests one after the other, it does not matter which two are taken together. -/
theorem Aftermath.andThen_assoc (first second third : Aftermath) :
    (first.andThen second).andThen third = first.andThen (second.andThen third) := by
  obtain ⟨_, _, takes⟩ := first
  obtain ⟨_, _, takes'⟩ := second
  cases takes <;> cases takes' <;> simp [andThen]

namespace State

/-- The state after the books have been kept. -/
def book (s : State) (events : List Event) : State :=
  { s with metrics := s.metrics.book events }

/-- All accounts by name. -/
def counters (s : State) : OrderedMap Name Int := s.metrics.flatten

end State

/-- A reply that changes nothing. -/
def answered (s : State) (answer : Except Fault Answer) : Performed :=
  { reply := .plain answer, state := s }

/-- A reply that tells the books. -/
def toldBooks (s : State) (answer : Except Fault Answer) : Performed :=
  { reply := .single answer none none (some s.counters), state := s }

/-! ## Throws -/

/-- The reply to a throw that has ended. -/
def replyOutcome (how : Circumstances) (run : Run Draft.Thrown) (s : State) : Performed :=
  let s := s.book run.events
  let answer : Except Fault Answer := do
    let o ← run.result
    return .outcome o (← renderLines how.separator o.messages)
  { reply := .single answer (if how.watched then some run.steps else none) none (some s.counters)
    state := s
    records := run.records }

/-- Looks for a source and makes a run of it, or one without it. Where no source was named, it is
seeded. -/
def runOn {α : Type} (how : Circumstances) (run : Source → Run α × Source) (without : Fault → Run α)
    (s : State) : Except Fault (Run α × State) := do
  let found ← s.sources.find how.source how.entropy
  match found.source? with
  | some source =>
    let (done, rest) := run source
    return (done, { s with sources := s.sources.leave found rest })
  | none =>
    match Source.ofSeed how.seed how.entropy with
    | .ok source => return ((run source).1, s)
    | .error fault => return (without fault, s)

/-- A run is made on a source that was found and is left where the run ends, or else it changes
nothing: it is made on a source that was just seeded, or on none. -/
theorem exists_of_runOn {α : Type} {how : Circumstances} {run : Source → Run α × Source}
    {without : Fault → Run α} {s after : State} {done : Run α}
    (h : runOn how run without s = .ok (done, after)) :
    (∃ found source, s.sources.find how.source how.entropy = .ok found ∧ done = (run source).1 ∧
      after = { s with sources := s.sources.leave found (run source).2 }) ∨
    (∃ source, done = (run source).1 ∧ after = s) ∨ ∃ fault, done = without fault ∧ after = s := by
  rw [runOn] at h
  cases hfound : s.sources.find how.source how.entropy with
  | error fault => rw [hfound] at h; cases h
  | ok found =>
    rw [hfound] at h
    simp only [bind, Except.bind] at h
    cases hsource : found.source? with
    | some source =>
      rw [hsource] at h
      cases h
      exact .inl ⟨found, source, rfl, rfl, rfl⟩
    | none =>
      rw [hsource] at h
      dsimp only at h
      cases hseed : Source.ofSeed how.seed how.entropy with
      | ok source =>
        rw [hseed] at h
        cases h
        exact .inr (.inl ⟨source, rfl, rfl⟩)
      | error fault =>
        rw [hseed] at h
        cases h
        exact .inr (.inr ⟨fault, rfl, rfl⟩)

/-- Throws on the chosen source. A source that nobody made is a throw that ends at once. -/
def throwOn (how : Circumstances) (throw : Source → Run Draft.Thrown × Source)
    (without : Fault → Run Draft.Thrown) (s : State) : Performed :=
  match runOn how throw without s with
  | .error fault => replyOutcome how (.fail fault) s
  | .ok (run, s) => replyOutcome how run s

/-- A run of which the outcome is seen as that of a draft. -/
def asThrown (run : Run Outcome) : Run Draft.Thrown :=
  ⟨run.events, run.result.map Draft.Thrown.ofOutcome⟩

/-- Throws a draft. One that is a throw is thrown as one. -/
def throwDraft (how : Circumstances) (d : Draft) : State → Performed :=
  match d.throw? with
  | some t =>
    throwOn how (fun source =>
      let (run, rest) := t.evaluate how.watched source
      (asThrown run, rest)) .fail
  | none => throwOn how (d.evaluate how.watched) .fail

/-- A value that has to be given. -/
def required (name : String) : Option Datum → Except Fault Datum
  | some d => .ok d
  | none => .error (.missingField name)

/-- Throws what a text asks for. A text that is not there, and limits that are none, end the throw
before a source is looked for. -/
def throwText (given : Option Datum) (limits : Datum) (how : Circumstances) : State → Performed :=
  match (do return (← required "text" given, ← Limits.ofDatum limits) : Except Fault _) with
  | .error fault => replyOutcome how (.fail fault)
  | .ok (given, limits) =>
    throwOn how
      (fun source =>
        let (run, rest) := evaluateText how.watched given limits source
        (asThrown run, rest))
      (fun fault => asThrown (evaluateTextWithout fault how.watched given limits))

/-- A report on what a text asks for, on a source. -/
def reportOnSource (given limits : Datum) (source : Source) : Run Report × Source :=
  match Limits.ofDatum limits with
  | .error fault => (.fail fault, source)
  | .ok limits => reportText given limits source

/-- A report on what a text asks for, where there is no source. -/
def reportWithout (given limits : Datum) (fault : Fault) : Run Report := do
  let limits ← .ofExcept (Limits.ofDatum limits)
  reportOn (evaluateTextWithout fault false given limits)

/-- Reports on what a text asks for. A source is looked for before the limits. -/
def reportOnText (given limits : Datum) (how : Circumstances) (s : State) : Performed :=
  match runOn how (reportOnSource given limits) (reportWithout given limits) s with
  | .error fault => answered s (.error fault)
  | .ok (run, s) =>
    { reply := .plain do return .report (← ReportSheet.of (← run.result) how.separator)
      state := s.book run.events
      records := run.records }

/-! ## Rolls -/

/-- The records of dice rolled one by one. -/
def rollRecords (sides : List Datum) (results : List (Except Fault Int)) : List Log.Record :=
  (sides.zip results).filterMap fun
    | (d, .ok face) => some (.debug "rules.dice.roll" [("sides", d), ("result", .int face)])
    | (_, .error _) => none

/-- Rolls dice one by one on the chosen source. Without a source no die can be rolled. -/
def rollOn (sides : Option Datum) (source : SourceChoice) (entropy : Int) (s : State) :
    Performed :=
  match (do
    let found ← s.sources.find source entropy
    return (found, ← (← required "sides" sides).items) : Except Fault _) with
  | .error fault => answered s (.error fault)
  | .ok (found, sides) =>
    match found.source? with
    | none => answered s (.ok (.rolls (sides.map fun _ => .error .noSource)))
    | some source =>
      let (results, rest) := rollAll sides source
      { reply := .plain (.ok (.rolls results))
        state := { s with sources := s.sources.leave found rest }
        records := rollRecords sides results }

/-! ## Mistakes -/

/-- A mistake that can be told of. What a limit bounds is looked up, so its name cannot hold other
data. -/
def checkMistake (e : DiceError) : Except Fault DiceError :=
  match e with
  | .limitExceeded quantity _ _ =>
    match quantity.name with
    | .list items => .error (.notKey (Datum.list items).kind)
    | .table entries => .error (.notKey (Datum.table entries).kind)
    | _ => .ok e
  | _ => .ok e

/-- A mistake in words, as an answer to what was asked for. -/
def renderMistake (expr : Datum) (e : DiceError) (separator : Datum) : Except Fault Answer := do
  let e ← checkMistake e
  return .text (← joinLines separator (errorLines expr e))

/-! ## Commands -/

/-- Runs a command by name. -/
def performCommand (name : Datum) (invocation : Command.Invocation) (s : State) : Performed :=
  match (Name.of? name).map Registry.builtIn.find? with
  | .error fault => answered s (.error fault)
  | .ok none => answered s (.ok .notFound)
  | .ok (some command) =>
    let run := command.invoke invocation
    let s := s.book run.events
    { reply := .single (run.result.map .options) none (some run.sent) (some s.counters)
      state := s
      records := run.records }

/-- Runs a command line, with the log left as it is. What is printed is left out where help was
asked for, since help is not part of this library. -/
def performCommandLine (arguments : Datum) (place : Place) (entropy : Int) (s : State) :
    Performed :=
  match CommandLine.argumentsOf arguments with
  | .error fault => answered s (.error fault)
  | .ok items =>
    let ending := CommandLine.run .none place entropy items
    let s := s.book ending.events
    let output := if CommandLine.mentionsHelp arguments then none else some ending.output
    let answer := Answer.commandLine ending.exitCode ending.warned output ending.fault?
    { reply := .single (.ok answer) none none (some s.counters)
      state := s
      records := ending.events.filterMap Event.record? }

/-! ## Books -/

/-- Adds to a counter. -/
def performIncrement (counter value : Datum) (s : State) : Performed :=
  match Name.of? counter with
  | .error fault => answered s (.error fault)
  | .ok name =>
    let (result, metrics) := s.metrics.addDatum name value
    answered { s with metrics } (result.map .counter)

/-- The histogram and the value of an observation. -/
def observationOf (histogram value : Option Datum) : Except Fault (Name × Datum) := do
  let histogram ← required "name" histogram
  let value ← required "value" value
  return (← Name.of? histogram, value)

/-- Enters a value into a histogram. -/
def performObserve (histogram value : Option Datum) (bounds : Datum) (s : State) : Performed :=
  match observationOf histogram value with
  | .error fault => toldBooks s (.error fault)
  | .ok (name, value) =>
    let (result, metrics) := match bounds with
      | .null => s.metrics.observe name value .default
      | bounds => s.metrics.observeWithin name value bounds
    toldBooks { s with metrics } (result.map fun _ => .done)

/-! ## Logs -/

/-- What the settings of a log come to. -/
def LogSettings.attributes : LogSettings → Except Fault (Option Attributes)
  | .absent => .ok none
  | .given values => do return some (← (Settings.load {} values).result).attributes
  | .raw attributes => .ok (some attributes)

/-- The setup that some settings ask for. -/
def LogSettings.setUp (settings : LogSettings) : Except Fault Log.Setup := do
  Log.setUp (← settings.attributes)

/-- The settings of a log that goes to a file only. -/
def fileLog (level file enabled : Datum) : LogSettings :=
  .given [("logging_level", level), ("logging_file", file),
    ("logging_console", .text Log.offName), ("logging_enabled", enabled)]

/-- Replies about a log that some settings were to set up. It is only left as it was if there is
something wrong with the settings themselves. -/
def answeredAboutLog (settings : LogSettings) (s : State) (answer : Except Fault Answer) :
    Performed :=
  { answered s answer with takesLog := settings.attributes.isOk }

/-! ## All requests -/

/-- Performs an operation. -/
def performOperation (s : State) : Operation → Performed
  | .parse given limits =>
    let run : Run Throw := do Throw.parse given (← .ofExcept (Limits.ofDatum limits))
    { reply := .plain (run.result.map fun t => .throw t.toDraft)
      state := s
      records := run.records }
  | .normalize given => answered s ((Throw.normalize given).map .text)
  | .check figures => answered s (figures.toDraft.map .throw)
  | .sign symbol => answered s ((Sign.ofSymbol symbol).map .sign)
  | .explain e => answered s ((checkMistake e).map .explanation)
  | .renderMistake expr e separator => answered s (renderMistake expr e separator)
  | .separator settings => answered s (.ok (.separator (separatorOf settings)))
  | .limits settings => answered s ((Limits.ofAttributes settings).map .limits)
  | .evaluate figures how =>
    match figures.toDraft with
    | .error fault => answered s (.error fault)
    | .ok d => throwDraft how d s
  | .throwText given limits how => throwText given limits how s
  | .report given limits how => reportOnText given limits how s
  | .examine figures separator =>
    answered s do return .report (← ReportSheet.of (← figures.toReport) separator)
  | .roll sides source entropy => rollOn sides source entropy s
  | .newSource name source entropy =>
    let introduced : Except Fault Sources := do
      let _ ← s.sources.find source entropy
      s.sources.introduce (← Name.of? (← required "name" name)) source entropy
    match introduced with
    | .error fault => answered s (.error fault)
    | .ok sources => answered { s with sources } (.ok .done)
  | .increment counter value => performIncrement counter value s
  | .counter name =>
    answered s do return .counter (s.metrics.counter (← Name.of? name))
  | .counters => toldBooks s (.ok .books)
  | .reset => toldBooks { s with metrics := .empty } (.ok .books)
  | .observe histogram value bounds => performObserve histogram value bounds s
  | .command name invocation => performCommand name invocation s
  | .settings place given =>
    let run := Settings.load place given
    { reply := .plain (run.result.map .settings), state := s, records := run.records }
  | .setUpLog settings => answeredAboutLog settings s (settings.setUp.map .logSetup)
  | .registry steps => answered s (.ok (.registry (Registry.performAll steps .start).1))
  | .parameters options => answered s ((Parameter.ofSpecs options).map .parameters)
  | .commandLine arguments place entropy => performCommandLine arguments place entropy s
  | .refused fault => answered s (.error fault)

mutual

/-- Performs a request. -/
def perform : Request → State → Performed
  | .single operation, s => performOperation s operation
  | .session steps, s =>
    let (replies, aftermath) := performAll steps s
    match replies with
    | .ok replies => ⟨aftermath, .session replies⟩
    | .error fault => ⟨aftermath, .plain (.error fault)⟩
  | .logged level file enabled action, s =>
    let settings := fileLog level file enabled
    match settings.setUp, action.fault? with
    | .error fault, _ | .ok _, some fault => answeredAboutLog settings s (.error fault)
    | .ok setup, none =>
      let done := perform action s
      { reply := .logged done.reply (setup.written done.records)
        state := done.state
        takesLog := true }
  | .broken fault, s => answered s (.error fault)

/-- Performs requests one after another, up to the first that is none. -/
def performAll : List Request → State → Except Fault (List Reply) × Aftermath
  | [], s => (.ok [], { state := s })
  | request :: requests, s =>
    match request.fault? with
    | some fault => (.error fault, { state := s })
    | none =>
      let done := perform request s
      let (replies, aftermath) := performAll requests done.state
      (replies.map (done.reply :: ·), done.toAftermath.andThen aftermath)

end

/-- Answers a request on its own. -/
def answer (request : Request) : Reply := (perform request {}).reply

end Dicebox.Session
