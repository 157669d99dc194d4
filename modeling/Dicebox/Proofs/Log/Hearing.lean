import Dicebox.Proofs.Command.Entries
import Dicebox.Session.Perform

/-!
# Nothing is said below `DEBUG`

A log at `DEBUG` misses nothing: whatever is asked of this library,

> **every record that is written has at least the severity `DEBUG`** (`reachDebug_perform`).

Records are written in many places, each at a severity of its own. So this is carried from the steps
of a throw to the throw, from there to reports and commands, and so on to all requests.
-/

set_option autoImplicit false

namespace Dicebox

/-- An event that is no record below `DEBUG`. -/
def Event.IsAudible : Event → Prop
  | .logged record => record.reaches .debug = true
  | .shown _ | .counted _ | .observed .. | .sent _ => True

/-- Events of which no record is below `DEBUG`. -/
def Audible (events : List Event) : Prop := ∀ e ∈ events, e.IsAudible

/-- Records of which none is below `DEBUG`. -/
def ReachDebug (records : List Log.Record) : Prop := ∀ r ∈ records, r.reaches .debug = true

theorem audible_nil : Audible [] := nofun

theorem Audible.cons {e : Event} {rest : List Event} (he : e.IsAudible) (hrest : Audible rest) :
    Audible (e :: rest) := List.forall_mem_cons.mpr ⟨he, hrest⟩

theorem Audible.append {a b : List Event} (ha : Audible a) (hb : Audible b) : Audible (a ++ b) :=
  List.forall_mem_append.mpr ⟨ha, hb⟩

theorem audible_flatMap {α : Type} {f : α → List Event} (h : ∀ a, Audible (f a)) (l : List α) :
    Audible (l.flatMap f) := by
  intro e he
  obtain ⟨a, -, ha⟩ := List.mem_flatMap.mp he
  exact h a e ha

theorem Audible.reachDebug {events : List Event} (h : Audible events) :
    ReachDebug (events.filterMap Event.record?) := by
  intro r hr
  obtain ⟨e, he, hrecord⟩ := List.mem_filterMap.mp hr
  cases e with
  | logged record =>
    obtain rfl := Option.some.inj hrecord
    exact h _ he
  | _ => cases hrecord

/-! ## Runs

A run is audible if its parts are, so for every program below there is one lemma, which goes through
its parts in their order. Whether a part fails does not matter: what comes after it is audible too,
or never happens. -/

namespace Run

variable {α β : Type}

theorem Audible.bind {x : Run α} {f : α → Run β} (hx : Audible x.events)
    (hf : ∀ a, Audible (f a).events) : Audible (x >>= f).events := by
  rw [events_bind]
  refine Dicebox.Audible.append hx ?_
  cases x.result with
  | ok a => exact hf a
  | error fault => exact audible_nil

theorem OnlyLogs.audible {x : Run α} (h : x.OnlyLogs) : Audible x.events := by
  obtain ⟨records, hrecords, hreach⟩ := h
  rw [hrecords]
  exact List.forall_mem_map.mpr hreach

end Run

open Run

/-! ## Throws -/

theorem audible_stepEvents (label : Datum) (watched : Bool) (line : String)
    (values : List (String × Datum)) : Audible (stepEvents label watched line values) := by
  refine .cons rfl ?_
  cases watched with
  | true => exact .cons trivial audible_nil
  | false => exact audible_nil

theorem audible_dieEvents (label sides : Datum) (watched : Bool) (l : DieLine) :
    Audible (dieEvents label sides watched l) := .cons rfl (audible_stepEvents _ _ _ _)

theorem audible_closingEvents (label dieCount : Datum) (watched : Bool)
    (modifierSteps : List String) (summary : String) (total : Datum) :
    Audible (closingEvents label dieCount watched modifierSteps summary total) := by
  refine .append (.append ?_ (audible_stepEvents _ _ _ _)) (.cons trivial audible_nil)
  exact audible_flatMap (fun line => audible_stepEvents label watched line []) _

/-- What all throws have in common, the checked ones and the drafts: an opening, the dice as far as
they were rolled, and an ending if they all were. -/
theorem audible_tell {α : Type} {opening : List Event} {dice : List Int → List Event}
    {ending : List Int → Run α} (hopening : Audible opening) (hdice : ∀ faces, Audible (dice faces))
    (hending : ∀ faces, Audible (ending faces).events) (rolls : Rolls) :
    Audible (tell opening dice ending rolls).events := by
  rw [tell]
  refine Audible.bind hopening fun _ => Audible.bind (hdice _) fun _ => ?_
  cases rolls.stopped with
  | some fault => exact audible_nil
  | none => exact hending _

theorem Throw.audible_finish (t : Throw) (watched : Bool) (faces : List Int) :
    Audible (t.finish watched faces).events := by
  unfold finish
  dsimp only
  cases Text.write? (t.totalOf faces) with
  | none => exact audible_nil
  | some written => exact audible_closingEvents _ _ _ _ _ _

theorem Throw.audible_evaluate (t : Throw) (watched : Bool) (s : Source) :
    Audible (t.evaluate watched s).1.events := by
  unfold evaluate
  cases t.announcement? with
  | none => exact audible_nil
  | some announcement =>
    exact audible_tell (audible_stepEvents _ _ _ _)
      (fun faces => audible_flatMap (audible_dieEvents _ _ watched) _)
      (t.audible_finish watched) _

theorem Draft.audible_finish (d : Draft) (watched : Bool) (faces : List Int) :
    Audible (d.finish watched faces).events := by
  unfold finish
  cases d.totalOf faces with
  | error fault => exact audible_nil
  | ok total =>
    dsimp only
    cases total.write? with
    | none => exact audible_nil
    | some written => exact audible_closingEvents _ _ _ _ _ _

theorem Draft.audible_evaluate (d : Draft) (watched : Bool) (s : Source) :
    Audible (d.evaluate watched s).1.events :=
  audible_tell (audible_stepEvents _ _ _ _)
    (fun _ => audible_flatMap (audible_dieEvents _ _ watched) _) (d.audible_finish watched) _

/-! ## Throws from texts

Reading a text is logged by its own records, and these are known to be at `DEBUG` at least from
`Run.OnlyLogs`, where that is part of the definition. -/

theorem audible_openingEvents (watched : Bool) (given : Datum) :
    Audible (openingEvents watched given) := by
  refine .cons rfl ?_
  cases watched with
  | true => exact .cons trivial audible_nil
  | false => exact audible_nil

theorem audible_accountEvents (given : Datum) (result : Except Fault Outcome) :
    Audible (accountEvents given result) := by
  cases result with
  | ok o => exact .cons trivial (.cons rfl audible_nil)
  | error fault =>
    cases fault with
    | dice e => exact .cons trivial (.cons rfl audible_nil)
    | _ => exact audible_nil

theorem audible_parse (given : Datum) (limits : Limits) :
    Audible (Throw.parse given limits).events := (Throw.onlyLogs_parse given limits).audible

theorem audible_evaluateText (watched : Bool) (given : Datum) (limits : Limits) (s : Source) :
    Audible (evaluateText watched given limits s).1.events := by
  have hparse := audible_parse given limits
  refine .append (.append (audible_openingEvents watched given) ?_) (audible_accountEvents given _)
  cases (Throw.parse given limits).result with
  | error fault => exact hparse
  | ok t => exact .append hparse (t.audible_evaluate watched s)

theorem audible_evaluateTextWithout (why : Fault) (watched : Bool) (given : Datum)
    (limits : Limits) : Audible (evaluateTextWithout why watched given limits).events :=
  .append (.append (audible_openingEvents watched given) (audible_parse given limits))
    (audible_accountEvents given _)

/-! ## Reports -/

theorem audible_reportOn {thrown : Run Outcome} (h : Audible thrown.events) :
    Audible (reportOn thrown).events := by
  refine Audible.bind h fun outcome => ?_
  refine Audible.bind audible_nil fun report => ?_
  exact Audible.bind (.cons rfl audible_nil) fun _ => audible_nil

theorem audible_reportText (given : Datum) (limits : Limits) (s : Source) :
    Audible (reportText given limits s).1.events :=
  audible_reportOn (audible_evaluateText false given limits s)

/-! ## Commands -/

theorem audible_send (content : String) (ephemeral : Bool) :
    Audible (send content ephemeral).events := .cons trivial audible_nil

theorem audible_sendMistake (separator expr : Datum) (e : DiceError) :
    Audible (sendMistake separator expr e).events :=
  Audible.bind audible_nil fun content => audible_send content true

theorem audible_answerRoll (o : RollOptions) (separator : Datum) (expr : String) (userId : Datum)
    (steps : List String) (result : Except Fault Outcome) :
    Audible (answerRoll o separator expr userId steps result).events := by
  unfold answerRoll
  split
  · exact Audible.bind (.cons trivial (.cons rfl audible_nil)) fun _ => audible_sendMistake _ _ _
  · exact audible_nil
  · next outcome =>
    -- The answer is the same whether or not the steps were sent before it.
    have hanswer : Audible (do
        send (← .ofExcept (joinLines separator outcome.messages)) false
        emit [.logged (.info "command.roll.sent"
          [("expr", .text expr), ("total", .int outcome.total),
            ("dice", .int outcome.faces.length), ("user_id", userId)])] : Run Unit).events := by
      refine Audible.bind audible_nil fun content => ?_
      exact Audible.bind (audible_send content false) fun _ => .cons rfl audible_nil
    refine Audible.bind (.cons trivial audible_nil) fun _ => ?_
    split
    · refine Audible.bind audible_nil fun content => ?_
      exact Audible.bind (audible_send content true) fun _ => hanswer
    · exact hanswer

theorem audible_roll (o : RollOptions) (settings : Attributes) (userId : Datum) (s : Source) :
    Audible (roll o settings userId s).events := by
  unfold roll
  refine Audible.bind audible_nil fun limits => ?_
  refine Audible.bind (audible_evaluateText _ _ limits s) fun _ => ?_
  exact audible_answerRoll _ _ _ _ _ _

theorem audible_answerRandomness (separator expr : Datum) (report : Except Fault Report) :
    Audible (answerRandomness separator expr report).events := by
  unfold answerRandomness
  split
  · exact Audible.bind (.cons trivial audible_nil) fun _ => audible_sendMistake _ _ _
  · exact audible_nil
  · refine Audible.bind (.cons trivial audible_nil) fun _ => ?_
    exact Audible.bind audible_nil fun content => audible_send content false

theorem audible_randomness (o : RandomnessOptions) (settings : Attributes) (s : Source) :
    Audible (randomness o settings s).events := by
  unfold randomness
  refine Audible.bind audible_nil fun limits => ?_
  refine Audible.bind (audible_reportText _ limits _) fun _ => ?_
  exact audible_answerRandomness _ _ _

namespace Command

theorem audible_act (inv : Invocation) (values : OptionValues) :
    Audible (act inv values).events := by
  have hsettings := (onlyLogs_settingsOf inv).audible
  cases values with
  | roll o => exact Audible.bind hsettings fun settings => audible_roll _ _ _ _
  | randomness o => exact Audible.bind hsettings fun settings => audible_randomness _ _ _
  | none => exact audible_nil

theorem audible_invoke (command : Command) (inv : Invocation) :
    Audible (command.invoke inv).events := by
  refine Audible.bind audible_nil fun values => ?_
  exact Audible.bind (audible_act inv values) fun _ => audible_nil

end Command

namespace CommandLine

theorem audible_runCommand (prepare : Preparation) (command : Command)
    (options : List (String × Datum)) (place : Place) (entropy : Int) :
    Audible (runCommand prepare command options place entropy).events := by
  refine Audible.bind (Settings.onlyLogs_load place []).audible fun settings => ?_
  refine Audible.bind audible_nil fun _ => ?_
  exact Audible.bind (command.audible_invoke _) fun _ => audible_nil

theorem audible_ofStop (stop : Stop) : Audible (Ending.ofStop stop).events := by
  cases stop <;> exact audible_nil

theorem audible_runWith (prepare : Preparation) (command : Command) (arguments : List Datum)
    (place : Place) (entropy : Int) :
    Audible (runWith prepare command arguments place entropy).events := by
  unfold runWith
  dsimp only
  split
  · exact audible_ofStop _
  · split
    · exact audible_nil
    · split
      · exact audible_ofStop _
      · exact audible_nil
      · exact audible_runCommand _ _ _ _ _

theorem audible_runNamed (prepare : Preparation) (name : String) (arguments : List Datum)
    (place : Place) (entropy : Int) :
    Audible (runNamed prepare name arguments place entropy).events := by
  unfold runNamed
  cases Registry.builtIn.find? (.text name) with
  | none => exact audible_nil
  | some command => exact audible_runWith _ _ _ _ _

theorem audible_runArguments (prepare : Preparation) (place : Place) (entropy : Int)
    (arguments : List Datum) (help : Bool) :
    Audible (runArguments prepare place entropy arguments help).events := by
  -- Each argument before the name of a command is skipped, or ends the line.
  fun_induction runArguments prepare place entropy arguments help
  all_goals
    first
    | exact audible_nil
    | exact audible_runNamed _ _ _ _ _
    | assumption

theorem audible_run (prepare : Preparation) (place : Place) (entropy : Int)
    (arguments : List Datum) : Audible (run prepare place entropy arguments).events := by
  unfold run
  split
  · split <;> exact audible_nil
  · exact audible_runArguments _ _ _ _ _

end CommandLine

/-! ## Requests

A request is a tree: it may be a session of other requests, or another request with its records kept
in a file. What is kept there is told in the reply, and is not among the records of the request
itself; so of these two only the session has records of others to pass on. -/

namespace Session

theorem reachDebug_rollRecords (sides : List Datum) (results : List (Except Fault Int)) :
    ReachDebug (rollRecords sides results) := by
  intro r hr
  obtain ⟨⟨d, result⟩, -, hrecord⟩ := List.mem_filterMap.mp hr
  cases result with
  | ok face => rw [← Option.some.inj hrecord]; rfl
  | error fault => cases hrecord

/-- Whichever way a request comes by its source, or does not, what is done is one of the two runs
that were to be done. -/
theorem audible_runOn {α : Type} {how : Circumstances} {run : Source → Run α × Source}
    {without : Fault → Run α} (hrun : ∀ source, Audible (run source).1.events)
    (hwithout : ∀ fault, Audible (without fault).events) {s after : State} {done : Run α}
    (h : runOn how run without s = .ok (done, after)) : Audible done.events := by
  obtain ⟨-, source, -, rfl, -⟩ | ⟨source, rfl, -⟩ | ⟨fault, rfl, -⟩ := exists_of_runOn h
  · exact hrun source
  · exact hrun source
  · exact hwithout fault

theorem reachDebug_throwOn (how : Circumstances) {throw : Source → Run Draft.Thrown × Source}
    {without : Fault → Run Draft.Thrown} (hthrow : ∀ source, Audible (throw source).1.events)
    (hwithout : ∀ fault, Audible (without fault).events) (s : State) :
    ReachDebug (throwOn how throw without s).records := by
  rw [throwOn]
  cases hrun : runOn how throw without s with
  | error fault => exact nofun
  | ok done => exact (audible_runOn hthrow hwithout hrun).reachDebug

theorem reachDebug_throwDraft (how : Circumstances) (d : Draft) (s : State) :
    ReachDebug (throwDraft how d s).records := by
  unfold throwDraft
  cases d.throw? with
  | none => exact reachDebug_throwOn how (d.audible_evaluate how.watched) (fun _ => audible_nil) s
  | some t =>
    refine reachDebug_throwOn how (fun source => ?_) (fun _ => audible_nil) s
    -- The run is split from its source, which changes what is returned and none of the events.
    have haudible := t.audible_evaluate how.watched source
    revert haudible
    cases t.evaluate how.watched source with
    | mk run rest => exact id

theorem reachDebug_throwText (given : Option Datum) (limits : Datum) (how : Circumstances)
    (s : State) : ReachDebug (throwText given limits how s).records := by
  unfold throwText
  cases given with
  | none => exact nofun
  | some given =>
    cases Limits.ofDatum limits with
    | error fault => exact nofun
    | ok limits =>
      refine reachDebug_throwOn how (fun source => ?_)
        (fun fault => audible_evaluateTextWithout fault how.watched given limits) s
      have haudible := audible_evaluateText how.watched given limits source
      revert haudible
      cases evaluateText how.watched given limits source with
      | mk run rest => exact id

theorem reachDebug_reportOnText (given limits : Datum) (how : Circumstances) (s : State) :
    ReachDebug (reportOnText given limits how s).records := by
  rw [reportOnText]
  have hsource : ∀ source, Audible (reportOnSource given limits source).1.events := by
    intro source
    rw [reportOnSource]
    cases Limits.ofDatum limits with
    | error fault => exact audible_nil
    | ok limits => exact audible_reportText given limits source
  have hwithout : ∀ fault, Audible (reportWithout given limits fault).events := fun fault =>
    Audible.bind audible_nil fun limits =>
      audible_reportOn (audible_evaluateTextWithout fault false given limits)
  cases hrun : runOn how (reportOnSource given limits) (reportWithout given limits) s with
  | error fault => exact nofun
  | ok done => exact (audible_runOn hsource hwithout hrun).reachDebug

theorem reachDebug_performOperation (s : State) (operation : Operation) :
    ReachDebug (performOperation s operation).records := by
  cases operation with
  | parse given limits =>
    have hparse : Audible (do Throw.parse given (← .ofExcept (Limits.ofDatum limits)) :
        Run Throw).events := Audible.bind audible_nil fun limits => audible_parse given limits
    exact hparse.reachDebug
  | evaluate figures how =>
    rw [performOperation]
    cases figures.toDraft with
    | error fault => exact nofun
    | ok d => exact reachDebug_throwDraft how d s
  | throwText given limits how => exact reachDebug_throwText given limits how s
  | report given limits how => exact reachDebug_reportOnText given limits how s
  | roll sides source entropy =>
    rw [performOperation, rollOn]
    split
    · exact nofun
    · split
      · exact nofun
      · exact reachDebug_rollRecords _ _
  | newSource name source entropy =>
    rw [performOperation]
    split <;> exact nofun
  | increment counter value =>
    rw [performOperation, performIncrement]
    split <;> exact nofun
  | observe histogram value bounds =>
    rw [performOperation, performObserve]
    split <;> exact nofun
  | command name inv =>
    rw [performOperation, performCommand]
    split
    · exact nofun
    · exact nofun
    · next command _ => exact (command.audible_invoke inv).reachDebug
  | settings place given => exact (Settings.onlyLogs_load place given).audible.reachDebug
  | commandLine arguments place entropy =>
    rw [performOperation, performCommandLine]
    split
    · exact nofun
    · exact (CommandLine.audible_run _ _ _ _).reachDebug
  | _ => exact nofun

mutual

/-- **Every record of a request has at least the severity `DEBUG`.** By recursion on the request,
together with the lists of requests that make up sessions. -/
theorem reachDebug_perform : ∀ (request : Request) (s : State),
    ReachDebug (perform request s).records
  | .single operation, s => by
    rw [perform]
    exact reachDebug_performOperation s operation
  | .session steps, s => by
    have hsteps := reachDebug_performAll steps s
    rw [perform]
    dsimp only
    cases (performAll steps s).1 with
    | ok replies => exact hsteps
    | error fault => exact hsteps
  | .logged level file enabled action, s => by
    rw [perform]
    dsimp only
    split
    · exact nofun
    · exact nofun
    · exact nofun
  | .broken fault, s => by
    rw [perform]
    exact nofun

theorem reachDebug_performAll : ∀ (steps : List Request) (s : State),
    ReachDebug (performAll steps s).2.records
  | [], s => by
    rw [performAll]
    exact nofun
  | request :: rest, s => by
    have hrequest := reachDebug_perform request s
    have hrest := reachDebug_performAll rest (perform request s).state
    rw [performAll]
    cases request.fault? with
    | some fault => exact nofun
    | none =>
      refine List.forall_mem_append.mpr ⟨hrequest, ?_⟩
      -- Records after the log was taken away are not kept.
      split
      · exact nofun
      · exact hrest

end

end Session

end Dicebox
