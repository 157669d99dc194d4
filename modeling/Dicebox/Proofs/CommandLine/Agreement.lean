import Dicebox.Proofs.Command.Entries
import Dicebox.Proofs.CommandLine.Choices
import Dicebox.Proofs.CommandLine.Console
import Dicebox.Proofs.Settings.Defaults

/-!
# The command line agrees with the commands

A command can be given on a command line, or to the command itself. The first finds settings at
once, makes the log ready, goes through words and tables, and speaks through a console. The second
reads its options first and finds settings when it needs them. All the same,

> **they send the same messages, keep the same books, and end in the same way** (`run_agrees`).

What may differ is the log, in which the person who gives a command has a name. So runs are compared
without their log records (`Run.unlogged`), and everything else is a reading of what is left.

There are two ways for the command line to go astray (`run_astray`). A shell may ask how the line
goes on, and then the line is not run at all. And what is made ready with the settings may fail.
-/

set_option autoImplicit false

namespace Dicebox

/-! ## Who gives a command is known to the log alone

The line gives its command in the name of `cli`, a caller in whatever name it likes. Of the two
commands only `roll` makes use of the name, in a record of what it has sent. -/

open Run

theorem unlogged_answerRoll (o : RollOptions) (separator : Datum) (expr : String)
    (userId userId' : Datum) (steps : List String) (result : Except Fault Outcome) :
    (answerRoll o separator expr userId steps result).unlogged =
      (answerRoll o separator expr userId' steps result).unlogged := by
  unfold answerRoll
  cases result with
  | ok outcome =>
    cases o.verbose && !steps.isEmpty <;>
      simp only [if_true, if_false, Bool.false_eq_true, unlogged_bind] <;> rfl
  | error fault =>
    cases fault with
    | dice e =>
      simp only [unlogged_bind]
      rfl
    | _ => rfl

theorem unlogged_roll (o : RollOptions) (settings : Attributes) (userId userId' : Datum)
    (s : Source) :
    (roll o settings userId s).unlogged = (roll o settings userId' s).unlogged := by
  unfold roll
  simp only [unlogged_bind, unlogged_answerRoll o _ _ userId userId']

namespace Command

/-- What a command does with settings. -/
def actWith (settings : Attributes) (userId : Datum) (entropy : Int) : OptionValues → Run Unit
  | .roll o => Dicebox.roll o settings userId (.seeded entropy)
  | .randomness o => Dicebox.randomness o settings (.seeded entropy)
  | .none => pure ()

theorem unlogged_actWith (settings : Attributes) (userId userId' : Datum) (entropy : Int)
    (values : OptionValues) :
    (actWith settings userId entropy values).unlogged =
      (actWith settings userId' entropy values).unlogged := by
  cases values with
  | roll o => exact unlogged_roll o settings userId userId' (.seeded entropy)
  | randomness o => rfl
  | none => rfl

theorem unlogged_act_roll_or_randomness {inv : Invocation} {values : OptionValues}
    (hvalues : values ≠ .none) :
    (act inv values).unlogged = ofExcept (settingsOf inv).result >>= fun settings =>
      (actWith settings inv.userId inv.entropy values).unlogged := by
  have hsettings := (onlyLogs_settingsOf inv).unlogged_eq
  cases values with
  | roll o => rw [act, unlogged_bind, hsettings]; rfl
  | randomness o => rw [act, unlogged_bind, hsettings]; rfl
  | none => exact absurd rfl hvalues

/-- What a command does in the end, apart from the log: it reads its options, finds settings, and
acts. -/
theorem unlogged_invoke {command : Command} (inv : Invocation) {values : OptionValues}
    (hread : readOptions command.action inv.options = .ok values) (hvalues : values ≠ .none) :
    (command.invoke inv).unlogged = ofExcept (settingsOf inv).result >>= fun settings =>
      (actWith settings inv.userId inv.entropy values).unlogged >>= fun _ => pure values := by
  rw [invoke, hread, ofExcept_bind, unlogged_bind, unlogged_act_roll_or_randomness hvalues]
  cases (settingsOf inv).result <;> rfl

end Command

namespace CommandLine

/-! ## The line and the command

The two runs are not compared step by step, for the steps are in another order: the line finds
settings before it reads the options, the command afterwards. Without their log records both are
brought into one form instead, settings first and then the act (`Command.unlogged_invoke`,
`unlogged_runCommand`), and there they are the same but for the value that they return. -/

/-- How a command line ends where the command that it names, given by itself, makes such a run. -/
structure Agrees {α : Type} (e : Ending) (x : Run α) : Prop where
  /-- If the command returns, the line has succeeded. -/
  returned : ∀ a, x.result = .ok a → e.exitCode = 0 ∧ e.fault? = none
  /-- If the command fails, the line has failed with the same fault. -/
  raised : ∀ fault, x.result = .error fault → e.exitCode = 1 ∧ e.fault? = some fault
  /-- Up to there the same messages have been sent, -/
  sent : e.events.filterMap Event.message? = x.sent
  /-- and plain ones have been printed line by line. -/
  printed : (∀ m ∈ x.sent, Console.IsPlain m.content) → e.output = String.join (x.sent.map fun m =>
    (if m.ephemeral then "(ephemeral) " else "") ++ m.content ++ "\n")
  /-- The books are the same. -/
  booked : ∀ m : Metrics, m.book e.events = m.book x.events

variable {α : Type}

/-- It is enough to compare runs without their log records, and results without their values. -/
theorem agrees_of_unlogged {warned : Bool} {line : Run Unit} {x : Run α}
    (hevents : unlogged line.events = unlogged x.events)
    (hresult : line.result = x.result.map fun _ => ()) : Agrees (.ran warned line) x where
  returned a ha := by
    have hline : line.result = .ok () := by rw [hresult, ha]; rfl
    simp [Ending.exitCode, Ending.fault?, hline]
  raised fault hfault := by
    have hline : line.result = .error fault := by rw [hresult, hfault]; rfl
    simp [Ending.exitCode, Ending.fault?, hline]
  sent := by
    have hsent := filterMap_unlogged Event.message? (fun _ => rfl) line.events
    rw [hevents, filterMap_unlogged Event.message? fun _ => rfl] at hsent
    exact hsent.symm
  printed hplain := by
    have hsent := filterMap_unlogged Event.message? (fun _ => rfl) line.events
    rw [hevents, filterMap_unlogged Event.message? fun _ => rfl] at hsent
    have houtput : (Ending.ran warned line).output =
        Console.print (line.events.filterMap Event.message?) := rfl
    rw [houtput, ← hsent]
    exact Console.print_eq_join hplain
  booked m := by
    rw [Ending.events, ← m.book_unlogged line.events, hevents, m.book_unlogged]

theorem run_given (prepare : Preparation) {word : String} {command : Command}
    (hcommand : Registry.builtIn.find? (.text word) = some command) {given : List GivenOption}
    (hgiven : ∀ g ∈ given, g.choice.belongsTo command = true) {place : Place}
    (hplace : Completion.request? place = none) (entropy : Int) :
    run prepare place entropy ((word :: given.flatMap GivenOption.arguments).map .text) =
      .ran (lacksConfiguration place)
        (runCommand prepare command (completedTable command given) place entropy) := by
  -- The word that names the command is taken for a name, and neither for a mark nor for an option.
  have hword : word ≠ "--" ∧ looksLikeOption word = false := by
    obtain ⟨rfl, -⟩ | ⟨rfl, -⟩ := builtIn_cases hcommand <;> decide
  have hsorted := sortArguments_given
    (fun g hg => finds_of_belongsTo hcommand (hgiven g hg)) {}
  have htable := optionTable_given hcommand given
  have hnamed (rest : List Datum) : runArguments prepare place entropy (.text word :: rest) false =
      runWith prepare command rest place entropy := by
    simp [runArguments, hword, runNamed, hcommand]
  rw [run, hplace, List.map_cons]
  dsimp only
  rw [hnamed]
  unfold runWith
  rw [parametersOf] at hsorted htable
  simp only [hsorted, List.nil_append, Bool.false_eq_true, if_false, htable]

theorem unlogged_runCommand {prepare : Preparation} {command : Command}
    {options : List (String × Datum)} {place : Place} {values : OptionValues}
    (hread : Command.readOptions command.action (.table options) = .ok values)
    (hvalues : values ≠ .none)
    (hprepare : ∀ settings, (Settings.load place []).result = .ok settings →
      prepare settings.attributes = .ok ()) (entropy : Int) :
    (runCommand prepare command options place entropy).unlogged =
      ofExcept (Settings.load place []).result >>= fun settings =>
        (Command.actWith settings.attributes (.text "cli") entropy values).unlogged >>= fun _ =>
          pure () := by
  rw [runCommand, unlogged_bind, (Settings.onlyLogs_load place []).unlogged_eq]
  cases hload : (Settings.load place []).result with
  | error fault => rfl
  | ok settings =>
    rw [ofExcept_bind, ofExcept_bind, hprepare settings hload, ofExcept_bind, unlogged_bind,
      Command.unlogged_invoke _ hread hvalues]
    -- The settings are handed in, so that they are not looked for again.
    have hfound : (Command.settingsOf
        { options := .table options, settings := some settings.attributes, place
          userId := .text "cli", entropy }).result = .ok settings.attributes := rfl
    rw [hfound, ofExcept_bind]
    exact andThen_assoc _ _ _

/-- The same options, given to a command by itself in the same place. -/
def invocationOf (given : List GivenOption) (place : Place) (userId : Datum) (entropy : Int) :
    Command.Invocation :=
  { options := .table (tableOf given), settings := none, place, userId, entropy }

theorem result_settingsOf (given : List GivenOption) (place : Place) (userId : Datum)
    (entropy : Int) : (Command.settingsOf (invocationOf given place userId entropy)).result =
      (Settings.load place []).result.map Settings.attributes := by
  have hload : Command.settingsOf (invocationOf given place userId entropy) =
      Settings.load place [] >>= fun settings => pure settings.attributes := rfl
  rw [hload, result_bind]
  cases (Settings.load place []).result <;> rfl

/-- **A command line agrees with the command that it names.**

Its options may be in any order, written in either way and given more than once, and the command has
the same options as a table. Whatever the place, the two have the same settings and the same throw.
So they fail with the same fault or both succeed, and up to there they send the same messages, which
the line prints as well, and keep the same books.

Two things are asked of the place, and each of them is necessary (`run_astray`): that no shell wants
to know how the line goes on, and that the log can be made ready with the settings, if there are
any. That the options can be read is not asked for, since a `GivenOption` has a value that can be
written, and the command reads what is written so. -/
theorem run_agrees (prepare : Preparation) {word : String} {command : Command}
    (hcommand : Registry.builtIn.find? (.text word) = some command) {given : List GivenOption}
    (hgiven : ∀ g ∈ given, g.choice.belongsTo command = true) {place : Place}
    (hplace : Completion.request? place = none)
    (hprepare : ∀ settings, (Settings.load place []).result = .ok settings →
      prepare settings.attributes = .ok ()) (userId : Datum) (entropy : Int) :
    Agrees (run prepare place entropy ((word :: given.flatMap GivenOption.arguments).map .text))
      (command.invoke (invocationOf given place userId entropy)) := by
  obtain ⟨values, hcompleted, htable, hvalues⟩ := readOptions_completedTable hcommand given
  have hline := unlogged_runCommand hcompleted hvalues hprepare entropy
  have hinvoke := Command.unlogged_invoke (invocationOf given place userId entropy) htable hvalues
  rw [result_settingsOf] at hinvoke
  -- Apart from the log the line is the command, and only gives no value.
  have hsame : (runCommand prepare command (completedTable command given) place entropy).unlogged =
      (command.invoke (invocationOf given place userId entropy)).unlogged >>= fun _ => pure () := by
    rw [hline, hinvoke]
    cases (Settings.load place []).result with
    | error fault => rfl
    | ok settings =>
      rw [Except.map, ofExcept_bind, ofExcept_bind, Command.unlogged_actWith _ _ userId]
      exact (andThen_assoc (Command.actWith settings.attributes userId entropy values).unlogged
        (fun _ => pure values) fun _ => pure ()).symm
  rw [run_given prepare hcommand hgiven hplace]
  refine agrees_of_unlogged ?_ ?_
  · exact (congrArg Run.events hsame).trans (events_bind_pure _ ())
  · exact (congrArg Run.result hsame).trans (result_bind_pure _ ())

/-- All options of `roll`, one of them twice, in both ways of writing. -/
theorem run_agrees_roll :
    Registry.builtIn.find? (.text "roll") = some .roll ∧ Completion.request? {} = none ∧
    Agrees (run .log {} 7 (["roll", "--expr", "2d6", "--verbose", "--expr=x"].map .text))
      (Command.roll.invoke (invocationOf
        [⟨.expr "2d6", false⟩, ⟨.verbose, false⟩, ⟨.expr "x", true⟩] {} (.text "u1") 7)) := by
  have hcommand : Registry.builtIn.find? (.text "roll") = some .roll := rfl
  have hgiven : ∀ g ∈ [⟨.expr "2d6", false⟩, ⟨.verbose, false⟩, (⟨.expr "x", true⟩ : GivenOption)],
      g.choice.belongsTo .roll = true := by
    intro g hg
    simp only [List.mem_cons, List.not_mem_nil, or_false] at hg
    obtain rfl | rfl | rfl := hg <;> rfl
  have hplace : Completion.request? {} = none := rfl
  have hload : (Settings.load {} []).result = .ok .defaults :=
    Settings.load_without_file ⟨fun _ => rfl, fun _ => rfl⟩ rfl
  have hprepare : ∀ settings, (Settings.load {} []).result = .ok settings →
      Preparation.log settings.attributes = .ok () := by
    intro settings hsettings
    obtain rfl := Except.ok.inj (hload.symm.trans hsettings)
    rfl
  have hwords : [⟨.expr "2d6", false⟩, ⟨.verbose, false⟩, (⟨.expr "x", true⟩ : GivenOption)].flatMap
      GivenOption.arguments = ["--expr", "2d6", "--verbose", "--expr=x"] := rfl
  have hline := run_agrees .log hcommand hgiven hplace hprepare (.text "u1") 7
  rw [hwords] at hline
  exact ⟨hcommand, hplace, hline⟩

/-! ## Where they do not agree

A line that is not run can have the exit code of a line that has failed, and yet no fault. That is
enough to tell it from every run of a command, whatever the command would have done. -/

/-- A place where a shell asks how lines go on, though no shell that is known. -/
def askedPlace : Place := ⟨none, none, [("_ROOT_COMPLETE", "nope")]⟩

/-- Settings that spoil the log: their overall level is the name of something else. -/
def spoiltSettings : Settings :=
  { Settings.defaults with
    loggingLevel := "BASIC_FORMAT", loggingConsole := "BASIC_FORMAT"
    loggingFile := "BASIC_FORMAT" }

/-- A place with these settings. -/
def spoiltPlace : Place := ⟨some [("logging", .table [("level", .text "BASIC_FORMAT")])], none, []⟩

theorem load_spoiltPlace : (Settings.load spoiltPlace []).result = .ok spoiltSettings := by
  have hsections : HasSections [("logging", .table [("level", .text "BASIC_FORMAT")])] :=
    hasSections_of_tables (by simp)
  rw [Settings.result_load (fun _ _ => rfl) (by simpa [spoiltPlace] using hsections),
    Settings.read_eq_ok_iff]
  intro s
  cases s <;> rfl

/-- A line that has failed with no fault agrees with no run. -/
theorem not_agrees_of_faultless {α : Type} {e : Ending} {x : Run α} (hcode : e.exitCode = 1)
    (hfault : e.fault? = none) : ¬ Agrees e x := by
  intro h
  cases hx : x.result with
  | ok a =>
    have hzero := (h.returned a hx).1
    rw [hcode] at hzero
    cases hzero
  | error fault =>
    have hsome := (h.raised fault hx).2
    rw [hfault] at hsome
    cases hsome

/-- Where a shell asks, a line for which the command would answer ends at once; and where the log
cannot be set up, a line fails though the command does not. -/
theorem run_astray :
    ¬ Agrees (run .none askedPlace 0 (["roll", "--expr", "2d1"].map .text))
      (Command.roll.invoke (invocationOf [⟨.expr "2d1", false⟩] askedPlace (.text "u1") 0)) ∧
    ¬ Agrees (run .log spoiltPlace 0 (["roll", "--expr", "x"].map .text))
      (Command.roll.invoke (invocationOf [⟨.expr "x", false⟩] spoiltPlace (.text "u1") 0)) := by
  refine ⟨not_agrees_of_faultless rfl rfl, fun h => ?_⟩
  have hgiven : ∀ g ∈ [(⟨.expr "x", false⟩ : GivenOption)], g.choice.belongsTo .roll = true := by
    intro g hg
    obtain rfl := List.mem_singleton.1 hg
    rfl
  have hfails : (runCommand .log .roll (completedTable .roll [⟨.expr "x", false⟩]) spoiltPlace
      0).result = .error (.levelIsText "BASIC_FORMAT") := by
    rw [runCommand, result_bind_of_ok load_spoiltPlace]
    rfl
  have hread : Command.readOptions Command.roll.action (.table (tableOf [⟨.expr "x", false⟩])) =
      .ok (.roll ⟨"x", false⟩) := rfl
  have hreturns : (Command.roll.invoke (invocationOf [⟨.expr "x", false⟩] spoiltPlace (.text "u1")
      0)).result = .ok (.roll ⟨"x", false⟩) := by
    have hinvoke := Command.unlogged_invoke
      (invocationOf [⟨.expr "x", false⟩] spoiltPlace (.text "u1") 0) hread (by simp)
    rw [result_settingsOf, load_spoiltPlace] at hinvoke
    exact congrArg Run.result hinvoke
  have hcommand : Registry.builtIn.find? (.text "roll") = some .roll := rfl
  have hplace : Completion.request? spoiltPlace = none := rfl
  have hline : (run .log spoiltPlace 0 (["roll", "--expr", "x"].map .text)).exitCode = 1 := by
    have hwords : [(⟨.expr "x", false⟩ : GivenOption)].flatMap GivenOption.arguments =
        ["--expr", "x"] := rfl
    have hrun := run_given .log hcommand hgiven hplace 0
    rw [hwords] at hrun
    rw [hrun, Ending.exitCode, hfails]
  have hzero := (h.returned _ hreturns).1
  rw [hline] at hzero
  cases hzero

end CommandLine

end Dicebox
