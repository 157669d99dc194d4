import Dicebox.Proofs.Command.Entries

/-!
# What the command `roll` sends

A throw sends nothing by itself (`messages_evaluateText`), and neither does looking for settings. So
the messages of the command are those of its answer, and `answerRoll_throw` and `answerRoll_mistake`
say what these are, as soon as the separator is a text: for a finished throw its messages as one,
open to everybody, and before it the steps if they were asked for; for a mistake a single ephemeral
message. With a separator that is no text nothing can be put together, and nothing is sent
(`answerRoll_inseparable`).
-/

set_option autoImplicit false

namespace Dicebox

open Run

/-! ## Throws send nothing

Events are of several sorts, and it takes a responder to make a message. The parts of a throw have
none; they only tell, log and count. So for each of them there is a lemma that says nothing but
this, and the lemma about the throw follows the way its events are put together. -/

/-- The messages among some events. -/
def messages (events : List Event) : List Message := events.filterMap Event.message?

@[simp] theorem messages_nil : messages [] = [] := rfl

@[simp] theorem messages_append (a b : List Event) :
    messages (a ++ b) = messages a ++ messages b := List.filterMap_append ..

theorem messages_flatMap_eq_nil {α : Type} {f : α → List Event} (h : ∀ a, messages (f a) = [])
    (l : List α) : messages (l.flatMap f) = [] := by
  rw [messages, List.filterMap_flatMap]
  exact List.flatMap_eq_nil_iff.mpr fun a _ => h a

@[simp] theorem messages_stepEvents (label : Datum) (watched : Bool) (line : String)
    (values : List (String × Datum)) : messages (stepEvents label watched line values) = [] := by
  cases watched <;> rfl

@[simp] theorem messages_dieEvents (label sides : Datum) (watched : Bool) (l : DieLine) :
    messages (dieEvents label sides watched l) = [] :=
  messages_stepEvents label watched l.step [("die", .int l.number), ("result", .int l.face)]

@[simp] theorem messages_closingEvents (label dieCount : Datum) (watched : Bool)
    (modifierSteps : List String) (summary : String) (total : Datum) :
    messages (closingEvents label dieCount watched modifierSteps summary total) = [] := by
  rw [closingEvents, messages_append, messages_append, messages_stepEvents,
    messages_flatMap_eq_nil fun line => messages_stepEvents label watched line []]
  rfl

theorem Throw.messages_finish (t : Throw) (watched : Bool) (faces : List Int) :
    Dicebox.messages (t.finish watched faces).events = [] := by
  unfold finish
  dsimp only
  cases Text.write? (t.totalOf faces) with
  | none => rfl
  | some written => exact messages_closingEvents ..

theorem Throw.messages_evaluate (t : Throw) (watched : Bool) (s : Source) :
    Dicebox.messages (t.evaluate watched s).1.events = [] := by
  unfold evaluate
  cases t.announcement? with
  | none => rfl
  | some announcement =>
    -- Stopped or not, the dice have told of the faces they showed.
    have hdice : ∀ faces, Dicebox.messages (t.diceEvents watched faces) = [] :=
      fun faces => messages_flatMap_eq_nil (messages_dieEvents _ _ watched) _
    dsimp only
    rw [tell_eq]
    cases (rollDice t.sides t.dieCount s).stopped with
    | some fault => simp [hdice]
    | none => simp [hdice, t.messages_finish]

theorem messages_accountEvents (given : Datum) (result : Except Fault Outcome) :
    messages (accountEvents given result) = [] := by
  cases result with
  | ok o => rfl
  | error fault => cases fault <;> rfl

theorem messages_evaluateText (watched : Bool) (given : Datum) (limits : Limits) (s : Source) :
    messages (evaluateText watched given limits s).1.events = [] := by
  have hopening : messages (openingEvents watched given) = [] := by cases watched <;> rfl
  have hparse : messages (Throw.parse given limits).events = [] :=
    (Throw.onlyLogs_parse given limits).sent
  cases hread : (Throw.parse given limits).result with
  | error fault =>
    rw [evaluateText_of_parse_error watched s hread, messages_append, messages_append, hopening,
      hparse, messages_accountEvents]
    rfl
  | ok t =>
    rw [evaluateText_of_parse watched s hread, messages_append, messages_append, messages_append,
      hopening, hparse, t.messages_evaluate, messages_accountEvents]
    rfl

/-! ## The answer

Everything that is sent is joined by the separator first, error messages too. So there are three
lemmas and not two: for a throw, for a mistake, and for a separator that cannot join. -/

section

variable {o : RollOptions} {separator : Datum} {expr : String} {userId : Datum}
  {steps : List String}

/-- A finished throw is answered by its messages, and before them by the steps if they were asked
for. -/
theorem answerRoll_throw {text : String} (h : separatorText separator = .ok text)
    (outcome : Outcome) :
    (answerRoll o separator expr userId steps (.ok outcome)).result = .ok () ∧
    (answerRoll o separator expr userId steps (.ok outcome)).sent =
      (if o.verbose && !steps.isEmpty then [⟨String.intercalate text steps, true⟩] else []) ++
        [⟨String.intercalate text outcome.messages, false⟩] := by
  have hjoin : ∀ lines, joinLines separator lines = .ok (String.intercalate text lines) := by
    intro lines
    rw [joinLines, h]
    rfl
  unfold answerRoll
  simp only [hjoin]
  cases o.verbose && !steps.isEmpty with
  | true => exact ⟨rfl, rfl⟩
  | false => exact ⟨rfl, rfl⟩

theorem answerRoll_mistake {text : String} (h : separatorText separator = .ok text)
    (e : DiceError) :
    (answerRoll o separator expr userId steps (.error (.dice e))).result = .ok () ∧
    (answerRoll o separator expr userId steps (.error (.dice e))).sent =
      [⟨String.intercalate text (errorLines (.text expr) e), true⟩] := by
  have hjoin : joinLines separator (errorLines (.text expr) e) =
      .ok (String.intercalate text (errorLines (.text expr) e)) := by
    rw [joinLines, h]
    rfl
  unfold answerRoll sendMistake
  simp only [hjoin]
  exact ⟨rfl, rfl⟩

theorem answerRoll_fault {fault : Fault} (h : ∀ e, fault ≠ .dice e) :
    answerRoll o separator expr userId steps (.error fault) = .fail fault := by
  cases fault with
  | dice e => exact absurd rfl (h e)
  | _ => rfl

/-- Without a separator that is a text nothing is put together. The fault is that of the separator,
unless the throw has failed for a reason that is not answered: then nothing is put together at all,
and that fault is the one which is seen. -/
theorem answerRoll_inseparable {fault : Fault} (h : separatorText separator = .error fault)
    (result : Except Fault Outcome) :
    (answerRoll o separator expr userId steps result).result =
      (match result with
        | .error (.dice _) | .ok _ => .error fault
        | .error other => .error other) ∧
    (answerRoll o separator expr userId steps result).sent = [] := by
  have hjoin : ∀ lines, joinLines separator lines = .error fault := by
    intro lines
    rw [joinLines, h]
    rfl
  cases result with
  | ok outcome =>
    unfold answerRoll
    simp only [hjoin]
    cases o.verbose && !steps.isEmpty with
    | true => exact ⟨rfl, rfl⟩
    | false => exact ⟨rfl, rfl⟩
  | error other =>
    cases other with
    | dice e =>
      unfold answerRoll sendMistake
      simp only [hjoin]
      exact ⟨rfl, rfl⟩
    | _ => exact ⟨rfl, rfl⟩

end

/-! ## The command

The limits are read before the throw and the separator after it, and the command fails at whichever
cannot be read. -/

/-- What is thrown: what was asked for, or one die of twenty sides. -/
def RollOptions.asked (o : RollOptions) : String := if o.expr = "" then defaultRollText else o.expr

theorem RollOptions.asked_of_ne {o : RollOptions} (h : o.expr ≠ "") : o.asked = o.expr := if_neg h

/-- The throw of the command. -/
def RollOptions.thrown (o : RollOptions) (limits : Limits) (s : Source) : Run Outcome :=
  (evaluateText o.verbose (.text o.asked) limits s).1

theorem RollOptions.result_thrown_of_parse_error {o : RollOptions} {limits : Limits} {fault : Fault}
    (h : (Throw.parse (.text o.asked) limits).result = .error fault) (s : Source) :
    (o.thrown limits s).result = .error fault := by
  rw [thrown, evaluateText_of_parse_error o.verbose s h]

section

variable {o : RollOptions} {settings : Attributes} {userId : Datum} {s : Source}

theorem roll_unlimited {fault : Fault} (h : Limits.ofAttributes (some settings) = .error fault) :
    roll o settings userId s = .fail fault := by
  unfold roll
  rw [h]
  rfl

/-- Otherwise the command is its throw, followed by its answer. -/
theorem roll_limited {limits : Limits} (h : Limits.ofAttributes (some settings) = .ok limits) :
    roll o settings userId s = (do
      emit (o.thrown limits s).events
      answerRoll o (separatorOf (some settings)) o.asked userId (o.thrown limits s).steps
        (o.thrown limits s).result) := by
  unfold roll RollOptions.thrown RollOptions.asked
  rw [h, ofExcept_bind]

theorem result_roll {limits : Limits} (h : Limits.ofAttributes (some settings) = .ok limits) :
    (roll o settings userId s).result =
      (answerRoll o (separatorOf (some settings)) o.asked userId (o.thrown limits s).steps
        (o.thrown limits s).result).result := by
  rw [roll_limited h, bind_ok rfl]

theorem sent_roll {limits : Limits} (h : Limits.ofAttributes (some settings) = .ok limits) :
    (roll o settings userId s).sent =
      (answerRoll o (separatorOf (some settings)) o.asked userId (o.thrown limits s).steps
        (o.thrown limits s).result).sent := by
  have hsent : messages (o.thrown limits s).events = [] := messages_evaluateText ..
  rw [roll_limited h, bind_ok rfl]
  refine (messages_append _ _).trans ?_
  rw [events_emit, hsent, List.nil_append]
  rfl

end

namespace Command

variable {inv : Invocation} {settings : Attributes}

theorem act_roll_unsettled {fault : Fault} (h : (settingsOf inv).result = .error fault)
    (o : RollOptions) : act inv (.roll o) = ⟨(settingsOf inv).events, .error fault⟩ := by
  have hact : act inv (.roll o) = (settingsOf inv >>= fun settings =>
      Dicebox.roll o settings inv.userId (.seeded inv.entropy)) := rfl
  rw [hact, bind_error h]

/-- Once settings are found, an invocation goes on as the command does with them. The events are not
equal, for looking for settings may have been logged; but nothing was sent for it. -/
theorem act_roll (h : (settingsOf inv).result = .ok settings) (o : RollOptions) :
    (act inv (.roll o)).result = (Dicebox.roll o settings inv.userId (.seeded inv.entropy)).result ∧
    (act inv (.roll o)).sent = (Dicebox.roll o settings inv.userId (.seeded inv.entropy)).sent := by
  have hact : act inv (.roll o) = (settingsOf inv >>= fun settings =>
      Dicebox.roll o settings inv.userId (.seeded inv.entropy)) := rfl
  rw [hact, bind_ok h]
  refine ⟨rfl, ?_⟩
  refine (messages_append _ _).trans ?_
  rw [show messages (settingsOf inv).events = [] from (onlyLogs_settingsOf inv).sent,
    List.nil_append]
  rfl

theorem sent_act_roll {limits : Limits} (hsettings : (settingsOf inv).result = .ok settings)
    (hlimits : Limits.ofAttributes (some settings) = .ok limits) (o : RollOptions) :
    (act inv (.roll o)).sent =
      (answerRoll o (separatorOf (some settings)) o.asked inv.userId
        (o.thrown limits (.seeded inv.entropy)).steps
        (o.thrown limits (.seeded inv.entropy)).result).sent := by
  rw [(act_roll hsettings o).2, sent_roll hlimits]

/-- Without a separator that is a text nothing is sent, whether or not there are limits. -/
theorem sent_act_roll_inseparable {fault : Fault}
    (hsettings : (settingsOf inv).result = .ok settings)
    (hseparator : separatorText (separatorOf (some settings)) = .error fault) (o : RollOptions) :
    (act inv (.roll o)).sent = [] := by
  cases hlimits : Limits.ofAttributes (some settings) with
  | error _ =>
    rw [(act_roll hsettings o).2, roll_unlimited hlimits]
    rfl
  | ok limits =>
    rw [sent_act_roll hsettings hlimits]
    exact (answerRoll_inseparable hseparator _).2

end Command

end Dicebox
