import Dicebox.Proofs.Command.Answering
import Dicebox.Proofs.Throw.Pieces
import Dicebox.Proofs.Throw.Watching

/-!
# Asking for the steps of a throw

The command `roll` answers with the messages of its throw, and if it is asked to, with all of its
steps before them. Nothing else depends on whether it is asked:

> **the two invocations end in the same way, with the same books and the same public answer.**

The throw is the same (`result_thrown`). What is left is the answer, which comes to the same end
whether or not it has steps to send (`result_answerRoll`): the steps are put together with the very
separator that the messages after them need, so what could go wrong with the one goes wrong with the
other.

That separator has to be a text, for a mistake as well as for a throw. With any other one there is
no error message, watched or not. Settings that have been validated have a text there.
-/

set_option autoImplicit false

namespace Dicebox

open Run

/-! ## The answer

Steps and messages are joined by one separator. If it cannot join the first of them it cannot join
the others, so it makes no difference to the end whether there are steps to be sent. -/

/-- The end of an answer depends neither on the options nor on the steps. It does depend on the
separator, so the two invocations are compared case by case of what that is. -/
theorem result_answerRoll (o o' : RollOptions) (separator : Datum) (expr : String) (userId : Datum)
    (steps steps' : List String) (result : Except Fault Outcome) :
    (answerRoll o separator expr userId steps result).result =
      (answerRoll o' separator expr userId steps' result).result := by
  cases hseparator : separatorText separator with
  | error fault =>
    rw [(answerRoll_inseparable hseparator result).1, (answerRoll_inseparable hseparator result).1]
  | ok text =>
    cases result with
    | ok outcome =>
      rw [(answerRoll_throw hseparator outcome).1, (answerRoll_throw hseparator outcome).1]
    | error fault =>
      cases fault with
      | dice e => rw [(answerRoll_mistake hseparator e).1, (answerRoll_mistake hseparator e).1]
      | _ => rfl

/-! ## The command -/

section

variable (expr : String) (settings : Attributes) (userId : Datum) (s : Source)

theorem result_thrown (limits : Limits) :
    (RollOptions.thrown ⟨expr, true⟩ limits s).result =
      (RollOptions.thrown ⟨expr, false⟩ limits s).result := by
  have hrun := (unwatched_evaluateText true (.text (RollOptions.asked ⟨expr, true⟩)) limits s).1
  unfold RollOptions.thrown RollOptions.asked at *
  dsimp only at *
  rw [← result_unwatched, hrun]

theorem result_roll_watching :
    (roll ⟨expr, true⟩ settings userId s).result =
      (roll ⟨expr, false⟩ settings userId s).result := by
  cases hlimits : Limits.ofAttributes (some settings) with
  | error fault => rw [roll_unlimited hlimits, roll_unlimited hlimits]
  | ok limits =>
    rw [result_roll hlimits, result_roll hlimits, result_thrown]
    exact result_answerRoll ..

end

/-- Whoever watches a throw has been shown at least how it began. A throw without a single step
would be answered by one message, watched or not. -/
theorem steps_ne_nil (given : Datum) (limits : Limits) (s : Source) :
    (evaluateText true given limits s).1.steps ≠ [] := by
  intro h
  have hfirst : "Throwing dice from string " ++ given.display ∈
      (evaluateText true given limits s).1.steps := by
    refine List.mem_filterMap.mpr ⟨.shown ("Throwing dice from string " ++ given.display), ?_, rfl⟩
    have hopening : Event.shown ("Throwing dice from string " ++ given.display) ∈
        openingEvents true given := by simp [openingEvents]
    exact List.mem_append_left _ (List.mem_append_left _ hopening)
  rw [h] at hfirst
  cases hfirst

/-! ## Two runs of the command

Both runs look for settings and limits in the same place, and make the throws that `Alike` compares.
The books are compared through `Call.booked_run`, by which they depend on the end of a throw and on
nothing else. -/

section

variable (inv : Command.Invocation) (expr : String)

theorem result_act_watching :
    (Command.act inv (.roll ⟨expr, true⟩)).result =
      (Command.act inv (.roll ⟨expr, false⟩)).result := by
  cases hsettings : (Command.settingsOf inv).result with
  | error fault =>
    rw [Command.act_roll_unsettled hsettings, Command.act_roll_unsettled hsettings]
  | ok settings =>
    rw [(Command.act_roll hsettings _).1, (Command.act_roll hsettings _).1]
    exact result_roll_watching ..

theorem booked_act_watching :
    booked (Command.act inv (.roll ⟨expr, true⟩)).events =
      booked (Command.act inv (.roll ⟨expr, false⟩)).events := by
  -- What an invocation enters depends on the end of its throw only.
  have hthrown : (Call.roll inv ⟨expr, true⟩).thrown? = (Call.roll inv ⟨expr, false⟩).thrown? := by
    have hresult := fun limits => result_thrown expr (.seeded inv.entropy) limits
    unfold RollOptions.thrown RollOptions.asked at hresult
    simp only [Call.thrown?, hresult]
  rw [show booked (Command.act inv (.roll ⟨expr, true⟩)).events = _ from
      (Call.roll inv ⟨expr, true⟩).booked_run, hthrown]
  exact (Call.roll inv ⟨expr, false⟩).booked_run.symm

end

/-- **Watching a throw never changes it.**

An invocation of `roll` that asks for the steps ends as the one that does not, with the same books.
If the separator is a text, a finished throw is answered by the same public message, which is the
only one unless steps were asked for, and then the second after the steps; a mistake is answered by
the same ephemeral message, and steps are not sent. On any other separator nothing is sent, be the
limits what they may. Throws themselves, whether they come from a text or were put together by hand,
leave the same source behind as well.

The separator is the one that the answer is put together with, so it is the line feed wherever the
settings have nothing, or something that does not count as given. -/
theorem roll_watching (inv : Command.Invocation) (expr : String) :
    let loud := Command.act inv (.roll ⟨expr, true⟩)
    let quiet := Command.act inv (.roll ⟨expr, false⟩)
    loud.result = quiet.result ∧
    (∀ m : Metrics, m.book loud.events = m.book quiet.events) ∧
    (∀ settings, (Command.settingsOf inv).result = .ok settings →
      (∀ fault, separatorText (separatorOf (some settings)) = .error fault →
        loud.sent = [] ∧ quiet.sent = []) ∧
      ∀ separator limits, separatorText (separatorOf (some settings)) = .ok separator →
        Limits.ofAttributes (some settings) = .ok limits →
        let thrown := RollOptions.thrown ⟨expr, true⟩ limits (.seeded inv.entropy)
        let asked := RollOptions.asked ⟨expr, true⟩
        (∀ outcome, thrown.result = .ok outcome →
          let answer : Message := ⟨String.intercalate separator outcome.messages, false⟩
          loud.sent = [⟨String.intercalate separator thrown.steps, true⟩, answer] ∧
          quiet.sent = [answer]) ∧
        (∀ e, thrown.result = .error (.dice e) →
          let answer : Message :=
            ⟨String.intercalate separator (errorLines (.text asked) e), true⟩
          loud.sent = [answer] ∧ quiet.sent = [answer])) ∧
    (∀ (given : Datum) (limits : Limits) (s : Source),
      Alike (evaluateText true given limits s) (evaluateText false given limits s)) ∧
    (∀ (t : Throw) (s : Source), Alike (t.evaluate true s) (t.evaluate false s)) ∧
    (∀ (d : Draft) (s : Source), Alike (d.evaluate true s) (d.evaluate false s)) := by
  intro loud quiet
  refine ⟨result_act_watching inv expr, fun m => ?_, fun settings hsettings => ⟨?_, ?_⟩,
    fun given limits s => ?_, fun t s => ?_, fun d s => ?_⟩
  · rw [← m.book_booked, booked_act_watching, m.book_booked]
  · intro fault hfault
    exact ⟨Command.sent_act_roll_inseparable hsettings hfault _,
      Command.sent_act_roll_inseparable hsettings hfault _⟩
  · intro separator limits hseparator hlimits thrown asked
    have hloud := Command.sent_act_roll hsettings hlimits ⟨expr, true⟩
    have hquiet := Command.sent_act_roll hsettings hlimits ⟨expr, false⟩
    have hresult := result_thrown expr (.seeded inv.entropy) limits
    refine ⟨fun outcome houtcome => ?_, fun e he => ?_⟩
    · -- There is at least one step, so the steps are sent if they are asked for.
      rw [houtcome, (answerRoll_throw hseparator outcome).2] at hloud
      rw [← hresult, houtcome, (answerRoll_throw hseparator outcome).2] at hquiet
      have hsteps : thrown.steps.isEmpty = false := by
        rw [List.isEmpty_eq_false_iff]
        exact steps_ne_nil (.text asked) limits (.seeded inv.entropy)
      rw [hsteps] at hloud
      exact ⟨hloud, hquiet⟩
    · rw [he, (answerRoll_mistake hseparator e).2] at hloud
      rw [← hresult, he, (answerRoll_mistake hseparator e).2] at hquiet
      exact ⟨hloud, hquiet⟩
  · obtain ⟨hrun, hrest⟩ := unwatched_evaluateText true given limits s
    exact alike_of_unwatched hrun hrest
  · obtain ⟨hrun, hrest⟩ := t.unwatched_evaluate true s
    exact alike_of_unwatched hrun hrest
  · obtain ⟨hrun, hrest⟩ := d.unwatched_evaluate true s
    exact alike_of_unwatched hrun hrest

/-! ## Answers, with a separator and without

What an invocation throws with depends on its entropy, and a generator is not run here. Dice with
one side need no generator to be known: each of them shows it. -/

theorem faces_of_one_side {watched : Bool} {given : Datum} {limits : Limits} {s : Source}
    {o : Outcome} (hs : s.InUnit) (h : (evaluateText watched given limits s).1.result = .ok o)
    (hone : o.thrown.sides = 1) : o.faces = List.replicate o.thrown.dieCount 1 := by
  obtain ⟨-, hfaces, hstopped⟩ := parse_of_evaluateText watched s h
  rw [hfaces, List.eq_replicate_iff]
  refine ⟨length_rollDice hstopped, fun f hf => ?_⟩
  obtain ⟨hlow, hhigh⟩ := rollDice_mem o.thrown.sides_pos _ hs f hf
  rw [hone] at hhigh
  exact Int.le_antisymm hhigh hlow

/-- So a throw of such dice comes to the same end on every generator, which has draws for any number
of them. -/
theorem result_of_one_side (watched : Bool) {text : String} {limits : Limits} {t : Throw}
    (hread : (Throw.parse (.text text) limits).result = .ok t) (hone : t.sides = 1)
    (hwritten : (Text.write? ((t.dieCount * t.sides + t.modifier.value : Nat) : Int)).isSome)
    (seed : Int) :
    (evaluateText watched (.text text) limits (.seeded seed)).1.result =
      .ok (t.outcomeOf (List.replicate t.dieCount 1)) := by
  have hsides : (Number.Double.ofInt? t.sides).isSome := by
    rw [hone]
    rfl
  obtain ⟨draws, rest, hdraws, hunit⟩ :=
    Source.exists_take?_twister t.dieCount (Twister.seeded seed)
  obtain ⟨o, ho, -⟩ :=
    exists_outcome watched (s := .seeded seed) hread hsides hwritten hdraws hunit
  obtain ⟨hout, -⟩ := events_of_evaluateText watched hread ho
  have hthrown : o.thrown = t := by rw [hout]; rfl
  have hfair : (Source.seeded seed).InUnit := Source.IsFair.inUnit (s := .seeded seed) trivial
  have hfaces : o.faces = List.replicate t.dieCount 1 :=
    hthrown ▸ faces_of_one_side hfair ho (hthrown ▸ hone)
  rw [ho, hout, hfaces]

/-- A throw without a number of dice: both are told the same, and there are no steps. A throw of two
dice with one side: both are told what it comes to, and whoever asked for the steps is told them
first. -/
theorem roll_watching_answers :
    let inv : Command.Invocation :=
      ⟨.table [], some [("message_separator", .text " | ")], {}, .text "u1", 0⟩
    let mistake : Message := ⟨"Error throwing with d6 | Error was: d6 did not validate as a " ++
      "valid string for throwing, try something like \"3d10+2\"", true⟩
    let steps : Message := ⟨"Throwing dice from string 2d1 | " ++
      "Going to throw 2 dice with 1 sides each | Die 1 gave 1, total is now 1 | " ++
      "Die 2 gave 1, total is now 2 | Final result for throw 2d1: 2", true⟩
    let answer : Message :=
      ⟨"Die 1 gave 1 | Die 2 gave 1 | Final result for throw 2d1: 2", false⟩
    (Command.act inv (.roll ⟨"d6", true⟩)).sent = [mistake] ∧
    (Command.act inv (.roll ⟨"d6", false⟩)).sent = [mistake] ∧
    (Command.act inv (.roll ⟨"2d1", true⟩)).sent = [steps, answer] ∧
    (Command.act inv (.roll ⟨"2d1", false⟩)).sent = [answer] := by
  intro inv mistake steps answer
  have hmistake : (RollOptions.thrown ⟨"d6", true⟩ {} (.seeded inv.entropy)).result =
      .error (.dice (.invalidNotation (.text "d6") none)) := by
    refine RollOptions.result_thrown_of_parse_error ?_ (.seeded inv.entropy)
    rw [RollOptions.asked_of_ne (by decide)]
    rfl
  obtain ⟨-, -, hrefused, -⟩ := roll_watching inv "d6"
  obtain ⟨hloud, hquiet⟩ := ((hrefused _ rfl).2 " | " {} rfl rfl).2 _ hmistake
  refine ⟨hloud, hquiet, ?_⟩
  let t : Throw := ⟨2, 1, .none, "2d1", by decide, by decide⟩
  have hread : (Throw.parse (.text "2d1") {}).result = .ok t :=
    eq_ok_of_toOption (by decide +kernel)
  have hdone : (evaluateText true (.text "2d1") {} (.seeded inv.entropy)).1.result =
      .ok (t.outcomeOf [1, 1]) :=
    result_of_one_side true hread rfl (by decide +kernel) inv.entropy
  obtain ⟨hsteps, -⟩ := told_of_evaluateText true hread hdone
  have hthrown : RollOptions.thrown ⟨"2d1", true⟩ {} (.seeded inv.entropy) =
      (evaluateText true (.text "2d1") {} (.seeded inv.entropy)).1 := by
    rw [RollOptions.thrown, RollOptions.asked_of_ne (by decide)]
  obtain ⟨-, -, hfinished, -⟩ := roll_watching inv "2d1"
  obtain ⟨hloud, hquiet⟩ := ((hfinished _ rfl).2 " | " {} rfl rfl).1 _ (by rw [hthrown, hdone])
  have hanswer : String.intercalate " | " (t.outcomeOf [1, 1]).messages = answer.content := by
    decide +kernel
  have htold : String.intercalate " | "
      (RollOptions.thrown ⟨"2d1", true⟩ {} (.seeded inv.entropy)).steps = steps.content := by
    rw [hthrown]
    exact (congrArg _ hsteps).trans (by decide +kernel)
  rw [hloud, hquiet, hanswer, htold]
  exact ⟨rfl, rfl⟩

/-- A separator that is a number: the throw is refused, and nothing explains why. -/
theorem roll_watching_inseparable :
    let inv : Command.Invocation :=
      ⟨.table [], some [("message_separator", .int 5)], {}, .text "u1", 0⟩
    (RollOptions.thrown ⟨"x", true⟩ {} (.seeded inv.entropy)).result =
      .error (.dice (.invalidNotation (.text "x") none)) ∧
    (Command.act inv (.roll ⟨"x", true⟩)).sent = [] ∧
    (Command.act inv (.roll ⟨"x", false⟩)).sent = [] ∧
    (Command.act inv (.roll ⟨"x", true⟩)).result = .error (.notText "message_separator") := by
  intro inv
  have hread : (Throw.parse (.text (RollOptions.asked ⟨"x", true⟩)) {}).result =
      .error (.dice (.invalidNotation (.text "x") none)) := by
    rw [RollOptions.asked_of_ne (by decide)]
    rfl
  have hthrown : (RollOptions.thrown ⟨"x", true⟩ {} (.seeded inv.entropy)).result =
      .error (.dice (.invalidNotation (.text "x") none)) :=
    RollOptions.result_thrown_of_parse_error hread (.seeded inv.entropy)
  have hlimits : Limits.ofAttributes (some [("message_separator", .int 5)]) = .ok {} := rfl
  refine ⟨hthrown, Command.sent_act_roll_inseparable rfl rfl _,
    Command.sent_act_roll_inseparable rfl rfl _, ?_⟩
  rw [(Command.act_roll rfl _).1, result_roll hlimits,
    (answerRoll_inseparable rfl _).1, hthrown]

end Dicebox
