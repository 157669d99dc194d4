import Dicebox.Command.Attributes
import Dicebox.Command.Options
import Dicebox.Report

/-!
# The two commands

`roll` throws dice and answers with the messages of the throw, or, if asked, first with all its
steps. `randomness` throws many dice and answers with a report. A mistake in the throw is answered
with an ephemeral message that explains it. Every other fault ends the command unanswered.

Each command keeps a counter of its own beside those of the throw: one for answers, and one for each
kind of mistake.
-/

set_option autoImplicit false

namespace Dicebox

/-- Sends a message. -/
def send (content : String) (ephemeral : Bool) : Run Unit :=
  .emit [.sent ⟨content, ephemeral⟩]

/-- Answers a mistake in a throw. -/
def sendMistake (separator : Datum) (expr : Datum) (e : DiceError) : Run Unit := do
  send (← .ofExcept (joinLines separator (errorLines expr e))) true

/-! ## Rolling -/

/-- The throw that is made if none is asked for. -/
def defaultRollText : String := "1d20"

/-- What `roll` does with a throw that has ended. -/
def answerRoll (o : RollOptions) (separator : Datum) (expr : String) (userId : Datum)
    (steps : List String) : Except Fault Outcome → Run Unit
  | .error (.dice e) => do
    .emit [.counted ("roll.error." ++ e.kind),
      .logged (.info "command.roll.rejected"
        [("expr", .text expr), ("kind", .text e.kind), ("user_id", userId)])]
    sendMistake separator (.text expr) e
  | .error fault => .fail fault
  | .ok outcome => do
    .emit [.counted "roll.ok"]
    if o.verbose && !steps.isEmpty then
      send (← .ofExcept (joinLines separator steps)) true
    send (← .ofExcept (joinLines separator outcome.messages)) false
    .emit [.logged (.info "command.roll.sent"
      [("expr", .text expr), ("total", .int outcome.total),
        ("dice", .int outcome.faces.length), ("user_id", userId)])]

/-- The command `roll`. -/
def roll (o : RollOptions) (settings : Attributes) (userId : Datum) (s : Source) : Run Unit := do
  let expr := if o.expr = "" then defaultRollText else o.expr
  let limits ← .ofExcept (Limits.ofAttributes (some settings))
  let thrown := (evaluateText o.verbose (.text expr) limits s).1
  .emit thrown.events
  answerRoll o (separatorOf (some settings)) expr userId thrown.steps thrown.result

/-! ## Reporting -/

/-- The throw to report on: what was asked for, or what the settings say, or the default. -/
def reportExpr (o : RandomnessOptions) (settings : Attributes) : Datum :=
  match o.expr, settings.lookup "randomness_default_expr" with
  | some expr, fallback =>
    if expr ≠ "" then .text expr
    else match fallback with
      | some d => if d.isGiven then d else .text defaultReportText
      | none => .text defaultReportText
  | none, some d => if d.isGiven then d else .text defaultReportText
  | none, none => .text defaultReportText

/-- What `randomness` does with a report. -/
def answerRandomness (separator expr : Datum) : Except Fault Report → Run Unit
  | .error (.dice e) => do
    .emit [.counted ("randomness.error." ++ e.kind)]
    sendMistake separator expr e
  | .error fault => .fail fault
  | .ok report => do
    .emit [.counted "randomness.ok"]
    send (← .ofExcept (separatorText separator >>= report.render)) false

/-- The command `randomness`. A seed makes its own source. -/
def randomness (o : RandomnessOptions) (settings : Attributes) (s : Source) : Run Unit := do
  let expr := reportExpr o settings
  let limits ← .ofExcept (Limits.ofAttributes (some settings))
  let reported := (reportText expr limits ((o.seed.map Source.seeded).getD s)).1
  .emit reported.events
  answerRandomness (separatorOf (some settings)) expr reported.result

end Dicebox
