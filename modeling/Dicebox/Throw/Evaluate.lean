import Dicebox.Throw.Parse
import Dicebox.Throw.Roll
import Dicebox.Throw.Steps

/-!
# Throwing

`Throw.evaluate` throws the dice of a `Throw`: it announces it, rolls the dice on a source, applies
the modifier and sums up. `evaluateText` does so for a text, and keeps account of it: a text that is
no throw is counted under the kind of its mistake, a finished throw under its success. A throw that
breaks off in between, for whatever other reason, is not counted at all.

Being watched is a parameter and adds events only; the faces, the total, the source that remains and
the books do not depend on it.
-/

set_option autoImplicit false

namespace Dicebox

/-- The result of a finished throw. -/
structure Outcome where
  total : Int
  faces : List Int
  messages : List String
  thrown : Throw
  deriving Repr, DecidableEq

namespace Outcome

/-- The messages as one text. -/
def render (o : Outcome) (separator : String) : String :=
  String.intercalate separator o.messages

end Outcome

/-- What is told of dice that were rolled: the announcement, the dice, and, unless something stopped
them, what comes after. -/
def tell {α : Type} (opening : List Event) (dice : List Int → List Event)
    (ending : List Int → Run α) (rolls : Rolls) : Run α := do
  Run.emit opening
  Run.emit (dice rolls.faces)
  match rolls.stopped with
  | some fault => .fail fault
  | none => ending rolls.faces

namespace Throw

/-- What follows the dice of a throw once all of them have been rolled. -/
def finish (t : Throw) (watched : Bool) (faces : List Int) : Run Outcome :=
  let total := t.totalOf faces
  match Text.write? total with
  | none => .fail .numeralTooLong
  | some written =>
    { events := t.finalEvents watched total written
      result := .ok ⟨total, faces, t.messages faces written, t⟩ }

/-- Throws the dice on a source, and gives the source that remains. -/
def evaluate (watched : Bool) (t : Throw) (s : Source) : Run Outcome × Source :=
  match t.announcement? with
  | none => (.fail .numeralTooLong, s)
  | some announcement =>
    let opening := stepEvents (.text t.label) watched announcement []
    let rolls := rollDice t.sides t.dieCount s
    (tell opening (t.diceEvents watched) (t.finish watched) rolls, rolls.rest)

end Throw

/-! ## From a text -/

/-- The first events of a throw from a text. -/
def openingEvents (watched : Bool) (given : Datum) : List Event :=
  .logged (.debug "rules.dice.evaluate.start" [("notation", given)]) ::
    (if watched then [.shown ("Throwing dice from string " ++ given.display)] else [])

/-- The account of a mistake in the text of a throw. -/
def failureEvents (given : Datum) (e : DiceError) : List Event :=
  [.counted ("dice.evaluate.error." ++ e.kind),
    .logged (.info "rules.dice.evaluate.failed"
      [("notation", given), ("kind", .text e.kind), ("error", .text e.message)])]

/-- The account of a finished throw. -/
def successEvents (given : Datum) (o : Outcome) : List Event :=
  [.counted "dice.evaluate.ok",
    .logged (.debug "rules.dice.evaluate.result" [("notation", given), ("total", .int o.total),
      ("rolls", .list (o.faces.map .int))])]

/-- The account of a throw from a text that has ended. -/
def accountEvents (given : Datum) : Except Fault Outcome → List Event
  | .error (.dice e) => failureEvents given e
  | .error _ => []
  | .ok o => successEvents given o

/-- Reads a text and throws it on a source. -/
def readAndThrow (watched : Bool) (given : Datum) (limits : Limits) (s : Source) :
    Run Outcome × Source :=
  let reading := Throw.parse given limits
  match reading.result with
  | .error fault => (⟨reading.events, .error fault⟩, s)
  | .ok t =>
    let (run, rest) := t.evaluate watched s
    (⟨reading.events ++ run.events, run.result⟩, rest)

/-- Throws the dice that a text asks for, and keeps account of it. -/
def evaluateText (watched : Bool) (given : Datum) (limits : Limits) (s : Source) :
    Run Outcome × Source :=
  let (run, rest) := readAndThrow watched given limits s
  (⟨openingEvents watched given ++ run.events ++ accountEvents given run.result, run.result⟩, rest)

/-- What comes of a text for which there is no source to throw on: it is read, and that is where it
ends, with the given fault if not with a mistake. -/
def evaluateTextWithout (why : Fault) (watched : Bool) (given : Datum) (limits : Limits) :
    Run Outcome :=
  let reading := Throw.parse given limits
  let result : Except Fault Outcome := reading.result.bind fun _ => .error why
  ⟨openingEvents watched given ++ reading.events ++ accountEvents given result, result⟩

end Dicebox
