import Dicebox.Run
import Dicebox.Throw.Basic

/-!
# What a throw says

A throw says the same thing three times, at different length. Its **messages** are part of its
outcome: one for each die, one for the modifier, and the summary. Its **steps** are for whoever
watches: an announcement, then one step for each message, which also gives the running total. Its
**records** go to the log: one for each step, and one more for each roll of a die.

The dice are told by `dieLines`, which numbers the faces and adds them up on the way.
`dieLines_concat` is its rule: a further die has the next number, and the sum so far plus its face.

Numbers are written by `Text.write?`, which refuses numbers of more than `Text.maxDigits` digits. A
throw whose numbers cannot be written breaks off at the step that would show them.

The wording does not depend on where the numbers come from, so it is kept apart from `Throw`, in
terms of texts and data (`announce`, `summarize`, `stepEvents`, `dieEvents`).
-/

set_option autoImplicit false

namespace Dicebox

-- The sum of a list starts from core's own zero, whatever else is imported.
attribute [local instance (high)] Zero.ofOfNat0

/-! ## The dice, one by one -/

/-- A rolled die: its number, its face, and the sum of all faces up to it. -/
structure DieLine where
  number : Nat
  face : Int
  total : Int
  deriving Repr, DecidableEq

namespace DieLine

def message (l : DieLine) : String :=
  "Die " ++ toString l.number ++ " gave " ++ toString l.face

def step (l : DieLine) : String :=
  l.message ++ ", total is now " ++ toString l.total

end DieLine

/-- The lines so far, last one first, and a further die. -/
def addDie (lines : List DieLine) (face : Int) : List DieLine :=
  match lines with
  | [] => [⟨1, face, face⟩]
  | last :: _ => ⟨last.number + 1, face, last.total + face⟩ :: lines

/-- The faces as lines: numbered from one, each with the sum so far. -/
def dieLines (faces : List Int) : List DieLine := (faces.foldl addDie []).reverse

@[simp] theorem dieLines_nil : dieLines [] = [] := rfl

/-- The last of the lines, kept in reverse, has the number of faces and their sum. -/
theorem exists_foldl_addDie (faces : List Int) (last : DieLine) (lines : List DieLine) :
    ∃ face others, faces.foldl addDie (last :: lines) =
      ⟨last.number + faces.length, face, last.total + faces.sum⟩ :: others := by
  induction faces generalizing last lines with
  | nil => exact ⟨last.face, lines, by simp⟩
  | cons face faces ih =>
    obtain ⟨f, others, h⟩ := ih ⟨last.number + 1, face, last.total + face⟩ (last :: lines)
    refine ⟨f, others, ?_⟩
    rw [List.foldl_cons, addDie, h]
    simp only [List.length_cons, List.sum_cons]
    congr 2 <;> omega

/-- A further die has the next number, and the sum so far plus its face. -/
theorem dieLines_concat (faces : List Int) (face : Int) :
    dieLines (faces ++ [face]) =
      dieLines faces ++ [⟨faces.length + 1, face, faces.sum + face⟩] := by
  simp only [dieLines, List.foldl_append, List.foldl_cons, List.foldl_nil]
  cases faces with
  | nil => simp [addDie]
  | cons first faces =>
    obtain ⟨f, others, h⟩ := exists_foldl_addDie faces ⟨1, first, first⟩ []
    rw [List.foldl_cons, addDie, h]
    simp only [addDie, List.reverse_cons, List.length_cons, List.sum_cons]
    congr 3
    omega

/-! ## The wording -/

/-- The announcement of dice, sides and a modifier in writing. -/
def announce (dice sides extra : String) : String :=
  "Going to throw " ++ dice ++ " dice with " ++ sides ++ " sides each" ++ extra

/-- The summary of a throw of which the label and the total are written as given. -/
def summarize (label total : String) : String :=
  "Final result for throw " ++ label ++ ": " ++ total

namespace Sign

/-- What the announcement adds for a modifier in writing. -/
def announcement (value : String) : Sign → String
  | .none => ""
  | .plus => " and then doing +" ++ value
  | .minus => " and then doing -" ++ value

/-- The message of a modifier in writing. -/
def messages (value : String) : Sign → List String
  | .none => []
  | .plus => ["Adding " ++ value]
  | .minus => ["Subtracting " ++ value]

/-- The step of a modifier in writing, after which the total is written as given. -/
def steps (value total : String) : Sign → List String
  | .none => []
  | .plus => ["Added " ++ value ++ ", total is now " ++ total]
  | .minus => ["Subtracted " ++ value ++ ", total is now " ++ total]

end Sign

/-- All messages of a finished throw. -/
def messagesOf (faces : List Int) (sign : Sign) (value summary : String) : List String :=
  (dieLines faces).map DieLine.message ++ sign.messages value ++ [summary]

/-! ## The events -/

/-- A step with its record, and with the values that the record adds. -/
def stepEvents (label : Datum) (watched : Bool) (line : String) (values : List (String × Datum)) :
    List Event :=
  .logged (.debug "rules.dice.evaluate.step"
    ([("notation", label), ("detail", .text line)] ++ values)) ::
    (if watched then [.shown line] else [])

/-- The roll of a die, and the step that tells of it. -/
def dieEvents (label sides : Datum) (watched : Bool) (l : DieLine) : List Event :=
  .logged (.debug "rules.dice.roll" [("sides", sides), ("result", .int l.face)]) ::
    stepEvents label watched l.step [("die", .int l.number), ("result", .int l.face)]

/-- The histogram of the numbers of dice. -/
def dieCountHistogram : String := "dice.evaluate.die_count"

/-- The end of a throw: the step of the modifier, the summary with the total, and the entry in the
books. -/
def closingEvents (label dieCount : Datum) (watched : Bool) (modifierSteps : List String)
    (summary : String) (total : Datum) : List Event :=
  modifierSteps.flatMap (stepEvents label watched · []) ++
    stepEvents label watched summary [("total", total)] ++
    [.observed dieCountHistogram dieCount]

/-! ## The wording and the events of a throw -/

namespace Throw

/-- The announcement of a throw; `none` if one of its numbers is too long to be written. -/
def announcement? (t : Throw) : Option String := do
  let value ← Text.write? t.modifier.value
  let dice ← Text.write? t.dieCount
  let sides ← Text.write? t.sides
  return announce dice sides (t.modifier.sign.announcement value)

/-- The sum of the faces with the modifier. -/
def totalOf (t : Throw) (faces : List Int) : Int := faces.sum + t.modifier.amount

/-- The summary of a throw whose total is written as given. -/
def summary (t : Throw) (total : String) : String := summarize t.label total

/-- All messages of a finished throw. -/
def messages (t : Throw) (faces : List Int) (total : String) : List String :=
  messagesOf faces t.modifier.sign (toString t.modifier.value) (t.summary total)

/-- The events of the dice of a throw. -/
def diceEvents (t : Throw) (watched : Bool) (faces : List Int) : List Event :=
  (dieLines faces).flatMap (dieEvents (.text t.label) (.int t.sides) watched)

/-- The events after the dice of a throw. -/
def finalEvents (t : Throw) (watched : Bool) (total : Int) (written : String) : List Event :=
  closingEvents (.text t.label) (.int t.dieCount) watched
    (t.modifier.sign.steps (toString t.modifier.value) written) (t.summary written) (.int total)

end Throw

end Dicebox
