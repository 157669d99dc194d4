import Dicebox.Datum.Arithmetic
import Dicebox.Throw.Evaluate

/-!
# Throws put together by hand

A throw need not come from a text. A `Draft` is one whose figures were handed over one by one, by
someone who may have used data of any kind; only the sign is known to be one. It is checked as a
throw is (`Draft.check`), in the same order, except that a figure which compares with no number is a
fault of its own kind.

Where all figures are integers and the label is a text, a draft that passes the check is a throw
(`Draft.throw?`). Other drafts can be thrown as well, as far as that goes: truth values count as
zero and one, a modifier may be a fraction, and then so is the total; but nobody can count out two
and a half dice, and a die with such a number of sides is refused when it is rolled.
-/

set_option autoImplicit false

namespace Dicebox

-- Sums of numbers start at core's own zero, whatever else is imported.
attribute [local instance (high)] Zero.ofOfNat0

/-- A throw put together by hand. -/
structure Draft where
  dieCount : Datum
  sides : Datum
  sign : Sign := .none
  value : Datum := .int 0
  label : Datum := .text ""
  deriving Inhabited

/-- The draft of a throw. -/
def Throw.toDraft (t : Throw) : Draft :=
  ⟨.int t.dieCount, .int t.sides, t.modifier.sign, .int t.modifier.value, .text t.label⟩

namespace Draft

/-- What the modifier adds to the sum. -/
def modifier (d : Draft) : Datum :=
  match d.sign with
  | .minus => d.value.negate
  | .none | .plus => d.value

/-- Whether there is a modifier, be it zero. -/
def hasModifier (d : Draft) : Bool := d.sign != .none

/-! ## Checking -/

/-- The first thing that is wrong with a draft, if there is one. -/
def objection? (d : Draft) : Except Fault (Option Objection) := do
  if ← d.dieCount.isBelow (.int 1) then return some .noDice
  if ← d.sides.isBelow (.int 1) then return some .noSides
  if ← d.value.isBelow (.int 0) then return some .negativeModifier
  if d.sign == .none && d.value.isGiven then return some .unsignedModifier
  return none

/-- The draft, unless something is wrong with it. -/
def check (d : Draft) : Except Fault Draft := do
  match ← d.objection? with
  | some objection => .error (.dice (.invalidNotation d.label (some objection)))
  | none => return d

/-- The throw that a draft of integers amounts to. -/
def throw? (d : Draft) : Option Throw :=
  match d with
  | ⟨.int dieCount, .int sides, sign, .int value, .text label⟩ =>
    (Throw.make dieCount sides sign value label).toOption
  | _ => none

/-- The draft of a throw is that throw. -/
theorem throw?_toDraft (t : Throw) : t.toDraft.throw? = some t := by
  obtain ⟨n, s, m, label, hn, hs⟩ := t
  cases m with
  | none => simp [Throw.toDraft, throw?, Modifier.sign, Modifier.value,
      Throw.make_none n s label hn hs, Except.toOption]
  | plus v => simp [Throw.toDraft, throw?, Modifier.sign, Modifier.value,
      Throw.make_plus n s v label hn hs, Except.toOption]
  | minus v => simp [Throw.toDraft, throw?, Modifier.sign, Modifier.value,
      Throw.make_minus n s v label hn hs, Except.toOption]

/-! ## Throwing -/

/-- The result of a draft that was thrown. -/
structure Thrown where
  total : Datum
  faces : List Int
  messages : List String
  draft : Draft
  deriving Inhabited

namespace Thrown

/-- The result of a throw. -/
def ofOutcome (o : Outcome) : Thrown := ⟨.int o.total, o.faces, o.messages, o.thrown.toDraft⟩

end Thrown

/-- How many dice a draft counts out. Only whole numbers can be counted to. -/
def count (d : Draft) : Except Fault Nat :=
  match d.dieCount with
  | .int n => .ok n.toNat
  | .bool b => .ok (if b then 1 else 0)
  | other => .error (.uncountable other.kind)

/-- Rolls the dice of a draft. A die with an impossible number of sides is refused before a draw is
taken for it. -/
def roll (d : Draft) (s : Source) : Rolls :=
  match d.count with
  | .error fault => ⟨[], some fault, s⟩
  | .ok count =>
    match sides? d.sides with
    | some sides => rollDice sides count s
    | none => ⟨[], if count = 0 then none else some (.dice (.invalidSides d.sides)), s⟩

/-- The sum of the faces with the modifier. -/
def totalOf (d : Draft) (faces : List Int) : Except Fault Datum :=
  if d.hasModifier then (Datum.int faces.sum).add d.modifier else .ok (.int faces.sum)

/-- What follows the dice of a draft once all of them have been rolled. A total too long to be
written ends the throw. -/
def finish (d : Draft) (watched : Bool) (faces : List Int) : Run Thrown :=
  match d.totalOf faces with
  | .error fault => .fail fault
  | .ok total =>
    match total.write? with
    | none => .fail .numeralTooLong
    | some written =>
      let summary := summarize d.label.display written
      let value := d.value.display
      { events := closingEvents d.label d.dieCount watched (d.sign.steps value written) summary
          total
        result := .ok ⟨total, faces, messagesOf faces d.sign value summary, d⟩ }

/-- Throws a draft on a source, and gives the source that remains. -/
def evaluate (watched : Bool) (d : Draft) (s : Source) : Run Thrown × Source :=
  let announcement :=
    announce d.dieCount.display d.sides.display (d.sign.announcement d.value.display)
  let rolls := d.roll s
  (tell (stepEvents d.label watched announcement [])
    (fun faces => (dieLines faces).flatMap (dieEvents d.label d.sides watched)) (d.finish watched)
    rolls, rolls.rest)

end Draft

end Dicebox
