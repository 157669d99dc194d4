import Dicebox.Run
import Dicebox.Throw.Grammar
import Dicebox.Throw.Limits

/-!
# Reading a throw

A throw is asked for with a text such as `3d10 + 2`. Reading it goes through four gates, and the
first that is shut decides what is wrong: it has to be a text; without its blanks it has to have the
grammar of `Throw.Blocks`; its numbers have to be within the limits, dice before sides before
modifier; and it has to be a throw at all (`Throw.make`), which zero dice or zero sides are not.

Only a text that fails the grammar, and one that is read, leave a log record.
-/

set_option autoImplicit false

namespace Dicebox.Throw

/-- A mistake that says the text is no throw, without a further reason. -/
def notAThrow (given : Datum) : Fault := .dice (.invalidNotation given none)

/-- The numbers of well-formed blocks as a throw, if they are within the limits. -/
def ofBlocks (b : Blocks) (limits : Limits) (label : String) : Except Fault Throw := do
  let dieCount ← Limits.bounded .dice b.dice limits.maxDice
  let sides ← Limits.bounded .sides b.sides limits.maxSides
  let (sign, value) ← match b.modifier with
    | none => .ok (Sign.none, 0)
    | some (sign, digits) => do
      let value ← Limits.bounded .modifier digits limits.maxModifier
      .ok (sign, value)
  (make dieCount sides sign value label).mapError .dice

/-- The text in which a throw is looked for. Only a text has one. -/
def normalize : Datum → Except Fault String
  | .text text => .ok (String.ofList (Text.dropBlanks text.toList))
  | _ => .error (.notText "text")

/-- Reads a text as a throw. -/
def read (text : String) (limits : Limits) : Except Fault Throw :=
  match Blocks.read? (Text.dropBlanks text.toList) with
  | none => .error (notAThrow (.text text))
  | some b => ofBlocks b limits text

/-- The record of a text that is no throw. -/
def rejectedRecord (text : String) : Log.Record :=
  .debug "rules.notation.rejected" [("notation", .text text)]

/-- The record of a text that was read. -/
def parsedRecord (t : Throw) : Log.Record :=
  .debug "rules.notation.parsed" [("notation", .text t.label), ("die_count", .int t.dieCount),
    ("sides", .int t.sides), ("modifier", .int t.modifier.amount)]

/-- Reads a datum as a throw, and keeps a record. -/
def parse (given : Datum) (limits : Limits) : Run Throw :=
  match given with
  | .text text =>
    match Blocks.read? (Text.dropBlanks text.toList) with
    | none => ⟨[.logged (rejectedRecord text)], .error (notAThrow given)⟩
    | some b =>
      match ofBlocks b limits text with
      | .ok t => ⟨[.logged (parsedRecord t)], .ok t⟩
      | .error e => ⟨[], .error e⟩
  | _ => ⟨[], .error (.dice (.invalidNotation given (some .notText)))⟩

/-- On a text, the value of `parse` is that of `read`. -/
theorem parse_text_result (text : String) (limits : Limits) :
    (parse (.text text) limits).result = read text limits := by
  simp only [parse, read]
  split
  · rfl
  · split <;> simp_all

end Dicebox.Throw
