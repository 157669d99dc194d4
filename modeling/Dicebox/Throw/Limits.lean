import Dicebox.Datum.Arithmetic
import Dicebox.Datum.Items
import Dicebox.Throw.Basic

/-!
# Limits — how much one throw may ask for

Limits keep a careless or hostile text from asking for work without end. They are compared with a
digit block before it is converted: a block with more digits than its limit has characters is over
it for certain, and is reported by its digits.

`bounded` is that comparison. `boundedPlainly` says what it is for, converting first and comparing
afterwards.

The limits of a configuration are integers (`Limits.ofIntegers`). A caller who brings limits of his
own may bring anything (`Limits.ofDatum`); a limit is only found to be of the wrong kind when a
number has to be compared with it.
-/

set_option autoImplicit false

namespace Dicebox

/-- The most dice, sides and modifier that one throw may ask for. -/
structure Limits where
  maxDice : Datum := .int 100000
  maxSides : Datum := .int 100000
  maxModifier : Datum := .int 1000000
  deriving Inhabited

namespace Limits

/-- Limits that are integers. -/
def ofIntegers (maxDice maxSides maxModifier : Int) : Limits :=
  ⟨.int maxDice, .int maxSides, .int maxModifier⟩

/-- The names of the limits. -/
def fieldNames : List String := ["max_dice", "max_sides", "max_modifier"]

/-- The limits that a datum gives by their names, the others being the default ones. Null gives
none. -/
def ofDatum : Datum → Except Fault Limits
  | .null => .ok {}
  | d => do
    let given ← d.fields
    if let some (name, _) := given.find? fun e => !fieldNames.contains e.1 then
      .error (.unknownField name)
    let base : Limits := {}
    return {
      maxDice := (given.lookup "max_dice").getD base.maxDice
      maxSides := (given.lookup "max_sides").getD base.maxSides
      maxModifier := (given.lookup "max_modifier").getD base.maxModifier }

/-- The significant digits of a block, if they are not more than a written limit has characters.
Only digits that pass here are ever converted. -/
def convertible? (digits : List Char) (written : String) : Option (List Char) :=
  let kept := Text.significant digits
  if written.length < kept.length then none else some kept

/-- The value of a digit block, unless it is above the limit. A block of more significant digits
than the written limit has characters is not converted. -/
def bounded (quantity : Quantity) (digits : List Char) (limit : Datum) : Except Fault Nat :=
  match limit.write? with
  | none => .error .numeralTooLong
  | some written =>
    match convertible? digits written with
    | none =>
      let found := Datum.text (String.ofList (Text.significant digits))
      .error (.dice (.limitExceeded quantity found limit))
    | some kept =>
      match Text.readDigits kept with
      | .error _ => .error .numeralTooLong
      | .ok n =>
        match limit.isBelow (.int n) with
        | .error fault => .error fault
        | .ok true => .error (.dice (.limitExceeded quantity (.int n) limit))
        | .ok false => .ok n

/-- The value of a digit block, or that it is above the limit. -/
def boundedPlainly (digits : List Char) (limit : Int) : Option Nat :=
  let n := Nat.ofDigitChars 10 digits 0
  if limit < n then none else some n

end Limits

end Dicebox
