import Dicebox.Run
import Dicebox.Throw.Limits

/-!
# What a throw takes from settings

Commands work with a table of settings by name, of which they use what they know. The limits of a
throw are three of them, each read as an integer (`Datum.toInteger`). The separator, which is put
between the lines of a message, is another; one that does not count as given is a line break.

A separator may be of any kind until something is put together with it. Then it has to be a text.
-/

set_option autoImplicit false

namespace Dicebox

/-- Settings by name, as far as they are there. -/
abbrev Attributes := List (String × Datum)

namespace Limits

/-- One of the limits: what the settings have under its name, read as an integer, or its default. -/
def limitIn (settings : Attributes) (name : String) (default : Datum) : Except Fault Datum :=
  match settings.lookup name with
  | none => .ok default
  | some d => (d.toInteger.mapError .notInteger).map .int

/-- The limits that settings give; without settings, the default ones. -/
def ofAttributes : Option Attributes → Except Fault Limits
  | none => .ok {}
  | some settings => do
    return {
      maxDice := ← limitIn settings "dice_max_count" ({} : Limits).maxDice
      maxSides := ← limitIn settings "dice_max_sides" ({} : Limits).maxSides
      maxModifier := ← limitIn settings "dice_max_modifier" ({} : Limits).maxModifier }

end Limits

/-- The separator between lines unless settings give another. -/
def defaultSeparator : String := "\n"

/-- The separator that settings give. -/
def separatorOf (settings : Option Attributes) : Datum :=
  match settings.bind (·.lookup "message_separator") with
  | some d => if d.isGiven then d else .text defaultSeparator
  | none => .text defaultSeparator

/-- What a separator puts between lines. -/
def separatorText : Datum → Except Fault String
  | .text s => .ok s
  | _ => .error (.notText "message_separator")

/-- Lines put together with a separator. -/
def joinLines (separator : Datum) (lines : List String) : Except Fault String := do
  return String.intercalate (← separatorText separator) lines

/-- The lines that tell of a mistake. One that says nothing is unknown. -/
def errorLines (expr : Datum) (e : DiceError) : List String :=
  ["Error throwing with " ++ expr.display,
    "Error was: " ++ (if e.statement.isGiven then e.message else "unknown")]

end Dicebox
