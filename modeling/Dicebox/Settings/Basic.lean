import Dicebox.Settings.Reading
import Dicebox.Text.Uppercase

/-!
# Settings

Thirteen settings, each with a name, a type and a default. The names are those under which they are
found in the environment, and the order of `Setting.all` is that of the names, in which complaints
are listed.

`Settings.read` turns thirteen data into settings or says which of them it cannot read. The three
settings that name a log level are kept in upper case.
-/

set_option autoImplicit false

namespace Dicebox

/-- One of the settings. -/
inductive Setting
  | diceMaxCount
  | diceMaxModifier
  | diceMaxSides
  | env
  | loggingBackupCount
  | loggingConsole
  | loggingEnabled
  | loggingFile
  | loggingFilePath
  | loggingLevel
  | loggingMaxBytes
  | messageSeparator
  | randomnessDefaultExpr
  deriving Repr, DecidableEq

namespace Setting

/-- All settings, by name. -/
def all : List Setting :=
  [diceMaxCount, diceMaxModifier, diceMaxSides, env, loggingBackupCount, loggingConsole,
    loggingEnabled, loggingFile, loggingFilePath, loggingLevel, loggingMaxBytes, messageSeparator,
    randomnessDefaultExpr]

theorem mem_all (s : Setting) : s ∈ all := by cases s <;> decide

/-- All settings, in the order in which sources list them. -/
def listed : List Setting :=
  [env, diceMaxCount, diceMaxSides, diceMaxModifier, messageSeparator, randomnessDefaultExpr,
    loggingEnabled, loggingLevel, loggingConsole, loggingFile, loggingFilePath, loggingMaxBytes,
    loggingBackupCount]

theorem mem_listed (s : Setting) : s ∈ listed := by cases s <;> decide

def name : Setting → String
  | diceMaxCount => "dice_max_count"
  | diceMaxModifier => "dice_max_modifier"
  | diceMaxSides => "dice_max_sides"
  | env => "env"
  | loggingBackupCount => "logging_backup_count"
  | loggingConsole => "logging_console"
  | loggingEnabled => "logging_enabled"
  | loggingFile => "logging_file"
  | loggingFilePath => "logging_file_path"
  | loggingLevel => "logging_level"
  | loggingMaxBytes => "logging_max_bytes"
  | messageSeparator => "message_separator"
  | randomnessDefaultExpr => "randomness_default_expr"

/-- No two settings have the same name. -/
theorem name_injective (s t : Setting) (h : s.name = t.name) : s = t := by
  cases s <;> cases t <;> first | rfl | simp [name] at h

/-- The setting of a name. -/
def ofName? (name : String) : Option Setting := all.find? (·.name == name)

/-- What a setting is if nothing defines it. -/
def default : Setting → Datum
  | diceMaxCount => .int 100000
  | diceMaxModifier => .int 1000000
  | diceMaxSides => .int 100000
  | env => .text "dev"
  | loggingBackupCount => .int 5
  | loggingConsole => .text "INFO"
  | loggingEnabled => .bool true
  | loggingFile => .text "NONE"
  | loggingFilePath => .text "logs/rpgdice.jsonl"
  | loggingLevel => .text "INFO"
  | loggingMaxBytes => .int 5000000
  | messageSeparator => .text "\n"
  | randomnessDefaultExpr => .text "10000d10"

/-- A text in upper case. -/
def readLevel (d : Datum) : Except Complaint String := do
  return Text.upper (← Reading.text d)

/-- Reads a setting; what was read is a datum of the setting's type. -/
def read (s : Setting) (d : Datum) : Except Complaint Datum :=
  match s with
  | diceMaxCount | diceMaxSides => do return .int (← Reading.integerFrom 1 d)
  | diceMaxModifier => do return .int (← Reading.integerFrom 0 d)
  | loggingBackupCount | loggingMaxBytes => do return .int (← Reading.integer d)
  | loggingEnabled => do return .bool (← Reading.boolean d)
  | loggingConsole | loggingFile | loggingLevel => do return .text (← readLevel d)
  | env | loggingFilePath | messageSeparator | randomnessDefaultExpr => do
    return .text (← Reading.text d)

end Setting

/-- Values for all settings. -/
structure Settings where
  env : String
  diceMaxCount : Int
  diceMaxSides : Int
  diceMaxModifier : Int
  messageSeparator : String
  randomnessDefaultExpr : String
  loggingEnabled : Bool
  loggingLevel : String
  loggingConsole : String
  loggingFile : String
  loggingFilePath : String
  loggingMaxBytes : Int
  loggingBackupCount : Int
  deriving Repr, DecidableEq

namespace Settings

/-- The value of a setting. -/
def get (s : Settings) : Setting → Datum
  | .diceMaxCount => .int s.diceMaxCount
  | .diceMaxModifier => .int s.diceMaxModifier
  | .diceMaxSides => .int s.diceMaxSides
  | .env => .text s.env
  | .loggingBackupCount => .int s.loggingBackupCount
  | .loggingConsole => .text s.loggingConsole
  | .loggingEnabled => .bool s.loggingEnabled
  | .loggingFile => .text s.loggingFile
  | .loggingFilePath => .text s.loggingFilePath
  | .loggingLevel => .text s.loggingLevel
  | .loggingMaxBytes => .int s.loggingMaxBytes
  | .messageSeparator => .text s.messageSeparator
  | .randomnessDefaultExpr => .text s.randomnessDefaultExpr

/-- The settings by name. -/
def attributes (s : Settings) : List (String × Datum) :=
  Setting.all.map fun setting => (setting.name, s.get setting)

/-- Reads all settings; if some cannot be read, all complaints. -/
def read (raw : Setting → Datum) : Except Fault Settings :=
  Reading.collect (Setting.all.map fun s => Reading.complaint? s.name (s.read (raw s))) do
    return {
      env := ← Reading.text (raw .env)
      diceMaxCount := ← Reading.integerFrom 1 (raw .diceMaxCount)
      diceMaxSides := ← Reading.integerFrom 1 (raw .diceMaxSides)
      diceMaxModifier := ← Reading.integerFrom 0 (raw .diceMaxModifier)
      messageSeparator := ← Reading.text (raw .messageSeparator)
      randomnessDefaultExpr := ← Reading.text (raw .randomnessDefaultExpr)
      loggingEnabled := ← Reading.boolean (raw .loggingEnabled)
      loggingLevel := ← Setting.readLevel (raw .loggingLevel)
      loggingConsole := ← Setting.readLevel (raw .loggingConsole)
      loggingFile := ← Setting.readLevel (raw .loggingFile)
      loggingFilePath := ← Reading.text (raw .loggingFilePath)
      loggingMaxBytes := ← Reading.integer (raw .loggingMaxBytes)
      loggingBackupCount := ← Reading.integer (raw .loggingBackupCount) }

end Settings

end Dicebox
