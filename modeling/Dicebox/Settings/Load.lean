import Dicebox.Settings.Arguments
import Dicebox.Settings.Files

/-!
# Where settings come from

Each setting is taken from the first layer that defines it. In order: arguments, values given
outright, the variables of dotenv files, the environment, the configuration file, files with
secrets, and the default. There are arguments and secrets only where directions name them.

A configuration file, once it exists, defines every setting: for a key that it leaves out it falls
back on values of its own. Its two levels for the console and the log file may also be switched on
and off with truth values; switched on, or left out, they are the overall level.

Names are compared without regard to case. Of several spellings of one name, the first counts among
values given outright, and the last in the environment and in a dotenv file. Values given outright
may come with directions for the search (`Directions`), which change how variables are found.

Files are read before anything else is looked at. What cannot be understood in them is told to the
log, and so are all layers if the environment asks for it, so loading settings is a `Run`.
-/

set_option autoImplicit false

namespace Dicebox

/-! ## Values given outright -/

/-- The value given for a setting. -/
def givenFor? (values : List (String × Datum)) (s : Setting) : Option Datum :=
  (values.find? fun v => Text.lower v.1 == s.name).map Prod.snd

/-- Values given outright: first those for settings, then those that nobody asks for. Directions are
left out. -/
def givenLayer (title : String) (values : List (String × Datum)) : Layer :=
  let others := values.filter fun v =>
    (Setting.ofName? (Text.lower v.1)).isNone && !Directions.names.contains v.1
  let settings := Layer.ofSettings title Setting.listed (givenFor? values)
  { settings with entries := settings.entries ++ others }

/-! ## The configuration file -/

/-- A section of the configuration. One that is left out, or that is empty in any way, is an empty
table. -/
def section? (content : List (String × Datum)) (name : String) :
    Except Fault (List (String × Datum)) :=
  match content.lookup name with
  | none => .ok []
  | some (.table entries) => .ok entries
  | some d => if d.isGiven then .error (.notTable name) else .ok []

/-- The section that has to be a table if it is there at all. -/
def tableSection? (content : List (String × Datum)) (name : String) :
    Except Fault (List (String × Datum)) :=
  match content.lookup name with
  | none => .ok []
  | some (.table entries) => .ok entries
  | some _ => .error (.notTable name)

/-- The level of one of the two outputs: a text in upper case, `"NONE"` if it is switched off, and
the overall level otherwise. -/
def outputLevel (overall : String) : Option Datum → Datum
  | some (.text s) => .text (Text.upper s)
  | some (.bool false) => .text "NONE"
  | _ => .text overall

/-- The key of a setting within its section of the configuration, and what it is without one. -/
def configKey : Setting → String × Datum
  | .env => ("env", .text "dev")
  | .diceMaxCount => ("max_count", .int 100000)
  | .diceMaxSides => ("max_sides", .int 100000)
  | .diceMaxModifier => ("max_modifier", .int 1000000)
  | .messageSeparator => ("message_separator", .text "\n")
  | .randomnessDefaultExpr => ("randomness_expr", .text "10000d10")
  | .loggingEnabled => ("enabled", .bool true)
  | .loggingLevel => ("level", .text "INFO")
  | .loggingConsole => ("console", .null)
  | .loggingFile => ("to_file", .null)
  | .loggingFilePath => ("file_path", .text "logs/rpgdice.jsonl")
  | .loggingMaxBytes => ("max_bytes", .int 5000000)
  | .loggingBackupCount => ("backup_count", .int 5)

/-- What a configuration with the given sections says about a setting. -/
def configValue (app dice logging : List (String × Datum)) (s : Setting) : Datum :=
  let entry (entries : List (String × Datum)) (s : Setting) : Datum :=
    (entries.lookup (configKey s).1).getD (configKey s).2
  match s with
  | .env => entry app s
  | .diceMaxCount | .diceMaxSides | .diceMaxModifier | .messageSeparator
  | .randomnessDefaultExpr => entry dice s
  | .loggingConsole | .loggingFile =>
    outputLevel (Text.upper (entry logging .loggingLevel).display)
      (logging.lookup (configKey s).1)
  | _ => entry logging s

/-- The settings in the order in which a configuration is looked through. -/
def configOrder : List Setting :=
  [.env, .diceMaxCount, .diceMaxSides, .diceMaxModifier, .messageSeparator, .randomnessDefaultExpr,
    .loggingEnabled, .loggingLevel, .loggingFilePath, .loggingMaxBytes, .loggingBackupCount,
    .loggingConsole, .loggingFile]

/-- The layer of a configuration file, which defines all thirteen settings. -/
def configLayer (title : String) (content : List (String × Datum)) : Except Fault Layer := do
  let dice ← section? content "dice"
  let logging ← section? content "logging"
  let app ← tableSection? content "app"
  return .ofSettings title configOrder fun s => some (configValue app dice logging s)

/-! ## All layers -/

/-- The titles of the layers in the log. -/
structure Titles where
  arguments : String := "CliSettingsSource"
  given : String := "InitSettingsSource"
  dotenv : String := "DotEnvSettingsSource"
  environment : String := "EnvSettingsSource"
  config : String := "_toml_settings_source"
  secrets : String := "SecretsSettingsSource"
  default : String := "DefaultSettingsSource"

/-- All layers in words. -/
def tellLayers (layers : List Layer) : String :=
  let told (l : Layer) := "\n  " ++ l.title ++ ": " ++ (Datum.table l.entries).display
  "Resolving settings for 'Settings' (sources in priority order, highest first):" ++
    String.join (layers.map told)

/-- The name of the direction that brings all sources along. -/
def sourcesName : String := "_build_sources"

/-- Sources that are brought along have to come with the values for them. No data are sources, but
there may be none at all. -/
def checkSources (d : Datum) : Except Fault Unit := do
  let (sources, _) ← d.pair
  if sources.isGiven then .error (.notDirection sourcesName)

namespace Place

/-- The layers of a place in their order, found as directed. -/
def search (p : Place) (given : List (String × Datum)) : Run (List Layer) := do
  let titles : Titles := {}
  .ofExcept (Directions.check given)
  let files ← Directions.readFiles p given
  let arguments ← .ofExcept (Arguments.layerOf titles.arguments given)
  let d ← .ofExcept (Directions.ofGiven given)
  let config ← .ofExcept (p.configFile.elim (.ok ⟨titles.config, []⟩) (configLayer titles.config))
  let secrets ← .ofExcept (Directions.secretsOf p given)
  let environment := Variables.collect d (p.environment.map fun v => (v.1, some v.2))
  let layers := arguments.toList ++
    [givenLayer titles.given given,
      Variables.dotenvLayer titles.dotenv d (Variables.collectAll d files),
      Variables.layer titles.environment d environment, config,
      Directions.secretLayer titles.secrets d secrets, ⟨titles.default, []⟩]
  Directions.tell p (tellLayers layers)
  return layers

/-- The layers of a place in their order, with some values given outright. -/
def layers (p : Place) (given : List (String × Datum)) : Run (List Layer) := do
  .ofExcept (Directions.checkNames given)
  match Directions.find? given sourcesName with
  | some d =>
    .ofExcept (checkSources d)
    return []
  | none => p.search given

end Place

namespace Settings

/-- The settings of a place, with some values given outright. -/
def load (p : Place) (given : List (String × Datum)) : Run Settings := do
  let layers ← p.layers given
  .ofExcept (read (winner layers))

end Settings

end Dicebox
