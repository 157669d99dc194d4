import Dicebox.Log.Record
import Dicebox.Log.Path

/-!
# Setting up the log

Records are written by handlers: one to the console, one to a file, each with a threshold of its own
and either of them switched off by the name `NONE`. A record is written by a handler if it reaches
both the root threshold and the handler's.

Thresholds are given by name, in any case. An unknown name for the root threshold means `INFO`; for
a handler it means the root threshold. Two names that are no levels at all are nevertheless taken
for one and spoil the setup.

`written` says which of the records of a run end up in the log file.
-/

set_option autoImplicit false

namespace Dicebox.Log

/-! ## Thresholds -/

/-- What an upper case name stands for. -/
inductive Named
  | severity (s : Severity)
  /-- The name of a text. -/
  | text (name : String)
  /-- The name of a table. -/
  | table (name : String)
  | unknown
  deriving Repr, DecidableEq

/-- What a name, in any case, stands for. -/
def lookUp (name : String) : Named :=
  let upper := Text.upper name
  match Severity.ofName? upper with
  | some s => .severity s
  | none =>
    if upper = "BASIC_FORMAT" then .text upper
    else if upper = "_STYLES" then .table upper
    else .unknown

/-- A name as a threshold, unknown ones being replaced. -/
def Named.orElse (n fallback : Named) : Named :=
  match n with
  | .unknown => fallback
  | n => n

/-- The threshold that a name stands for, if it is one. -/
def Named.threshold : Named → Except Fault Severity
  | .severity s => .ok s
  | .text name => .error (.levelIsText name)
  | .table name => .error (.levelIsTable name)
  | .unknown => .ok .info

/-- The name under which a handler is switched off. -/
def offName : String := "NONE"

/-! ## Handlers -/

/-- Something that writes records, with its threshold. -/
inductive Handler
  | console (threshold : Severity)
  /-- A file that is replaced when it has reached a size, a number of old ones being kept. -/
  | file (threshold : Severity) (location : Location) (maxBytes backupCount : Datum)
  /-- Writes nothing. -/
  | silent
  deriving Inhabited

/-- The root threshold and the handlers. -/
structure Setup where
  root : Severity
  handlers : List Handler
  deriving Inhabited

/-! ## Settings -/

/-- The value of a setting that has to be there. -/
def required (settings : List (String × Datum)) (name : String) : Except Fault Datum :=
  match settings.lookup name with
  | some d => .ok d
  | none => .error (.missingSetting name)

/-- The name of a handler's threshold: none if it is switched off. A setting that does not count as
given is an empty name. -/
def handlerName (settings : List (String × Datum)) (name : String) :
    Except Fault (Option String) := do
  match ← required settings name with
  | .text s => return if Text.upper s = offName then none else some s
  | d => if d.isGiven then .error (.notText name) else return some ""

/-- The handler that writes to the console, if it is switched on. -/
def consoleHandler (settings : List (String × Datum)) (root : Named) :
    Except Fault (List Handler) := do
  match ← handlerName settings "logging_console" with
  | none => return []
  | some name => return [.console (← ((lookUp name).orElse root).threshold)]

/-- Whether a datum can be compared with a number of bytes. -/
def isAmount : Datum → Bool
  | .int _ | .bool _ | .float _ => true
  | .null | .text _ | .list _ | .table _ => false

/-- A fault, if there is one. -/
def refuse (fault? : Option Fault) : Except Fault Unit :=
  match fault? with
  | some fault => .error fault
  | none => .ok ()

/-- The handler that writes to a file, if it is switched on. -/
def fileHandler (settings : List (String × Datum)) (root : Named) :
    Except Fault (List Handler) := do
  match ← handlerName settings "logging_file" with
  | none => return []
  | some name =>
    match ← required settings "logging_file_path" with
    | .text path =>
      refuse (directoryFault? path)
      let maxBytes ← required settings "logging_max_bytes"
      let backupCount ← required settings "logging_backup_count"
      if !isAmount maxBytes then .error (.notAmount "logging_max_bytes")
      refuse (fileFault? path)
      let threshold ← ((lookUp name).orElse root).threshold
      return [.file threshold (.ofPath path) maxBytes backupCount]
    | _ => .error (.notPath "logging_file_path")

/-- The setup that settings ask for. Without settings there is a console and no file. -/
def setUp : Option (List (String × Datum)) → Except Fault Setup
  | none => .ok ⟨.info, [.console .info]⟩
  | some settings => do
    match ← required settings "logging_level" with
    | .text name =>
      let root := lookUp name
      let handlers ← if (← required settings "logging_enabled").isGiven then do
          let console ← consoleHandler settings root
          let file ← fileHandler settings root
          pure (console ++ file)
        else pure []
      let threshold ← root.threshold
      return ⟨threshold, if handlers.isEmpty then [.silent] else handlers⟩
    | _ => .error (.notText "logging_level")

namespace Setup

/-- The paths of the log files in the working directory. -/
def files (s : Setup) : List String :=
  s.handlers.filterMap fun
    | .file _ location _ _ => if location.isInside then some location.text else none
    | .console _ | .silent => none

/-- The threshold of the log file, if there is one. -/
def fileThreshold? (s : Setup) : Option Severity :=
  s.handlers.findSome? fun
    | .file threshold _ _ _ => some threshold
    | .console _ | .silent => none

/-- The records that end up in the log file, if there is one. -/
def written (s : Setup) (records : List Record) : Option (List Record) :=
  s.fileThreshold?.map fun threshold =>
    records.filter fun r => r.reaches s.root && r.reaches threshold

end Setup

end Dicebox.Log
