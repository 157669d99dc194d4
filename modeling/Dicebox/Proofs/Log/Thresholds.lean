import Dicebox.Proofs.Log.Hearing
import Dicebox.Proofs.Settings.Defaults
import Dicebox.Proofs.Text.Uppercase

/-!
# Thresholds filter, and do nothing else

A request can be made with its records kept in a log file, and settings say which records these are.
The names of the two thresholds are read in any case. Whatever they are,

> **the file has the records of the same request at `DEBUG` that reach both thresholds, and all else
> is the same** (`thresholds_filter`).

What is done does not depend on the log at all, so this is about which thresholds the settings come
to (`setUp_fileLog`). A name that is unknown stands for `INFO` as the root threshold, and as that of
the file for the root threshold; `NONE` is unknown as the one, and means no file as the other.

Two names that are no levels are taken for some, and spoil the log. They are left out
(`IsLevelName`).
-/

set_option autoImplicit false

namespace Dicebox

/-! ## Names of levels

A name is put into upper case once when settings are read, and again when it is looked up. The
second time has nothing to do, and this is the only thing that has to be known about upper case. -/

namespace Log

/-- Whether a name is not one of those that are taken for levels by mistake. -/
def IsLevelName (name : String) : Prop :=
  Text.upper name ≠ "BASIC_FORMAT" ∧ Text.upper name ≠ "_STYLES"

instance (name : String) : Decidable (IsLevelName name) := inferInstanceAs (Decidable (_ ∧ _))

/-- The root threshold that a name stands for. -/
def rootThreshold (level : String) : Severity := (Severity.ofName? (Text.upper level)).getD .info

/-- The threshold of the log file that a name stands for beside that of the root, if there is to be
a file. -/
def fileThreshold? (level file : String) (enabled : Bool) : Option Severity :=
  if enabled = false ∨ Text.upper file = offName then none
  else some ((Severity.ofName? (Text.upper file)).getD (rootThreshold level))

theorem lookUp_upper {name : String} (h : IsLevelName name) :
    lookUp (Text.upper name) = (Severity.ofName? (Text.upper name)).elim .unknown .severity := by
  rw [lookUp, Text.upper_upper]
  cases Severity.ofName? (Text.upper name) with
  | some severity => rfl
  | none =>
    dsimp only
    rw [if_neg h.1, if_neg h.2]
    rfl

theorem threshold_lookUp {level : String} (h : IsLevelName level) :
    (lookUp (Text.upper level)).threshold = .ok (rootThreshold level) := by
  rw [lookUp_upper h, rootThreshold]
  cases Severity.ofName? (Text.upper level) <;> rfl

theorem unknown_orElse (fallback : Named) : Named.unknown.orElse fallback = fallback := rfl

/-- An unknown name for the file falls back to the root threshold as it was looked up, and that may
be unknown in its turn. -/
theorem threshold_orElse {level file : String} (hlevel : IsLevelName level)
    (hfile : IsLevelName file) :
    ((lookUp (Text.upper file)).orElse (lookUp (Text.upper level))).threshold =
      .ok ((Severity.ofName? (Text.upper file)).getD (rootThreshold level)) := by
  rw [lookUp_upper hfile]
  cases Severity.ofName? (Text.upper file) with
  | some severity => rfl
  | none =>
    rw [Option.elim_none, unknown_orElse, Option.getD_none]
    exact threshold_lookUp hlevel

theorem fileThreshold?_eq_none {level file : String} {enabled : Bool} :
    fileThreshold? level file enabled = none ↔ enabled = false ∨ Text.upper file = offName := by
  rw [fileThreshold?]
  split
  · next hoff => exact iff_of_true rfl hoff
  · next hon => exact iff_of_false (Option.some_ne_none _) hon

theorem Record.reaches_higher (r : Record) (a b : Severity) :
    r.reaches (a.higher b) = (r.reaches a && r.reaches b) := by
  rw [reaches, reaches, reaches, Severity.rank_higher, ← Bool.decide_and]
  exact decide_eq_decide.mpr Nat.max_le

/-- What is written is what reaches the higher of both thresholds. A record is dropped by the root
or by the file, and which of them it was can no longer be told from the file. -/
theorem Setup.written_eq (s : Setup) (records : List Record) :
    s.written records =
      s.fileThreshold?.map fun t => records.filter (·.reaches (s.root.higher t)) := by
  simp only [written, Record.reaches_higher]

end Log

/-! ## Settings that are given by their names

The settings of a log are given outright, in a place with no file and no variable. So the search has
nothing to search, and each of them is what is given or else its default. -/

/-- Some settings with their values, as values given outright. -/
def givenSettings (values : List (Setting × Datum)) : List (String × Datum) :=
  values.map fun v => (v.1.name, v.2)

theorem givenFor?_givenSettings (values : List (Setting × Datum)) (s : Setting) :
    givenFor? (givenSettings values) s = values.lookup s := by
  induction values with
  | nil => rfl
  | cons v rest ih =>
    have hname : (Text.lower v.1.name == s.name) = (s == v.1) := by
      rw [Setting.lower_name, Bool.eq_iff_iff, beq_iff_eq, beq_iff_eq]
      exact ⟨fun h => (Setting.name_injective _ _ h).symm, fun h => by rw [h]⟩
    rw [givenFor?] at ih
    rw [givenFor?, givenSettings, List.map_cons, List.find?_cons, hname, List.lookup_cons]
    cases s == v.1 with
    | true => rfl
    | false => exact ih

theorem undirected_givenSettings (values : List (Setting × Datum)) :
    Undirected (givenSettings values) := by
  have hnames : ∀ name ∈ Directions.forbiddenName :: Directions.names,
      ∀ s ∈ Setting.all, name ≠ s.name := by decide +kernel
  intro name hname
  refine List.lookup_eq_none_iff.mpr fun e he => ?_
  obtain ⟨v, -, rfl⟩ := List.mem_map.mp he
  exact bne_iff_ne.mpr (hnames name hname v.1 v.1.mem_all)

theorem Place.raw_givenSettings (values : List (Setting × Datum)) (s : Setting) :
    ({} : Place).raw (givenSettings values) s = (values.lookup s).getD s.default := by
  have hgiven : ({} : Place).valueFrom (givenSettings values) .given s = values.lookup s :=
    givenFor?_givenSettings values s
  rw [raw, Origin.all, List.findSome?_cons, hgiven]
  cases values.lookup s with
  | some value => rfl
  | none => rfl

/-! ## The settings of a log that goes to a file

From here to `setUp_fileLog` the log is set up once, with the two names and the switch left open.
Everything else is as it is by default, and the default path is worked out: the directory is there
or can be made, and there is no directory in the place of the file. -/

/-- All settings as they are by default, but for the log: it goes to a file, if it is on. -/
def Settings.ofFileLog (level file : String) (enabled : Bool) : Settings :=
  { defaults with
    loggingLevel := Text.upper level
    loggingFile := Text.upper file
    loggingConsole := Log.offName
    loggingEnabled := enabled }

namespace Session

open Log

variable {level file : String} {enabled : Datum} {on : Bool}

/-- The settings of a log that goes to a file only, so that nothing is written but what can be read
back from that file. -/
def fileLogSettings (level file enabled : Datum) : List (Setting × Datum) :=
  [(.loggingLevel, level), (.loggingFile, file), (.loggingConsole, .text offName),
    (.loggingEnabled, enabled)]

theorem fileLog_eq (level file enabled : Datum) :
    fileLog level file enabled = .given (givenSettings (fileLogSettings level file enabled)) := rfl

theorem result_load_fileLog (henabled : Reading.boolean enabled = .ok on) :
    (Settings.load {} (givenSettings (fileLogSettings (.text level) (.text file) enabled))).result =
      .ok (.ofFileLog level file on) := by
  have hconfig : ∀ content ∈ ({} : Place).configFile, HasSections content := fun _ h => nomatch h
  rw [Settings.result_load (undirected_givenSettings _) hconfig, Settings.read_eq_ok_iff]
  intro s
  rw [Place.raw_givenSettings]
  cases s with
  | loggingEnabled =>
    show (do return .bool (← Reading.boolean enabled) : Except Complaint Datum) = _
    rw [henabled]
    rfl
  | _ => rfl

theorem attributes_fileLog (henabled : Reading.boolean enabled = .ok on) :
    (fileLog (.text level) (.text file) enabled).attributes =
      .ok (some (Settings.ofFileLog level file on).attributes) := by
  rw [fileLog_eq, LogSettings.attributes, result_load_fileLog henabled]
  rfl

end Session

namespace Log

theorem required_attributes (s : Settings) (setting : Setting) :
    required s.attributes setting.name = .ok (s.get setting) := by
  cases setting <;> rfl

theorem handlerName_attributes (s : Settings) (setting : Setting) {name : String}
    (h : s.get setting = .text name) : handlerName s.attributes setting.name =
      .ok (if Text.upper name = offName then none else some name) := by
  rw [handlerName, required_attributes, h]
  rfl

variable {level file : String} {on : Bool}

theorem upper_offName : Text.upper offName = offName := by decide +kernel

theorem consoleHandler_ofFileLog (root : Named) :
    consoleHandler (Settings.ofFileLog level file on).attributes root = .ok [] := by
  have hconsole : (Settings.ofFileLog level file on).get .loggingConsole = .text offName := rfl
  have hname := handlerName_attributes _ _ hconsole
  rw [if_pos upper_offName] at hname
  rw [consoleHandler, show "logging_console" = Setting.loggingConsole.name from rfl, hname]
  rfl

/-- Where the file is by default. -/
def defaultPath : String := "logs/rpgdice.jsonl"

theorem parts_defaultPath : Location.parts defaultPath = ["logs", "rpgdice.jsonl"] := by
  rw [defaultPath, Location.parts, String.splitOn, if_neg (by decide)]
  -- The fifth character is a slash, and so is none of the thirteen behind it.
  iterate 4 rw [String.splitOnAux, if_neg (by decide +kernel), if_neg (by decide +kernel)]
  rw [String.splitOnAux, if_neg (by decide +kernel), if_pos (by decide +kernel)]
  dsimp only
  rw [if_pos (by decide +kernel)]
  iterate 13 rw [String.splitOnAux, if_neg (by decide +kernel), if_neg (by decide +kernel)]
  rw [String.splitOnAux, if_pos (by decide +kernel)]
  decide +kernel

theorem directoryFault?_defaultPath : directoryFault? defaultPath = none := by
  rw [directoryFault?, depthFault?, missing, parts_defaultPath]
  decide +kernel

theorem fileFault?_defaultPath : fileFault? defaultPath = none := by
  simp only [fileFault?, isDirectory, directories, Location.ofPath, parts_defaultPath]
  decide +kernel

theorem fileHandler_ofFileLog (hlevel : IsLevelName level) (hfile : IsLevelName file) :
    fileHandler (Settings.ofFileLog level file on).attributes (lookUp (Text.upper level)) =
      .ok (if Text.upper file = offName then [] else
        [.file ((Severity.ofName? (Text.upper file)).getD (rootThreshold level))
          (.ofPath defaultPath) (.int 5000000) (.int 5)]) := by
  have hget : (Settings.ofFileLog level file on).get .loggingFile = .text (Text.upper file) := rfl
  have hname := handlerName_attributes _ _ hget
  rw [Text.upper_upper] at hname
  rw [fileHandler, show "logging_file" = Setting.loggingFile.name from rfl, hname]
  -- Switched off is not unknown: it is asked about before the name is looked up.
  by_cases hoff : Text.upper file = offName
  · rw [if_pos hoff, if_pos hoff]
    rfl
  rw [if_neg hoff, if_neg hoff]
  have hpath : required (Settings.ofFileLog level file on).attributes "logging_file_path" =
      .ok (.text defaultPath) := required_attributes _ .loggingFilePath
  have hbytes : required (Settings.ofFileLog level file on).attributes "logging_max_bytes" =
      .ok (.int 5000000) := required_attributes _ .loggingMaxBytes
  have hbackups : required (Settings.ofFileLog level file on).attributes "logging_backup_count" =
      .ok (.int 5) := required_attributes _ .loggingBackupCount
  simp only [bind, Except.bind, hpath, hbytes, hbackups, directoryFault?_defaultPath,
    fileFault?_defaultPath, refuse, isAmount, threshold_orElse hlevel hfile]
  rfl

theorem files_defaultPath (root threshold : Severity) (maxBytes backupCount : Datum) :
    (Setup.mk root [.file threshold (.ofPath defaultPath) maxBytes backupCount]).files =
      [defaultPath] := by
  have hlocation : Location.ofPath defaultPath = ⟨0, ["logs", "rpgdice.jsonl"]⟩ := by
    rw [Location.ofPath, parts_defaultPath]
    decide +kernel
  have htext : Location.text ⟨0, ["logs", "rpgdice.jsonl"]⟩ = defaultPath := by decide +kernel
  rw [hlocation, ← htext]
  rfl

/-- What a log that goes to a file comes to. It can be set up with any two names of levels, known or
unknown, and then there are two thresholds to filter by, or one and no file. -/
theorem setUp_fileLog {enabled : Datum} (hlevel : IsLevelName level) (hfile : IsLevelName file)
    (henabled : Reading.boolean enabled = .ok on) :
    ∃ setup, (Session.fileLog (.text level) (.text file) enabled).setUp = .ok setup ∧
      setup.root = rootThreshold level ∧ setup.fileThreshold? = fileThreshold? level file on ∧
      setup.files = (fileThreshold? level file on).elim [] fun _ => [defaultPath] := by
  have hroot : required (Settings.ofFileLog level file on).attributes "logging_level" =
      .ok (.text (Text.upper level)) := required_attributes _ .loggingLevel
  have hon : required (Settings.ofFileLog level file on).attributes "logging_enabled" =
      .ok (.bool on) := required_attributes _ .loggingEnabled
  rw [Session.LogSettings.setUp, Session.attributes_fileLog henabled]
  simp only [bind, Except.bind, setUp, hroot, hon, threshold_lookUp hlevel]
  cases on with
  | false => exact ⟨_, rfl, rfl, rfl, rfl⟩
  | true =>
    simp only [Datum.isGiven, if_true, consoleHandler_ofFileLog,
      fileHandler_ofFileLog hlevel hfile]
    refine ⟨_, rfl, rfl, ?_⟩
    by_cases hoff : Text.upper file = offName
    · have hnone : fileThreshold? level file true = none := if_pos (.inr hoff)
      rw [if_pos hoff, hnone]
      exact ⟨rfl, rfl⟩
    · have hon' : ¬ (true = false ∨ Text.upper file = offName) :=
        not_or_intro Bool.false_ne_true.symm hoff
      have hsome : fileThreshold? level file true = _ := if_neg hon'
      rw [if_neg hoff, hsome]
      exact ⟨rfl, files_defaultPath _ _ _ _⟩

end Log

/-! ## Requests

A log at `DEBUG` is one of those that are set up here. That its file is complete is the content of
`Session.reachDebug_perform`: two filters at the lowest threshold that anything is written at. -/

namespace Session

open Log

theorem perform_logged {setup : Setup} {level file enabled : Datum} {action : Request}
    (hsetUp : (fileLog level file enabled).setUp = .ok setup) (haction : action.fault? = none)
    (s : State) : (perform (.logged level file enabled action) s).reply =
        .logged (perform action s).reply (setup.written (perform action s).records) ∧
      (perform (.logged level file enabled action) s).state = (perform action s).state := by
  rw [perform, hsetUp, haction]
  exact ⟨rfl, rfl⟩

/-- With both thresholds at `DEBUG`, the file has all records. -/
theorem perform_logged_debug {action : Request} (haction : action.fault? = none) (s : State) :
    (perform (.logged (.text "DEBUG") (.text "DEBUG") (.bool true) action) s).reply =
      .logged (perform action s).reply (some (perform action s).records) := by
  have hname : IsLevelName "DEBUG" := by decide +kernel
  have hroot : rootThreshold "DEBUG" = .debug := by decide +kernel
  have hthreshold : fileThreshold? "DEBUG" "DEBUG" true = some .debug := by decide +kernel
  have henabled : Reading.boolean (.bool true) = .ok true := rfl
  obtain ⟨setup, hsetUp, hsetUpRoot, hsetUpThreshold, -⟩ := setUp_fileLog hname hname henabled
  rw [(perform_logged hsetUp haction s).1, Setup.written_eq, hsetUpRoot, hsetUpThreshold, hroot,
    hthreshold]
  exact congrArg (Reply.logged _ ∘ some) (List.filter_eq_self.mpr (reachDebug_perform action s))

/-- **Thresholds filter, and do nothing else.** Whatever names are given for the two thresholds and
whatever is done, the file is there unless it is switched off, and has those records of the same
action at `DEBUG` that reach both thresholds. What is replied and what is left behind is the same as
without a log. -/
theorem thresholds_filter {level file : String} {enabled : Datum} {on : Bool} {action : Request}
    (hlevel : IsLevelName level) (hfile : IsLevelName file)
    (henabled : Reading.boolean enabled = .ok on) (haction : action.fault? = none) (s : State) :
    (∃ setup, (fileLog (.text level) (.text file) enabled).setUp = .ok setup ∧
      setup.root = (Severity.ofName? (Text.upper level)).getD .info ∧
      (setup.files = [] ↔ on = false ∨ Text.upper file = "NONE") ∧
      setup.fileThreshold? = fileThreshold? level file on) ∧
    ∃ records,
      (perform (.logged (.text "DEBUG") (.text "DEBUG") (.bool true) action) s).reply =
        .logged (perform action s).reply (some records) ∧
      (perform (.logged (.text level) (.text file) enabled action) s).reply =
        .logged (perform action s).reply ((fileThreshold? level file on).map fun threshold =>
          records.filter (·.reaches ((rootThreshold level).higher threshold))) ∧
      (perform (.logged (.text level) (.text file) enabled action) s).state =
        (perform action s).state := by
  obtain ⟨setup, hsetUp, hroot, hthreshold, hfiles⟩ := setUp_fileLog hlevel hfile henabled
  have hlogged := perform_logged hsetUp haction s
  refine ⟨⟨setup, hsetUp, hroot, ?_, hthreshold⟩, _, perform_logged_debug haction s, ?_, hlogged.2⟩
  · -- The file is there exactly if it has a threshold.
    rw [← offName, ← fileThreshold?_eq_none, hfiles]
    cases fileThreshold? level file on with
    | none => exact iff_of_true rfl rfl
    | some threshold => exact iff_of_false (List.cons_ne_nil _ _) (Option.some_ne_none _)
  · rw [hlogged.1, Setup.written_eq, hthreshold, hroot]

/-- Of the records of a throw that fails, a file with an unknown threshold has what the root
threshold lets through. -/
theorem thresholds_filter_info :
    let action : Request :=
      .single (.throwText (some (.text "six")) .null { source := .scripted [] })
    IsLevelName "info" ∧ IsLevelName "Quiet" ∧ Reading.boolean (.text "yes") = .ok true ∧
    ∃ records,
      (perform (.logged (.text "info") (.text "Quiet") (.text "yes") action) {}).reply =
        .logged (perform action {}).reply (some records) ∧
      records.map (·.event) = ["rules.dice.evaluate.failed"] ∧
      (perform action {}).records.map (·.event) =
        ["rules.dice.evaluate.start", "rules.notation.rejected", "rules.dice.evaluate.failed"] := by
  intro action
  have hlevel : IsLevelName "info" := by decide +kernel
  have hfile : IsLevelName "Quiet" := by decide +kernel
  have henabled : Reading.boolean (.text "yes") = .ok true := by decide +kernel
  have hroot : rootThreshold "info" = .info := by decide +kernel
  have hthreshold : fileThreshold? "info" "Quiet" true = some .info := by decide +kernel
  obtain ⟨-, records, hall, hreply, -⟩ :=
    @thresholds_filter _ _ _ _ action hlevel hfile henabled rfl {}
  rw [perform_logged_debug rfl] at hall
  obtain rfl : (perform action {}).records = records := by
    injection hall with _ hrecords
    exact Option.some.inj hrecords
  rw [hthreshold, hroot] at hreply
  exact ⟨hlevel, hfile, henabled, _, hreply, by decide +kernel, by decide +kernel⟩

end Session

end Dicebox
