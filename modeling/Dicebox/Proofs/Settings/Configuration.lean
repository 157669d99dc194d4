import Dicebox.Settings.Load

/-!
# What a configuration file says

The file is a table with three tables in it, and each setting has a key of its own in one of them.
What the file says about a setting is `configured`:

> **the entry under the setting's own key, or the setting's default; except for the two outputs,
> which are told in levels.**

The default of an output in this sense is the overall level of the same file, whatever other sources
say about that level. So there is no setting that an existing file leaves open (`configLayer_eq`).

Nothing is said of a file whose sections are no tables; such a file may end the search.
-/

set_option autoImplicit false

namespace Dicebox

/-- The section of a configuration in which a setting has its key. -/
def Setting.heading : Setting → String
  | .env => "app"
  | .diceMaxCount | .diceMaxSides | .diceMaxModifier | .messageSeparator
  | .randomnessDefaultExpr => "dice"
  | _ => "logging"

/-- Whether a setting is the level of the console or of the log file. -/
def Setting.isOutput : Setting → Bool
  | .loggingConsole | .loggingFile => true
  | _ => false

/-- The sections of a configuration are tables where they are there at all.

Two of the three are treated with more patience than this, since an empty list or a zero passes for
an empty table there. Such a file is not worth a second case in every statement about settings. -/
def HasSections (content : List (String × Datum)) : Prop :=
  ∀ name ∈ ["app", "dice", "logging"], ∀ d, content.lookup name = some d →
    ∃ entries, d = .table entries

theorem hasSections_of_tables {content : List (String × Datum)}
    (h : ∀ e ∈ content, ∃ entries, e.2 = .table entries) : HasSections content := by
  intro name _ d hd
  obtain ⟨above, below, hcontent, -⟩ := List.lookup_eq_some_iff.1 hd
  obtain ⟨entries, hentries⟩ := h (name, d) (by rw [hcontent]; simp)
  exact ⟨entries, hentries⟩

/-- The entries of a section. One that is left out has none, and so has one that is no table, which
is of no account where `HasSections` is assumed. -/
def sectionEntries (content : List (String × Datum)) (name : String) : List (String × Datum) :=
  match content.lookup name with
  | some (.table entries) => entries
  | _ => []

/-- What stands under the key of a setting. -/
def ownValue? (content : List (String × Datum)) (s : Setting) : Option Datum :=
  (sectionEntries content s.heading).lookup (configKey s).1

/-- The overall level in upper case. -/
def overallLevel (content : List (String × Datum)) : String :=
  Text.upper ((ownValue? content .loggingLevel).getD Setting.loggingLevel.default).display

/-- What a configuration says about a setting.

It is written without the three sections and without the order in which they are looked through, so
that what is said about one setting depends on its own key, and for an output on the key of the
overall level besides. -/
def configured (content : List (String × Datum)) (s : Setting) : Datum :=
  if s.isOutput then
    match ownValue? content s with
    | some (.text level) => .text (Text.upper level)
    | some (.bool false) => .text "NONE"
    | _ => .text (overallLevel content)
  else (ownValue? content s).getD s.default

/-! ## The layer of a file

The layer is made from three tables at once, and from a table of defaults that is not the one of the
settings themselves. Here it is taken apart into what it says about each setting. -/

variable {content : List (String × Datum)}

theorem section?_eq (h : HasSections content) {name : String}
    (hname : name ∈ ["app", "dice", "logging"]) : section? content name =
      .ok (sectionEntries content name) := by
  rw [section?, sectionEntries]
  cases hd : content.lookup name with
  | none => rfl
  | some d =>
    obtain ⟨entries, rfl⟩ := h name hname d hd
    rfl

theorem tableSection?_eq (h : HasSections content) {name : String}
    (hname : name ∈ ["app", "dice", "logging"]) : tableSection? content name =
      .ok (sectionEntries content name) := by
  rw [tableSection?, sectionEntries]
  cases hd : content.lookup name with
  | none => rfl
  | some d =>
    obtain ⟨entries, rfl⟩ := h name hname d hd
    rfl

/-- The two tables of defaults are the same, but for the outputs. Each is written out in full, and
nothing but this keeps them together. -/
theorem default_configKey {s : Setting} (h : s.isOutput = false) : (configKey s).2 = s.default := by
  cases s with
  | loggingConsole | loggingFile => cases h
  | _ => rfl

theorem configValue_eq (content : List (String × Datum)) (s : Setting) :
    configValue (sectionEntries content "app") (sectionEntries content "dice")
      (sectionEntries content "logging") s = configured content s := by
  cases hs : s.isOutput with
  | false =>
    rw [configured, hs, if_neg Bool.false_ne_true, ← default_configKey hs, ownValue?]
    cases s with
    | loggingConsole | loggingFile => cases hs
    | _ => rfl
  | true =>
    rw [configured, if_pos hs, overallLevel, ← default_configKey rfl]
    cases s with
    | loggingConsole | loggingFile =>
      simp only [configValue]
      unfold outputLevel
      rfl
    | _ => cases hs

theorem configLayer_eq (title : String) (h : HasSections content) :
    configLayer title content =
      .ok (.ofSettings title configOrder fun s => some (configured content s)) := by
  have hvalue : configured content = configValue (sectionEntries content "app")
      (sectionEntries content "dice") (sectionEntries content "logging") :=
    funext fun s => (configValue_eq content s).symm
  rw [configLayer, section?_eq h (by simp), section?_eq h (by simp), tableSection?_eq h (by simp),
    hvalue]
  rfl

theorem Setting.mem_configOrder (s : Setting) : s ∈ configOrder := by cases s <;> decide

end Dicebox
