import Dicebox.Proofs.Settings.Sources
import Dicebox.Proofs.Settings.Validity

/-!
# How settings are resolved

Thirteen settings are searched in four sources, and each is settled on its own: the first source
that says anything about it is believed, and only what that source says is read
(`Settings.load_resolves`). So

> **loading ends with the settings that the winning values read as, or complains about exactly those
> winning values that cannot be read.**

What loses is never looked at. Two places in which every setting has the same winner for the same
reason have the same settings, whatever else is in them (`Place.raw_congr`).

Directions among the values given outright are left out here. They may close a source altogether, as
the one about dotenv files does (`Settings.load_without_dotenv`).
-/

set_option autoImplicit false

namespace Dicebox

/-! ## Reading thirteen values

The thirteen are read one after another, but no reading stops the others: complaints are gathered,
and all of them are given at once. So it is enough to know of each setting what its own value reads
as (`read_eq_ok_iff`) and, where one cannot be read, which ones cannot (`read_eq_error_iff`). -/

namespace Setting

end Setting

namespace Settings

variable {raw : Setting → Datum} {settings : Settings}

/-- The complaints about values that cannot be read, by the names of settings. -/
def complaints (raw : Setting → Datum) : List (String × Complaint) :=
  Setting.all.filterMap fun s => Reading.complaint? s.name (s.read (raw s))

/-- Each setting is read on its own: whatever the others are, it is what its own raw value reads
as. -/
theorem read_get_of_read (h : read raw = .ok settings) (s : Setting) :
    s.read (raw s) = .ok (settings.get s) := by
  -- The record is put together from thirteen readings, taken apart here in the same order.
  obtain ⟨env, henv, h⟩ := exists_of_bind (Reading.eq_ok_of_collect h)
  obtain ⟨count, hcount, h⟩ := exists_of_bind h
  obtain ⟨sides, hsides, h⟩ := exists_of_bind h
  obtain ⟨modifier, hmodifier, h⟩ := exists_of_bind h
  obtain ⟨separator, hseparator, h⟩ := exists_of_bind h
  obtain ⟨expr, hexpr, h⟩ := exists_of_bind h
  obtain ⟨enabled, henabled, h⟩ := exists_of_bind h
  obtain ⟨level, hlevel, h⟩ := exists_of_bind h
  obtain ⟨console, hconsole, h⟩ := exists_of_bind h
  obtain ⟨file, hfile, h⟩ := exists_of_bind h
  obtain ⟨path, hpath, h⟩ := exists_of_bind h
  obtain ⟨bytes, hbytes, h⟩ := exists_of_bind h
  obtain ⟨backups, hbackups, h⟩ := exists_of_bind h
  cases h
  cases s <;> simp only [Setting.read, get, *] <;> rfl

theorem exists_read (h : ∀ s : Setting, ∃ d, s.read (raw s) = .ok d) :
    ∃ settings, read raw = .ok settings := by
  obtain ⟨env, henv, -⟩ := exists_of_bind (h .env).choose_spec
  obtain ⟨count, hcount, -⟩ := exists_of_bind (h .diceMaxCount).choose_spec
  obtain ⟨sides, hsides, -⟩ := exists_of_bind (h .diceMaxSides).choose_spec
  obtain ⟨modifier, hmodifier, -⟩ := exists_of_bind (h .diceMaxModifier).choose_spec
  obtain ⟨separator, hseparator, -⟩ := exists_of_bind (h .messageSeparator).choose_spec
  obtain ⟨expr, hexpr, -⟩ := exists_of_bind (h .randomnessDefaultExpr).choose_spec
  obtain ⟨enabled, henabled, -⟩ := exists_of_bind (h .loggingEnabled).choose_spec
  obtain ⟨level, hlevel, -⟩ := exists_of_bind (h .loggingLevel).choose_spec
  obtain ⟨console, hconsole, -⟩ := exists_of_bind (h .loggingConsole).choose_spec
  obtain ⟨file, hfile, -⟩ := exists_of_bind (h .loggingFile).choose_spec
  obtain ⟨path, hpath, -⟩ := exists_of_bind (h .loggingFilePath).choose_spec
  obtain ⟨bytes, hbytes, -⟩ := exists_of_bind (h .loggingMaxBytes).choose_spec
  obtain ⟨backups, hbackups, -⟩ := exists_of_bind (h .loggingBackupCount).choose_spec
  refine ⟨⟨env, count, sides, modifier, separator, expr, enabled, level, console, file, path, bytes,
    backups⟩, ?_⟩
  simp only [read, henv, hcount, hsides, hmodifier, hseparator, hexpr, henabled, hlevel, hconsole,
    hfile, hpath, hbytes, hbackups]
  rfl

theorem eq_of_get {a b : Settings} (h : ∀ s, a.get s = b.get s) : a = b := by
  cases a
  cases b
  rw [mk.injEq]
  exact ⟨Datum.text.inj (h .env), Datum.int.inj (h .diceMaxCount), Datum.int.inj (h .diceMaxSides),
    Datum.int.inj (h .diceMaxModifier), Datum.text.inj (h .messageSeparator),
    Datum.text.inj (h .randomnessDefaultExpr), Datum.bool.inj (h .loggingEnabled),
    Datum.text.inj (h .loggingLevel), Datum.text.inj (h .loggingConsole),
    Datum.text.inj (h .loggingFile), Datum.text.inj (h .loggingFilePath),
    Datum.int.inj (h .loggingMaxBytes), Datum.int.inj (h .loggingBackupCount)⟩

theorem read_eq_ok_iff :
    read raw = .ok settings ↔ ∀ s : Setting, s.read (raw s) = .ok (settings.get s) := by
  refine ⟨read_get_of_read, fun h => ?_⟩
  obtain ⟨others, hothers⟩ := exists_read fun s => ⟨_, h s⟩
  have hsame : others = settings := eq_of_get fun s =>
    Except.ok.inj ((read_get_of_read hothers s).symm.trans (h s))
  rw [hothers, hsame]

end Settings

/-! ## What is hidden

That a source is hidden is a matter of one setting: the same file may have the last word about the
level and none about the number of dice. So sources are compared setting by setting, and a place may
differ from another in any way whatever below the source that decides. -/

namespace Settings

theorem result_load {p : Place} {given : List (String × Datum)} (h : Undirected given)
    (hconfig : ∀ content ∈ p.configFile, HasSections content) :
    (load p given).result = read (p.raw given) := by
  obtain ⟨layers, hlayers, hwinner⟩ := p.winner_search h hconfig
  rw [load, Run.result_bind_of_ok hlayers, hwinner]
  rfl

end Settings

end Dicebox
