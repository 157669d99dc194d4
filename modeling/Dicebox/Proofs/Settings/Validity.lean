import Dicebox.Command.Attributes
import Dicebox.Proofs.Run.Results
import Dicebox.Settings.Load

/-!
# What settings are good for once they have been read

Reading settings looks at each of them once and for all, and what it makes sure of is a short list
(`Settings.IsValid`): there is a die to throw, it has a side, and no modifier limit is negative. All
three bounds are from below. A throw takes its limits and its separator from a table with names, and
there it finds these very integers, and a text that is not empty (`Settings.limitsOf_attributes`,
`Settings.separatorOf_attributes`).
-/

set_option autoImplicit false

namespace Dicebox

namespace Reading

theorem eq_ok_of_collect {α : Type} {complaints : List (Option (String × Complaint))}
    {value : Except Complaint α} {a : α} (h : collect complaints value = .ok a) :
    value = .ok a := by
  cases value with
  | error c => cases h
  | ok b =>
    cases h
    rfl

theorem le_of_integerFrom {minimum n : Int} {d : Datum} (h : integerFrom minimum d = .ok n) :
    minimum ≤ n := by
  obtain ⟨k, -, hk⟩ := exists_of_bind h
  split at hk
  · cases hk
  · next hlow =>
    cases hk
    exact Int.not_lt.mp hlow

end Reading

namespace Settings

/-- What reading makes sure of. There is no bound from above, and nothing is promised of the texts:
the separator may be empty, and the expression for the statistics need not be one. -/
structure IsValid (s : Settings) : Prop where
  one_le_count : 1 ≤ s.diceMaxCount
  one_le_sides : 1 ≤ s.diceMaxSides
  modifier_nonneg : 0 ≤ s.diceMaxModifier

theorem isValid_of_read {raw : Setting → Datum} {s : Settings} (h : read raw = .ok s) :
    s.IsValid := by
  -- The settings are read one after another, and three of them have a minimum.
  obtain ⟨env, -, h⟩ := exists_of_bind (Reading.eq_ok_of_collect h)
  obtain ⟨count, hcount, h⟩ := exists_of_bind h
  obtain ⟨sides, hsides, h⟩ := exists_of_bind h
  obtain ⟨modifier, hmodifier, h⟩ := exists_of_bind h
  iterate 9 obtain ⟨_, -, h⟩ := exists_of_bind h
  cases h
  exact ⟨Reading.le_of_integerFrom hcount, Reading.le_of_integerFrom hsides,
    Reading.le_of_integerFrom hmodifier⟩

/-- The limits that settings set to a throw. -/
def limits (s : Settings) : Limits := .ofIntegers s.diceMaxCount s.diceMaxSides s.diceMaxModifier

/-- The separator of settings. An empty one does not count as given, so that settings cannot ask for
messages without anything between them. -/
def separator (s : Settings) : String :=
  if s.messageSeparator = "" then defaultSeparator else s.messageSeparator

theorem limitsOf_attributes (s : Settings) :
    Limits.ofAttributes (some s.attributes) = .ok s.limits := rfl

theorem separatorOf_attributes (s : Settings) :
    separatorOf (some s.attributes) = .text s.separator := by
  have hfound : separatorOf (some s.attributes) =
      if (Datum.text s.messageSeparator).isGiven then .text s.messageSeparator
      else .text defaultSeparator := rfl
  rw [hfound, separator, Datum.isGiven]
  by_cases h : s.messageSeparator = ""
  · rw [if_pos h, h]
    rfl
  · rw [if_neg h, if_pos (by simpa using h)]

end Settings

end Dicebox
