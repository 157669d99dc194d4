/-!
# Runs of letters that change case together

Most letters find their counterpart in the other case at a constant distance, and so do their
neighbours, or every second one of them. A `CaseRun` is such a stretch. A case mapping is a list of
them, and a few exceptions.
-/

set_option autoImplicit false

namespace Dicebox.Text

/-- Letters `first`, `first + step`, … up to `last`, each of which moves by `shift`. -/
structure CaseRun where
  first : Nat
  last : Nat
  step : Nat
  shift : Int

namespace CaseRun

/-- Whether a code point is one of the run's letters. -/
def contains (run : CaseRun) (code : Nat) : Bool :=
  run.first ≤ code && code ≤ run.last && (code - run.first) % run.step == 0

/-- The counterpart of a character in a list of runs; one that is in none is its own. -/
def map (runs : List CaseRun) (c : Char) : Char :=
  match runs.find? (·.contains c.toNat) with
  | some run => Char.ofNat (c.toNat + run.shift).toNat
  | none => c

end CaseRun

end Dicebox.Text
