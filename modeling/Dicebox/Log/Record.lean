import Dicebox.Datum
import Dicebox.Log.Severity

/-!
# Log records

A record says what happened, in a dotted name, how much it matters, and with which values.
-/

set_option autoImplicit false

namespace Dicebox.Log

/-- One log record. -/
structure Record where
  severity : Severity
  event : String
  fields : List (String × Datum)
  deriving Inhabited

namespace Record

def debug (event : String) (fields : List (String × Datum)) : Record := ⟨.debug, event, fields⟩

def info (event : String) (fields : List (String × Datum)) : Record := ⟨.info, event, fields⟩

def warning (event : String) (fields : List (String × Datum)) : Record := ⟨.warning, event, fields⟩

/-- Whether a record reaches a threshold. -/
def reaches (threshold : Severity) (r : Record) : Bool :=
  threshold.rank ≤ r.severity.rank

end Record

end Dicebox.Log
