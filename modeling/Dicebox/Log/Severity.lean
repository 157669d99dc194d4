import Dicebox.Text.Uppercase

/-!
# Severities

How much a log record matters, as a name and as the number by which thresholds compare.
-/

set_option autoImplicit false

namespace Dicebox.Log

/-- The severity of a record, or the threshold that a record has to reach. -/
inductive Severity
  | unset
  | debug
  | info
  | warning
  | error
  | critical
  deriving Repr, DecidableEq, Inhabited

namespace Severity

/-- The number by which severities compare. -/
def rank : Severity → Nat
  | .unset => 0
  | .debug => 10
  | .info => 20
  | .warning => 30
  | .error => 40
  | .critical => 50

/-- The name of a severity in a written record. -/
def name : Severity → String
  | .unset => "notset"
  | .debug => "debug"
  | .info => "info"
  | .warning => "warning"
  | .error => "error"
  | .critical => "critical"

/-- The severities by their upper case names, two of which have a second one. -/
def named : List (String × Severity) :=
  [("CRITICAL", .critical), ("FATAL", .critical), ("ERROR", .error), ("WARNING", .warning),
    ("WARN", .warning), ("INFO", .info), ("DEBUG", .debug), ("NOTSET", .unset)]

/-- The severity of an upper case name. -/
def ofName? (name : String) : Option Severity :=
  named.lookup name

/-- The higher of two thresholds. -/
def higher (a b : Severity) : Severity :=
  if a.rank < b.rank then b else a

theorem rank_higher (a b : Severity) : (a.higher b).rank = max a.rank b.rank := by
  rw [higher]; split <;> omega

end Severity

end Dicebox.Log
