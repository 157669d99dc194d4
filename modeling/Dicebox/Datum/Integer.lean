import Dicebox.Datum
import Dicebox.Text.Numeral

/-!
# Reading a datum as an integer

Limits and counter increments are given as data of any kind and are read generously: an integer or
a truth value is what it is, a fraction loses its decimals, and a text is read as a loose numeral
(`Dicebox.Text.readLoose`). The ways in which this fails are told apart, since they are different
mistakes.
-/

set_option autoImplicit false

namespace Dicebox

open Number

/-- Why a datum is not an integer. -/
inductive IntegerError
  /-- A text that is not a numeral, or too long to be converted. -/
  | numeral (why : Text.NumeralError)
  /-- A number beyond all finite ones. -/
  | infinite
  /-- What is called a number and is none. -/
  | undefined
  /-- A datum of a kind that is no number. -/
  | kind
  deriving Repr, DecidableEq

namespace Number.FiniteDouble

/-- The integer part, towards zero. -/
def truncate (x : FiniteDouble) : Int :=
  x.signedNum.tdiv x.den

end Number.FiniteDouble

namespace Datum

/-- The integer that a datum is read as. -/
def toInteger : Datum → Except IntegerError Int
  | .int n => .ok n
  | .bool b => .ok (if b then 1 else 0)
  | .float (.finite x) => .ok x.truncate
  | .float (.infinite _) => .error .infinite
  | .float (.undefined _) => .error .undefined
  | .text s => (Text.readLoose s).mapError .numeral
  | .null | .list _ | .table _ => .error .kind

@[simp] theorem toInteger_int (n : Int) : toInteger (.int n) = .ok n := rfl

end Datum

end Dicebox
