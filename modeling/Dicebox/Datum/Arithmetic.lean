import Dicebox.Datum.Order
import Dicebox.Fault

/-!
# Calculating with data

Figures that are handed over from outside may be integers, truth values or doubles, and they mix. As
long as only integers meet, sums and differences are exact; a quotient is always a double, rounded
once. As soon as a double is involved, the other number becomes one too, which it may be too large
for.

The equations of this module for integers (`divide_int`, `add_int`) say that nothing is lost where
nothing but integers comes in.
-/

set_option autoImplicit false

namespace Dicebox

open Number

namespace Numeric

/-- A number as a double. -/
def toDouble : Numeric → Except Fault Double
  | .int n =>
    match Double.ofInt? n with
    | some x => .ok (.finite x)
    | none => .error .beyondDoubles
  | .real x => .ok x

/-- A number as a datum. -/
def toDatum : Numeric → Datum
  | .int n => .int n
  | .real x => .float x

/-- A quotient of numbers. Integers are divided exactly and rounded once. -/
def divide : Numeric → Numeric → Except Fault Double
  | .int a, .int b =>
    if b = 0 then .error .divisionByZero
    else
      match Double.quotient? a b with
      | some x => .ok (.finite x)
      | none => .error .beyondDoubles
  | a, b => do
    let x ← a.toDouble
    let y ← b.toDouble
    if y.isZero then .error .divisionByZero else return x.div y

/-- A sum of numbers. -/
def add : Numeric → Numeric → Except Fault Numeric
  | .int a, .int b => .ok (.int (a + b))
  | a, b => do return .real ((← a.toDouble).add (← b.toDouble))

/-- A number with the other sign. -/
def neg : Numeric → Numeric
  | .int n => .int (-n)
  | .real x => .real x.neg

end Numeric

namespace Datum

/-- A datum as a number that is to go together with another datum. -/
def asNumber (d other : Datum) : Except Fault Numeric :=
  match d.numeric? with
  | some x => .ok x
  | none => .error (.mismatch d.kind other.kind)

/-- Whether one datum is below another, which have to be of one kind. -/
def isBelow (a b : Datum) : Except Fault Bool :=
  match a.below? b with
  | some answer => .ok answer
  | none => .error (.mismatch a.kind b.kind)

/-- Whether one datum is at most another, which have to be of one kind. -/
def isAtMost (a b : Datum) : Except Fault Bool :=
  match a.atMost? b with
  | some answer => .ok answer
  | none => .error (.mismatch a.kind b.kind)

/-- The quotient of two data. -/
def divide (a b : Datum) : Except Fault Double := do
  (← a.asNumber b).divide (← b.asNumber a)

/-- The difference of a datum and a double. -/
def minus (a : Datum) (y : Double) : Except Fault Double := do
  let x ← (← a.asNumber (.float y)).toDouble
  return x.sub y

/-- The sum of two data. -/
def add (a b : Datum) : Except Fault Datum := do
  return (← (← a.asNumber b).add (← b.asNumber a)).toDatum

/-- A number with the other sign; any other datum stays as it is. -/
def negate (d : Datum) : Datum :=
  match d.numeric? with
  | some x => x.neg.toDatum
  | none => d

/-! ## Integers -/

@[simp] theorem isBelow_int (a b : Int) : isBelow (.int a) (.int b) = .ok (decide (a < b)) := by
  simp [isBelow]

@[simp] theorem isAtMost_int (a b : Int) : isAtMost (.int a) (.int b) = .ok (decide (a ≤ b)) := by
  simp [isAtMost]

theorem divide_int (a b : Int) (h : b ≠ 0) :
    divide (.int a) (.int b) =
      (Double.quotient? a b).elim (.error .beyondDoubles) (fun x => .ok (.finite x)) := by
  simp only [divide, asNumber, numeric?, Numeric.divide, bind, Except.bind, if_neg h]
  cases Double.quotient? a b <;> rfl

@[simp] theorem add_int (a b : Int) : add (.int a) (.int b) = .ok (.int (a + b)) := rfl

end Datum

end Dicebox
