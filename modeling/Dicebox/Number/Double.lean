import Dicebox.Number.Rounding

/-!
# Doubles — binary floating point numbers as exact data

A double is held as what it denotes: a sign, a mantissa below `2 ^ 53` and a power of two between
`2 ^ (-1074)` and `2 ^ 971`. Arithmetic forms the exact ratio of the result and rounds it once, with
`Double.ofRatio`, to the nearest double; a half goes to the even mantissa, and what lies beyond the
largest double becomes infinite. Nothing here is approximate, so a statement about the program's
floating point results is a statement about rational numbers (`FiniteDouble.toRat`).

Where there is no number to round to, as in infinity over infinity, the result is "not a number". It
has a sign, which nobody sees but in its bits: an operation that comes to nothing makes a negative
one, and an operation on one hands it on.
-/

set_option autoImplicit false

namespace Dicebox.Number

-- Powers of numbers are core's own, whatever else is imported.
attribute [local instance (high)] instPowNat

/-! ## The numbers -/

/-- The finite double `± mantissa · 2 ^ exponent`. Zero has two signs. -/
structure FiniteDouble where
  negative : Bool
  mantissa : Nat
  exponent : Int
  deriving Repr, DecidableEq, Inhabited

/-- A double: finite, or beyond the largest finite one, or not a number. -/
inductive Double
  | finite (x : FiniteDouble)
  | infinite (negative : Bool)
  | undefined (negative : Bool)
  deriving Repr, DecidableEq, Inhabited

/-- The number of bits of a mantissa. -/
def precision : Nat := 53

/-- The exponent of the smallest positive double. -/
def minExponent : Int := -1074

/-- The exponent of the largest double. -/
def maxExponent : Int := 971

namespace FiniteDouble

def zero : FiniteDouble := ⟨false, 0, minExponent⟩

def isZero (x : FiniteDouble) : Bool := x.mantissa == 0

/-- The number with the other sign. -/
def neg (x : FiniteDouble) : FiniteDouble := { x with negative := !x.negative }

/-- The numerator of the magnitude, over `x.den`. -/
def num (x : FiniteDouble) : Nat := x.mantissa * 2 ^ x.exponent.toNat

/-- The denominator of the magnitude, a power of two. -/
def den (x : FiniteDouble) : Nat := 2 ^ (-x.exponent).toNat

/-- The numerator with the sign. -/
def signedNum (x : FiniteDouble) : Int := if x.negative then -x.num else x.num

/-- The number that a finite double denotes. -/
def toRat (x : FiniteDouble) : Rat := mkRat x.signedNum x.den

theorem den_pos (x : FiniteDouble) : 0 < x.den := Nat.two_pow_pos _

/-- The greatest integer that is not above the number. -/
def floor (x : FiniteDouble) : Int := x.signedNum / (x.den : Int)

end FiniteDouble

/-! ## Rounding to a double -/

/-- The exponent `e` with `2 ^ e ≤ num / den < 2 ^ (e + 1)`, for a positive ratio. -/
def floorLog2 (num den : Nat) : Int :=
  let e : Int := (num.log2 : Int) - den.log2
  if num * 2 ^ (-e).toNat < den * 2 ^ e.toNat then e - 1 else e

/-- The exponent of the last bit that a double near `num / den` keeps. -/
def unitExponent (num den : Nat) : Int :=
  max minExponent (floorLog2 num den - (precision - 1))

/-- `num / den` in units of `2 ^ e`, rounded to an integer. -/
def roundInUnits (num den : Nat) (e : Int) : Nat :=
  divHalfEven (num * 2 ^ (-e).toNat) (den * 2 ^ e.toNat)

/-- The mantissa and exponent of the double nearest to `num / den`, without regard to the largest
exponent. A mantissa that is rounded up to the next power of two moves into the exponent. -/
def roundRatio (num den : Nat) : Nat × Int :=
  if num = 0 then (0, minExponent)
  else
    let e := unitExponent num den
    let m := roundInUnits num den e
    if m = 2 ^ precision then (2 ^ (precision - 1), e + 1) else (m, e)

namespace Double

/-- The double nearest to `± num / den`. -/
def ofRatio (negative : Bool) (num den : Nat) : Double :=
  let (m, e) := roundRatio num den
  if e ≤ maxExponent then .finite ⟨negative, m, e⟩ else .infinite negative

/-- A double, if it is finite. -/
def finite? : Double → Option FiniteDouble
  | .finite x => some x
  | .infinite _ | .undefined _ => none

/-- The finite double nearest to a ratio of integers with `b ≠ 0`; `none` if it is too large for
one. The sign of a zero is that of the divisor. -/
def quotient? (a b : Int) : Option FiniteDouble :=
  (ofRatio ((a < 0) != (b < 0)) a.natAbs b.natAbs).finite?

/-- The finite double nearest to an integer; `none` if it is too large for one. -/
def ofInt? (n : Int) : Option FiniteDouble := (ofRatio (n < 0) n.natAbs 1).finite?

/-- The double nearest to `± digits · 10 ^ exponent`. An exponent far outside the range of doubles
is decided by its sign alone, so that no huge power is ever formed. -/
def ofDecimal (negative : Bool) (digits : Nat) (exponent : Int) : Double :=
  let magnitude : Int := exponent + (digits.log2 / 3 : Nat)
  if digits = 0 then .finite ⟨negative, 0, minExponent⟩
  else if 400 < exponent then .infinite negative
  else if magnitude < -400 then .finite ⟨negative, 0, minExponent⟩
  else ofRatio negative (digits * 10 ^ exponent.toNat) (10 ^ (-exponent).toNat)

/-! ## Arithmetic -/

/-- The double of opposite sign. -/
def neg : Double → Double
  | .finite x => .finite x.neg
  | .infinite negative => .infinite !negative
  | .undefined negative => .undefined !negative

/-- The double without its sign. -/
def abs : Double → Double
  | .finite x => .finite { x with negative := false }
  | .infinite _ => .infinite false
  | .undefined _ => .undefined false

/-- The sum of two finite doubles. The sum of two zeros is negative only if both are. -/
def addFinite (x y : FiniteDouble) : Double :=
  let sum := x.signedNum * y.den + y.signedNum * x.den
  ofRatio (if sum = 0 then x.negative && y.negative else sum < 0) sum.natAbs (x.den * y.den)

/-- The sum of two doubles. -/
def add : Double → Double → Double
  | .undefined negative, _ => .undefined negative
  | _, .undefined negative => .undefined negative
  | .infinite a, .infinite b => if a = b then .infinite a else .undefined true
  | .infinite negative, .finite _ => .infinite negative
  | .finite _, .infinite negative => .infinite negative
  | .finite x, .finite y => addFinite x y

/-- The difference of two doubles. One that is not a number is handed on with its sign. -/
def sub (x : Double) : Double → Double
  | .undefined negative => x.add (.undefined negative)
  | y => x.add y.neg

/-- The product of two finite doubles. -/
def mulFinite (x y : FiniteDouble) : Double :=
  ofRatio (x.negative != y.negative) (x.num * y.num) (x.den * y.den)

/-- The product of two doubles; that of zero and infinity is not a number. -/
def mul : Double → Double → Double
  | .undefined negative, _ => .undefined negative
  | _, .undefined negative => .undefined negative
  | .infinite a, .infinite b => .infinite (a != b)
  | .infinite negative, .finite x =>
    if x.isZero then .undefined true else .infinite (negative != x.negative)
  | .finite x, .infinite negative =>
    if x.isZero then .undefined true else .infinite (x.negative != negative)
  | .finite x, .finite y => mulFinite x y

/-- A finite double divided by one other than zero. -/
def divFinite (x y : FiniteDouble) : Double :=
  ofRatio (x.negative != y.negative) (x.num * y.den) (x.den * y.num)

/-- A double divided by one other than zero. -/
def div : Double → Double → Double
  | .undefined negative, _ => .undefined negative
  | _, .undefined negative => .undefined negative
  | .infinite _, .infinite _ => .undefined true
  | .infinite a, .finite y => .infinite (a != y.negative)
  | .finite x, .infinite negative => .finite ⟨x.negative != negative, 0, minExponent⟩
  | .finite x, .finite y => divFinite x y

/-- Whether a double is one of the two zeros. -/
def isZero : Double → Bool
  | .finite x => x.isZero
  | .infinite _ | .undefined _ => false

/-- How two doubles compare; the two zeros are equal. What is not a number compares with
nothing. -/
def order? : Double → Double → Option Ordering
  | .finite x, .finite y => some (compare (x.signedNum * y.den) (y.signedNum * x.den))
  | .infinite negative, .finite _ => some (if negative then .lt else .gt)
  | .finite _, .infinite negative => some (if negative then .gt else .lt)
  | .infinite a, .infinite b => some (if a = b then .eq else if a then .lt else .gt)
  | .undefined _, _ | _, .undefined _ => none

/-- Whether a double is below another one. -/
def lt (x y : Double) : Bool := x.order? y == some .lt

/-- The double nearest to the multiple of `10 ^ (-places)` that is nearest to `x`; a half goes to
the even multiple. -/
def roundPlaces (places : Nat) : Double → Double
  | .finite x =>
    ofRatio x.negative (divHalfEven (x.num * 10 ^ places) x.den) (10 ^ places)
  | .infinite negative => .infinite negative
  | .undefined negative => .undefined negative

/-! ## The 64 bits -/

/-- The sign as the highest of 64 bits. -/
def signBit (negative : Bool) : Nat := if negative then 0x8000000000000000 else 0

/-- The interchange format: a sign bit, eleven exponent bits, fifty-two mantissa bits. -/
def toBits : Double → Nat
  | .finite x =>
    let implied := 2 ^ (precision - 1)
    if x.mantissa < implied then signBit x.negative + x.mantissa
    else signBit x.negative + (x.exponent - minExponent + 1).toNat * implied +
      (x.mantissa - implied)
  | .infinite negative => signBit negative + 2047 * 2 ^ (precision - 1)
  | .undefined negative => signBit negative + 2047 * 2 ^ (precision - 1) + 2 ^ (precision - 2)

/-- The bits as sixteen hexadecimal digits. -/
def toHex (x : Double) : String :=
  let digits := Nat.toDigits 16 x.toBits
  String.ofList (List.replicate (16 - digits.length) '0' ++ digits)

end Double

end Dicebox.Number
