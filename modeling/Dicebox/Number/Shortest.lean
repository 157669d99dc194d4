import Dicebox.Number.Double

/-!
# The shortest decimal — the fewest digits that read back

A double is written with as few significant digits as still determine it: among all decimals that
round to the double, those with the fewest digits, and of these the nearest. The search is done on
exact integers. For one digit, two digits and so on, the double lies between two neighbours on the
decimal grid of that many digits; the first grid on which one of the two rounds back wins. Seventeen
digits always suffice.

How the digits are laid out is a separate decision, kept in a `Layout`.
-/

set_option autoImplicit false

namespace Dicebox.Number

-- Powers of numbers are core's own, whatever else is imported.
attribute [local instance (high)] instPowNat

/-! ## The digits -/

/-- The positive decimal `digits · 10 ^ exponent`. -/
structure Decimal where
  digits : Nat
  exponent : Int
  deriving Repr, DecidableEq, Inhabited

namespace Decimal

def num (d : Decimal) : Nat := d.digits * 10 ^ d.exponent.toNat

def den (d : Decimal) : Nat := 10 ^ (-d.exponent).toNat

/-- The same decimal without zeros at the end of its digits. -/
def trimZeros (d : Decimal) : Decimal :=
  if h : d.digits ≠ 0 ∧ d.digits % 10 = 0 then
    trimZeros ⟨d.digits / 10, d.exponent + 1⟩
  else d
termination_by d.digits
decreasing_by exact Nat.div_lt_self (Nat.pos_of_ne_zero h.1) (by decide)

end Decimal

namespace FiniteDouble

/-- Whether a positive decimal rounds to the magnitude of `x`. In quarters of the last place the
magnitude is `4 · mantissa`; the interval that rounds to it ends two quarters above, and two below,
or one below where the doubles get closer together. The ends belong to it if the mantissa is
even. -/
def isNearest (x : FiniteDouble) (d : Decimal) : Bool :=
  let centre := 4 * x.mantissa
  let low := if x.mantissa = 2 ^ (precision - 1) ∧ minExponent < x.exponent then centre - 1
    else centre - 2
  let high := centre + 2
  -- `d` and the ends, all multiplied by the four denominators
  let scaled := 4 * d.num * x.den
  let unit := 2 ^ x.exponent.toNat * d.den
  if x.mantissa % 2 = 0 then low * unit ≤ scaled && scaled ≤ high * unit
  else low * unit < scaled && scaled < high * unit

/-- The exponent `p` with `10 ^ p ≤ x < 10 ^ (p + 1)`, for a positive magnitude: an estimate from
the binary logarithm, which is off by one at most, put right by comparison. -/
def floorLog10 (x : FiniteDouble) : Int :=
  let estimate : Int := (floorLog2 x.num x.den) * 1233 / 4096
  let atLeast (p : Int) : Bool := 10 ^ p.toNat * x.den ≤ x.num * 10 ^ (-p).toNat
  if atLeast (estimate + 1) then estimate + 1
  else if atLeast estimate then estimate
  else estimate - 1

/-- The decimal with `n` digits that stands for `x`, if one of the two neighbours of `x` on that
grid rounds to it. Of two that do, the nearer one, or on a half the even one. -/
def onGrid? (x : FiniteDouble) (n : Nat) : Option Decimal :=
  let e := floorLog10 x + 1 - n
  let top := x.num * 10 ^ (-e).toNat
  let bottom := x.den * 10 ^ e.toNat
  let below : Decimal := ⟨top / bottom, e⟩
  let above : Decimal := ⟨top / bottom + 1, e⟩
  match x.isNearest below, x.isNearest above with
  | true, true => some ⟨divHalfEven top bottom, e⟩
  | true, false => some below
  | false, true => some above
  | false, false => none

/-- The shortest decimal of a positive magnitude. -/
def shortest (x : FiniteDouble) : Decimal :=
  match (List.range 17).findSome? fun n => x.onGrid? (n + 1) with
  | some d => d.trimZeros
  | none => ⟨0, 0⟩

end FiniteDouble

/-! ## The layout -/

/-- How a decimal is written. -/
structure Layout where
  /-- The least exponent of the leading digit that is still written without an exponent. -/
  positionalFrom : Int
  /-- The least exponent of the leading digit, above that, that is written with one again. -/
  positionalBelow : Int
  /-- The least number of digits of a written exponent. -/
  exponentDigits : Nat

/-- Numbers from `0.0001` up to, not including, `10 ^ 16` are written without an exponent and with
at least one decimal; the others with a sign and two or more digits of exponent. -/
def plainLayout : Layout := ⟨-4, 16, 2⟩

namespace Decimal

/-- A decimal in a given layout. -/
def toText (layout : Layout) (d : Decimal) : String :=
  let digits := Nat.toDigits 10 d.digits
  let lead : Int := d.exponent + digits.length - 1
  if layout.positionalFrom ≤ lead ∧ lead < layout.positionalBelow then
    if lead < 0 then
      String.ofList ('0' :: '.' :: (List.replicate (-lead - 1).toNat '0' ++ digits))
    else
      let whole := digits.take (lead.toNat + 1)
      let fraction := digits.drop (lead.toNat + 1)
      String.ofList (whole ++ List.replicate (lead.toNat + 1 - whole.length) '0' ++ '.' ::
        (if fraction.isEmpty then ['0'] else fraction))
  else
    let fraction := digits.drop 1
    let power := Nat.toDigits 10 lead.natAbs
    String.ofList (digits.take 1 ++ (if fraction.isEmpty then [] else '.' :: fraction) ++
      'e' :: (if lead < 0 then '-' else '+') ::
      (List.replicate (layout.exponentDigits - power.length) '0' ++ power))

end Decimal

namespace Double

/-- A double written with the fewest digits that read back. -/
def toText : Double → String
  | .finite x =>
    let magnitude := if x.isZero then "0.0" else x.shortest.toText plainLayout
    if x.negative then "-" ++ magnitude else magnitude
  | .infinite negative => if negative then "-inf" else "inf"
  | .undefined _ => "nan"

/-- A double rounded to an integer, half to even; a zero keeps its sign. -/
def toWholeText : Double → String
  | .finite x =>
    let magnitude := toString (divHalfEven x.num x.den)
    if x.negative then "-" ++ magnitude else magnitude
  | .infinite negative => if negative then "-inf" else "inf"
  | .undefined _ => "nan"

end Double

end Dicebox.Number
