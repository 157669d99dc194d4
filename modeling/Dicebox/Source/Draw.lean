import Dicebox.Datum.Arithmetic

/-!
# Draws

A source of chance hands out numbers, each of them a double. Generators hand out fractions
`k / 2 ^ 53` with `0 ≤ k < 2 ^ 53` and nothing else (`Draw.IsFair`), and `Draw.ofHalves` is how they
come by one. A script is written by a person, who writes down numerators (`Draw.ofDatum`). These can
be any numbers at all, or be none, and dice that are rolled with such a draw show whatever comes of
it.
-/

set_option autoImplicit false

namespace Dicebox

open Number

-- Powers of numbers are core's own, whatever else is imported.
attribute [local instance (high)] instPowNat

/-- A number handed out by a source. -/
structure Draw where
  value : Double
  deriving Repr, DecidableEq, Inhabited

namespace Draw

/-- The denominator of all fair draws. -/
def denominator : Nat := 2 ^ (53 : Nat)

/-- The fraction `k / 2 ^ 53`, which is exact up to 53 bits. -/
def fraction (k : Nat) : Draw := ⟨.finite ⟨false, k, -53⟩⟩

/-- A fair draw is a fraction that is at least zero and below one. -/
def IsFair (d : Draw) : Prop := ∃ k < denominator, d = fraction k

/-- Twenty-seven high bits and twenty-six low bits make a draw. -/
def ofHalves (high low : Nat) : Draw := fraction (high * 2 ^ (26 : Nat) + low)

theorem isFair_ofHalves {high low : Nat} (hh : high < 2 ^ (27 : Nat)) (hl : low < 2 ^ (26 : Nat)) :
    (ofHalves high low).IsFair :=
  ⟨_, by simp only [denominator]; omega, rfl⟩

/-! ## Scripts -/

/-- The draw of a numerator. A large one is rounded, or is too large for a double. -/
def ofNumerator (n : Int) : Except Fault Draw :=
  if n.natAbs < denominator then .ok ⟨.finite ⟨n < 0, n.natAbs, -53⟩⟩
  else (Datum.divide (.int n) (.int denominator)).map Draw.mk

/-- The draw of a numerator of any kind. What is no number makes none. -/
def ofDatum : Datum → Except Fault Draw
  | .int n => ofNumerator n
  | d => (d.divide (.int denominator)).map Draw.mk

/-- What a script says about a fair draw is that draw. -/
theorem ofDatum_nat {k : Nat} (h : k < denominator) : ofDatum (.int k) = .ok (fraction k) := by
  have hn : ¬ ((k : Int) < 0) := by omega
  simp [ofDatum, ofNumerator, fraction, h, hn]

end Draw

end Dicebox
