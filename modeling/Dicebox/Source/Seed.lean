import Dicebox.Datum
import Dicebox.Fault
import Dicebox.Source
import Dicebox.Source.Digest

/-!
# Seeds of all kinds

A generator is seeded with an integer. What is given as a seed may be something else, and is turned
into one: a truth value is zero or one, a text is read as the number of its bytes followed by those
of its digest, and a double is scattered over the residues of a large prime, such that a small whole
number stays what it is (`Double.scatter`). A negative result of that counts from the top of 64
bits.
-/

set_option autoImplicit false

namespace Dicebox

-- Powers of numbers are core's own, whatever else is imported.
attribute [local instance (high)] instPowNat

namespace Number

/-- The prime that doubles are scattered over the residues of. -/
def scatterPrime : Nat := 2 ^ (61 : Nat) - 1

/-- The residue of a ratio with a power of two below. Dividing by two is multiplying by half of the
prime's successor, of which the 61st power is one. -/
def FiniteDouble.scatter (x : FiniteDouble) : Int :=
  let shift := (x.exponent % 61).toNat
  let residue : Int := (x.mantissa * 2 ^ shift % scatterPrime : Nat)
  let signed := if x.negative then -residue else residue
  if signed = -1 then -2 else signed

/-- A double as an integer, by its residue. -/
def Double.scatter : Double → Int
  | .finite x => x.scatter
  | .infinite negative => if negative then -314159 else 314159
  | .undefined _ => 0

end Number

/-- The integer that a text is read as when it is a seed. -/
def seedOfText (s : String) : Int :=
  let bytes := s.toUTF8.toList
  Digest.ofBytes (bytes ++ Digest.digest bytes)

/-- The integer that a datum stands for as a seed; null for none at all. -/
def Datum.seed? : Datum → Except Fault (Option Int)
  | .null => .ok none
  | .int n => .ok (some n)
  | .bool b => .ok (some (if b then 1 else 0))
  | .float x =>
    let n := x.scatter
    .ok (some (if n < 0 then n + 2 ^ (64 : Nat) else n))
  | .text s => .ok (some (seedOfText s))
  | d => .error (.notSeed d.kind)

/-- A generator seeded with a datum, or with an integer if the datum is null. -/
def Source.ofSeed (seed : Datum) (entropy : Int) : Except Fault Source := do
  return .seeded ((← seed.seed?).getD entropy)

end Dicebox
