import Dicebox.Fault

/-!
# `Throw` — so many dice of so many sides, and a modifier

A throw asks for at least one die with at least one side each, and may add or take away a flat
modifier afterwards. A modifier that is written but zero is still there: it is announced and
reported like any other. So a modifier is one of three things, and a value without a sign is not
one of them; `Throw.make` is where the loose numbers of a caller are checked, in a fixed order.
-/

set_option autoImplicit false

namespace Dicebox

/-! ## Signs -/

/-- The sign of a modifier, or that there is none. -/
inductive Sign
  | none
  | plus
  | minus
  deriving Repr, DecidableEq, Inhabited

namespace Sign

def name : Sign → String
  | .none => "none"
  | .plus => "plus"
  | .minus => "minus"

/-- The sign with a given name. -/
def ofName : Datum → Except Fault Sign
  | .text "none" => .ok .none
  | .text "plus" => .ok .plus
  | .text "minus" => .ok .minus
  | name => .error (.unknownSignName name)

/-- The sign that a symbol stands for. Whatever does not count as given is no sign. -/
def ofSymbol (symbol : Datum) : Except Fault Sign :=
  match symbol with
  | .text "+" => .ok .plus
  | .text "-" => .ok .minus
  | d => if d.isGiven then .error (.unknownSign d) else .ok .none

end Sign

/-! ## Modifiers -/

/-- What is done to the sum of the dice. -/
inductive Modifier
  | none
  | plus (value : Nat)
  | minus (value : Nat)
  deriving Repr, DecidableEq, Inhabited

namespace Modifier

def sign : Modifier → Sign
  | .none => .none
  | .plus _ => .plus
  | .minus _ => .minus

/-- The value without its sign; zero if there is none. -/
def value : Modifier → Nat
  | .none => 0
  | .plus v => v
  | .minus v => v

/-- What the modifier adds to the sum. -/
def amount : Modifier → Int
  | .none => 0
  | .plus v => v
  | .minus v => -v

/-- Whether a modifier was written, be it zero. -/
def isPresent : Modifier → Bool
  | .none => false
  | .plus _ | .minus _ => true

theorem isPresent_iff (m : Modifier) : m.isPresent = true ↔ m.sign ≠ .none := by
  cases m <;> simp [isPresent, sign]

theorem amount_natAbs (m : Modifier) : m.amount.natAbs = m.value := by
  cases m <;> simp [amount, value]

end Modifier

/-! ## Throws -/

/-- A throw of at least one die with at least one side. `label` is the text it was asked for with,
exactly as given. -/
structure Throw where
  dieCount : Nat
  sides : Nat
  modifier : Modifier
  label : String
  dieCount_pos : 0 < dieCount
  sides_pos : 0 < sides
  deriving Repr, DecidableEq

namespace Throw

/-- The throw with the given numbers, or the first objection to them: to the dice, the sides, a
negative modifier value, a value without a sign. -/
def make (dieCount sides : Int) (sign : Sign) (value : Int) (label : String) :
    Except DiceError Throw :=
  let refuse (objection : Objection) : Except DiceError Throw :=
    .error (.invalidNotation (.text label) (some objection))
  if hd : dieCount < 1 then refuse .noDice
  else if hs : sides < 1 then refuse .noSides
  else if value < 0 then refuse .negativeModifier
  else
    let build (modifier : Modifier) : Except DiceError Throw :=
      .ok ⟨dieCount.toNat, sides.toNat, modifier, label, by omega, by omega⟩
    match sign with
    | .none => if value = 0 then build .none else refuse .unsignedModifier
    | .plus => build (.plus value.toNat)
    | .minus => build (.minus value.toNat)

/-- Natural numbers with a positive die and side count are never objected to when a sign is
there. -/
theorem make_plus (n s v : Nat) (label : String) (hn : 0 < n) (hs : 0 < s) :
    make n s .plus v label = .ok ⟨n, s, .plus v, label, hn, hs⟩ := by
  have h1 : ¬ ((n : Int) < 1) := by omega
  have h2 : ¬ ((s : Int) < 1) := by omega
  have h3 : ¬ ((v : Int) < 0) := by omega
  simp [make, h1, h2, h3]

theorem make_minus (n s v : Nat) (label : String) (hn : 0 < n) (hs : 0 < s) :
    make n s .minus v label = .ok ⟨n, s, .minus v, label, hn, hs⟩ := by
  have h1 : ¬ ((n : Int) < 1) := by omega
  have h2 : ¬ ((s : Int) < 1) := by omega
  have h3 : ¬ ((v : Int) < 0) := by omega
  simp [make, h1, h2, h3]

theorem make_none (n s : Nat) (label : String) (hn : 0 < n) (hs : 0 < s) :
    make n s .none 0 label = .ok ⟨n, s, .none, label, hn, hs⟩ := by
  have h1 : ¬ ((n : Int) < 1) := by omega
  have h2 : ¬ ((s : Int) < 1) := by omega
  simp [make, h1, h2]

end Throw

end Dicebox
