import Dicebox.Source
import Dicebox.Fault

/-!
# Rolling dice

A die with `sides` sides and a draw `r` show the face `⌊r · sides⌋ + 1`, where the side count is a
double and so is the product. Both are rounded, which is why the range of a face needs an argument
and is not simply read off the formula; on an unfair draw it can be any number, or none.

Several dice are rolled one after another on the same source. Whatever stops them, a source that has
run dry or a side count beyond all doubles, the faces rolled before it are kept (`Rolls`).
`rollDice_zero` and `rollDice_succ` are the recursion that `rollDice` computes with an accumulator.
-/

set_option autoImplicit false

namespace Dicebox

open Number

/-! ## One die -/

/-- The face that a die with a given number of sides shows on a draw, unless a number on the way is
too large for a double, or the draw is not a number at all. -/
def face (sides : Nat) (d : Draw) : Except Fault Int :=
  match Double.ofInt? sides with
  | none => .error .beyondDoubles
  | some x =>
    match d.value.mul (.finite x) with
    | .finite product => .ok (product.floor + 1)
    | .infinite _ => .error .beyondDoubles
    | .undefined _ => .error (.notInteger .undefined)

/-- On a fair draw the face is found from the draw's numerator. -/
theorem face_fraction (sides k : Nat) :
    face sides (.fraction k) =
      match (Double.ofInt? sides).bind fun x => (Double.mulFinite ⟨false, k, -53⟩ x).finite? with
      | some product => .ok (product.floor + 1)
      | none => .error .beyondDoubles := by
  cases h : Double.ofInt? sides with
  | none => simp [face, h]
  | some x =>
    simp only [face, h, Draw.fraction, Double.mul, Option.bind_some]
    have hf : ∀ n, Double.mulFinite ⟨false, k, -53⟩ x ≠ .undefined n := by
      intro n
      simp only [Double.mulFinite, Double.ofRatio]
      split <;> simp
    split <;> rename_i hp
    · simp [hp, Double.finite?]
    · simp [hp, Double.finite?]
    · exact absurd hp (hf _)

/-- Rolls one die. The draw is used up whatever becomes of it. -/
def rollDie (sides : Nat) (s : Source) : Except Fault Int × Source :=
  match s.draw? with
  | none => (.error .outOfDraws, s)
  | some (d, rest) => (d.bind (face sides), rest)

/-- The number of sides that a datum asks for: only a positive integer does. -/
def sides? : Datum → Option Nat
  | .int n => if 1 ≤ n then some n.toNat else none
  | _ => none

/-- Rolls one die with as many sides as a datum says. A datum that says nothing of the kind is
refused before a draw is taken. -/
def rollDatum (sides : Datum) (s : Source) : Except Fault Int × Source :=
  match sides? sides with
  | none => (.error (.dice (.invalidSides sides)), s)
  | some n => rollDie n s

theorem sides?_int {n : Int} (h : 1 ≤ n) : sides? (.int n) = some n.toNat := if_pos h

theorem rollDatum_natCast {n : Nat} (h : 0 < n) (s : Source) :
    rollDatum (.int n) s = rollDie n s := by
  have hone : (1 : Int) ≤ n := Int.ofNat_le.mpr h
  rw [rollDatum, sides?_int hone, Int.toNat_natCast]

/-- Rolls one die after another, each with its own sides, on one source. -/
def rollAll : List Datum → Source → List (Except Fault Int) × Source
  | [], s => ([], s)
  | sides :: others, s =>
    let (result, s) := rollDatum sides s
    let (results, s) := rollAll others s
    (result :: results, s)

/-! ## Many dice of one kind -/

/-- Faces rolled in order, what stopped the rolling early, and the source that remains. -/
structure Rolls where
  faces : List Int
  stopped : Option Fault
  rest : Source

namespace Rolls

/-- Rolls that come after the given faces. -/
def after (faces : List Int) (r : Rolls) : Rolls := { r with faces := faces ++ r.faces }

end Rolls

/-- Rolls `n` dice after those whose faces, last one first, are given. -/
def rollDiceAfter (sides : Nat) : Nat → Source → List Int → Rolls
  | 0, s, faces => ⟨faces.reverse, none, s⟩
  | n + 1, s, faces =>
    match rollDie sides s with
    | (.ok face, s) => rollDiceAfter sides n s (face :: faces)
    | (.error fault, s) => ⟨faces.reverse, some fault, s⟩

/-- Rolls `n` dice with the same number of sides. -/
def rollDice (sides n : Nat) (s : Source) : Rolls := rollDiceAfter sides n s []

theorem rollDiceAfter_eq (sides n : Nat) (s : Source) (faces : List Int) :
    rollDiceAfter sides n s faces = (rollDice sides n s).after faces.reverse := by
  induction n generalizing s faces with
  | zero => simp [rollDice, rollDiceAfter, Rolls.after]
  | succ n ih =>
    simp only [rollDice, rollDiceAfter]
    split
    · rw [ih, ih _ [_]]
      simp [Rolls.after, List.append_assoc]
    · simp [Rolls.after]

@[simp] theorem rollDice_zero (sides : Nat) (s : Source) :
    rollDice sides 0 s = ⟨[], none, s⟩ := rfl

/-- The first die, then the others. -/
theorem rollDice_succ (sides n : Nat) (s : Source) :
    rollDice sides (n + 1) s =
      match rollDie sides s with
      | (.ok face, s) => (rollDice sides n s).after [face]
      | (.error fault, s) => ⟨[], some fault, s⟩ := by
  simp only [rollDice, rollDiceAfter]
  split
  · rw [rollDiceAfter_eq]; rfl
  · rfl

end Dicebox
