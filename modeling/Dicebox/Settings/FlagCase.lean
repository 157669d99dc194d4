import Dicebox.Settings.Flags
import Dicebox.Text.Blank
import Dicebox.Text.Lowercase

/-!
# Flags in any case

Where case does not matter, an argument is taken for the flag that it is in lower case, if there is
one; its value stays as it is (`foldFlag`).

How a flag begins is looked for as a pattern of one place after another, of which the last may stand
there twice (`Start`). The first character of the mark is put behind a backslash for that. Signs
then stand for themselves, but a letter is the name of something else, or of nothing
(`escapedSlot`). Other characters of the mark are as they are, so that a sign among them may not
even make a pattern (`plainSlot`).

A flag that is known in this very spelling need not change: `foldFlag_eq_of_lower`.
-/

set_option autoImplicit false

namespace Dicebox.Arguments

/-- What may stand at a place of a text. -/
inductive Slot
  | char (c : Char)
  /-- A letter, a digit or an underscore. -/
  | wordChar
  /-- Anything but the end of a line. -/
  | anyChar
  /-- Nothing that a flag can begin with. -/
  | nothing
  deriving Repr, DecidableEq

/-- Whether a character may stand at a place. -/
def Slot.holds : Slot → Char → Bool
  | .char c, d => d == c
  | .wordChar, d => d.isAlphanum || d == '_'
  | .anyChar, d => d != '\n'
  | .nothing, _ => false

/-- How flags begin. -/
structure Start where
  slots : List Slot
  deriving Repr, DecidableEq

namespace Start

/-- The letters that are names of control characters behind a backslash. -/
def controls : List (Char × Char) :=
  [('0', '\x00'), ('a', '\x07'), ('f', '\x0c'), ('n', '\n'), ('r', '\r'), ('t', '\t'),
    ('v', '\x0b')]

/-- The letters that are names of places without a character. They cannot stand twice. -/
def edges : List Char := ['A', 'B', 'Z', 'b']

/-- The letters that are names of characters of some kind that no flag begins with. -/
def kinds : List Char := ['D', 'S', 'W', 'd', 's']

/-- What a character stands for behind a backslash. -/
def escapedSlot (c : Char) (alone : Bool) : Option Slot :=
  match controls.lookup c with
  | some control => some (.char control)
  | none =>
    if c = 'w' then some .wordChar
    else if kinds.contains c then some .nothing
    else if edges.contains c then if alone then none else some .nothing
    else if c.isAlphanum then none
    else some (.char c)

/-- The signs that say how often something stands there, where one cannot be, or what else may. -/
def operators : List Char := ['*', '+', '?', '(', ')', '|', '^', '$']

/-- What a character stands for. -/
def plainSlot (c : Char) (last : Bool) : Option Slot :=
  if operators.contains c then if last then none else some .nothing
  else if c = '[' ∨ c = '\\' then some .nothing
  else if c = '.' then some .anyChar
  else some (.char c)

/-- What characters stand for, one after another. -/
def plainSlots? : List Char → Option (List Slot)
  | [] => some []
  | c :: rest => do return (← plainSlot c rest.isEmpty) :: (← plainSlots? rest)

/-- How flags with a mark begin. -/
def ofMark? : List Char → Option Start
  | [] => none
  | c :: rest => do return ⟨(← escapedSlot c rest.isEmpty) :: (← plainSlots? rest)⟩

/-- How much of a text is the beginning of a flag, if it begins so. -/
def length? : List Slot → List Char → Option Nat
  | [], _ => some 0
  | slot :: slots, c :: cs =>
    if slot.holds c then (length? slots cs).map (· + 1) else none
  | _ :: _, [] => none

/-- Whether a character can belong to the name of a flag. -/
def belongs (c : Char) : Bool := !(c == '=' || Text.blank.contains c)

/-- How long a flag is at the beginning of a text. After its beginning it has a name. -/
def flagLength? (s : Start) (cs : List Char) : Option Nat := do
  let front ← length? s.slots cs
  let named (front : Nat) : Option Nat :=
    match ((cs.drop front).takeWhile belongs).length with
    | 0 => none
    | n => some (front + n)
  let twice := s.slots.getLast?.any fun slot => (cs[front]?).any slot.holds
  if twice then (named (front + 1)).or (named front) else named front

end Start

/-- An argument as the flag that it is in lower case, if that is one of those known. What follows it
on the same line is its value. -/
def foldFlag (start : Start) (known : List String) (argument : String) : String :=
  let cs := argument.toList
  match start.flagLength? cs with
  | none => argument
  | some n =>
    let flag := Text.lower (String.ofList (cs.take n))
    if known.contains flag then flag ++ String.ofList ((cs.drop n).takeWhile (· ≠ '\n'))
    else argument

/-- An argument of a single line that begins with a flag in lower case stays as it is. -/
theorem foldFlag_eq_of_lower (start : Start) (known : List String) (argument : String)
    (lower : ∀ n, start.flagLength? argument.toList = some n →
      Text.lower (String.ofList (argument.toList.take n)) = String.ofList (argument.toList.take n))
    (line : '\n' ∉ argument.toList) : foldFlag start known argument = argument := by
  have rest (n : Nat) :
      (argument.toList.drop n).takeWhile (· ≠ '\n') = argument.toList.drop n := by
    have inLine : ∀ c ∈ argument.toList.drop n, c ≠ '\n' :=
      fun c hc e => line (e ▸ List.mem_of_mem_drop hc)
    generalize argument.toList.drop n = cs at inLine
    induction cs with
    | nil => rfl
    | cons c cs ih => simp_all
  cases h : start.flagLength? argument.toList with
  | none => simp [foldFlag, h]
  | some n =>
    simp only [foldFlag, h, lower n h, rest]
    split
    · apply String.ext
      simp
    · rfl

end Dicebox.Arguments
