import Dicebox.Fault
import Dicebox.OrderedMap

/-!
# `Name` — what things are called

Counters, histograms, commands and sources are called by names, and whoever names one may use any
datum that holds no others. Names are told apart by what they stand for and not by how they are
written: `1`, `1.0` and `true` are one name, and `"1"` is another. `Name.key` is what a name stands
for, and two names are the same (`==`) if their keys are equal. A thing goes by the name under which
it came up first.

`Name.of?` makes a name of a datum. For names that are texts all this comes down to equality:
`text_beq`.
-/

set_option autoImplicit false

namespace Dicebox

open Number

/-- A name. -/
inductive Name
  | null
  | bool (b : Bool)
  | int (n : Int)
  | float (x : Double)
  | text (s : String)
  deriving Repr, Inhabited

namespace Name

/-- What a name stands for. -/
inductive Key
  | null
  | number (q : Rat)
  | infinite (negative : Bool)
  | undefined
  | text (s : String)
  deriving DecidableEq

def key : Name → Key
  | .null => .null
  | .bool b => .number (if b then 1 else 0)
  | .int n => .number n
  | .float (.finite x) => .number x.toRat
  | .float (.infinite negative) => .infinite negative
  | .float (.undefined _) => .undefined
  | .text s => .text s

instance : BEq Name := ⟨fun a b => decide (a.key = b.key)⟩

theorem beq_iff {a b : Name} : (a == b) = true ↔ a.key = b.key := decide_eq_true_iff

instance : EquivBEq Name where
  rfl := beq_iff.2 rfl
  symm h := beq_iff.2 (beq_iff.1 h).symm
  trans h h' := beq_iff.2 ((beq_iff.1 h).trans (beq_iff.1 h'))

theorem text_beq (s t : String) : (text s == text t) = (s == t) := by
  rw [Bool.eq_iff_iff, beq_iff, beq_iff_eq]
  simp [key]

/-- Only a text is the same name as a text. -/
theorem eq_text_of_beq {name : Name} {s : String} (h : (name == text s) = true) :
    name = text s := by
  have hkey := beq_iff.1 h
  cases name with
  | text t => exact congrArg text (Key.text.inj hkey)
  | float x => cases x <;> exact Key.noConfusion hkey
  | null => exact Key.noConfusion hkey
  | bool b => exact Key.noConfusion hkey
  | int n => exact Key.noConfusion hkey

instance : Coe String Name := ⟨.text⟩

/-! ## Data as names -/

/-- A name as a datum. -/
def datum : Name → Datum
  | .null => .null
  | .bool b => .bool b
  | .int n => .int n
  | .float x => .float x
  | .text s => .text s

/-- The datum as a name. What holds other data is none. -/
def of? : Datum → Except Fault Name
  | .null => .ok .null
  | .bool b => .ok (.bool b)
  | .int n => .ok (.int n)
  | .float x => .ok (.float x)
  | .text s => .ok (.text s)
  | .list items => .error (.notKey (Datum.list items).kind)
  | .table entries => .error (.notKey (Datum.table entries).kind)

theorem of?_datum (n : Name) : of? n.datum = .ok n := by cases n <;> rfl

/-- A name as a message shows it. -/
def display (n : Name) : String := n.datum.display

end Name

end Dicebox
