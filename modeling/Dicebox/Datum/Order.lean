import Dicebox.Datum

/-!
# Comparing data

Data compare within their kind. Numbers of all sorts are one kind, truth values among them as zero
and one, and an integer compares with a double exactly, whatever its size. Texts compare by their
characters, lists by the first items that differ. Everything else, and whatever is of two kinds,
does not compare (`Datum.precedes?`).

What is not a number compares with every number and precedes none of them.
-/

set_option autoImplicit false

namespace Dicebox

open Number

/-! ## Numbers -/

/-- A number: an integer of any size, or a double. -/
inductive Numeric
  | int (n : Int)
  | real (x : Double)
  deriving Repr, DecidableEq, Inhabited

namespace Numeric

/-- How an integer compares with a double. -/
def orderInt? (n : Int) : Double → Option Ordering
  | .finite x => some (compare (n * x.den) x.signedNum)
  | .infinite negative => some (if negative then .gt else .lt)
  | .undefined _ => none

/-- How two numbers compare. -/
def order? : Numeric → Numeric → Option Ordering
  | .int a, .int b => some (compare a b)
  | .int a, .real y => orderInt? a y
  | .real x, .int b => (orderInt? b x).map Ordering.swap
  | .real x, .real y => x.order? y

/-- Whether a number is below another one. -/
def lt (a b : Numeric) : Bool := a.order? b == some .lt

/-- Whether a number is at most another one. -/
def le (a b : Numeric) : Bool := a.order? b == some .lt || a.order? b == some .eq

/-- On integers the order is that of the integers. -/
theorem lt_int (a b : Int) : lt (.int a) (.int b) = decide (a < b) := by
  simp only [lt, order?]
  rcases Int.lt_trichotomy a b with h | h | h
  · simp [compare, compareOfLessAndEq, h]
  · subst h; simp [compare, compareOfLessAndEq]
  · have h' : ¬ a < b := by omega
    have h'' : a ≠ b := by omega
    simp [compare, compareOfLessAndEq, h', h'']

theorem le_int (a b : Int) : le (.int a) (.int b) = decide (a ≤ b) := by
  simp only [le, order?]
  rcases Int.lt_trichotomy a b with h | h | h
  · have h' : a ≤ b := by omega
    simp [compare, compareOfLessAndEq, h, h']
  · subst h; simp [compare, compareOfLessAndEq]
  · have h' : ¬ a < b := by omega
    have h'' : a ≠ b := by omega
    have h3 : ¬ a ≤ b := by omega
    simp [compare, compareOfLessAndEq, h', h'', h3]

end Numeric

namespace Datum

/-- A datum as a number, if it is one. -/
def numeric? : Datum → Option Numeric
  | .int n => some (.int n)
  | .bool b => some (.int (if b then 1 else 0))
  | .float x => some (.real x)
  | .null | .text _ | .list _ | .table _ => none

/-! ## Equality -/

/-- Whether two data that hold no others are the same. Numbers are the same if they are equal, of
whichever sort, and all that is not a number is the same. -/
def sameScalar (a b : Datum) : Bool :=
  match a, b with
  | .null, .null => true
  | .text s, .text t => s == t
  | .float (.undefined _), .float (.undefined _) => true
  | _, _ =>
    match a.numeric?, b.numeric? with
    | some x, some y => x.order? y == some .eq
    | _, _ => false

mutual

/-- Whether two data are the same. -/
def same : Datum → Datum → Bool
  | .list as, .list bs => sameItems as bs
  | .table as, .table bs => sameEntries as bs
  | a, b => sameScalar a b

def sameItems : List Datum → List Datum → Bool
  | [], [] => true
  | a :: as, b :: bs => same a b && sameItems as bs
  | _, _ => false

def sameEntries : List (String × Datum) → List (String × Datum) → Bool
  | [], [] => true
  | (k, a) :: as, (l, b) :: bs => k == l && same a b && sameEntries as bs
  | _, _ => false

end

/-! ## Order -/

/-- Whether one datum that is no list comes before another, or, unless the order is to be strict,
with it. `none` if they do not compare. -/
def precedesScalar? (strict : Bool) (a b : Datum) : Option Bool :=
  match a, b with
  | .text s, .text t => some (if strict then s < t else s ≤ t)
  | _, _ =>
    match a.numeric?, b.numeric? with
    | some x, some y => some (if strict then x.lt y else x.le y)
    | _, _ => none

mutual

/-- Whether one datum comes before another, or, unless the order is to be strict, with it. `none` if
they do not compare. -/
def precedes? (strict : Bool) : Datum → Datum → Option Bool
  | .list as, .list bs => precedesItems? strict as bs
  | a, b => precedesScalar? strict a b

def precedesItems? (strict : Bool) : List Datum → List Datum → Option Bool
  | [], [] => some !strict
  | [], _ :: _ => some true
  | _ :: _, [] => some false
  | a :: as, b :: bs => if same a b then precedesItems? strict as bs else precedes? strict a b

end

/-- Whether one datum is below another. -/
def below? (a b : Datum) : Option Bool := precedes? true a b

/-- Whether one datum is at most another. -/
def atMost? (a b : Datum) : Option Bool := precedes? false a b

@[simp] theorem below?_int (a b : Int) : below? (.int a) (.int b) = some (decide (a < b)) := by
  simp [below?, precedes?, precedesScalar?, numeric?, Numeric.lt_int]

@[simp] theorem atMost?_int (a b : Int) : atMost? (.int a) (.int b) = some (decide (a ≤ b)) := by
  simp [atMost?, precedes?, precedesScalar?, numeric?, Numeric.le_int]

end Datum

end Dicebox
