import Dicebox.Text.Blank

/-!
# Numerals — integers as decimal text

Three readings of digits meet in this library, and they share the definitions below.

* A **digit block** of a notation is a run of the ten ASCII digits. Its value is core's
  `Nat.ofDigitChars 10`, its canonical spelling core's `Nat.toDigits 10`; `significant` takes the
  leading zeros off a block without touching its value (`ofDigitChars_significant`).
* A **loose numeral** (`readLoose`) is what a person may have typed into a settings object: spacing
  around it, a sign, digits of any script, single underscores between digits.
* Either way a conversion between text and number is only carried out up to `maxDigits` digits. A
  longer one is refused, in both directions, because its cost grows faster than its length.
-/

set_option autoImplicit false

namespace Dicebox.Text

-- Powers of numbers are core's own, whatever else is imported.
attribute [local instance (high)] instPowNat

/-! ## The longest numeral -/

/-- The most digits that are ever converted to a number, or written for one. -/
def maxDigits : Nat := 4300

/-- Why a text is not read as a number. -/
inductive NumeralError
  /-- The text is not a numeral. -/
  | malformed
  /-- The numeral has more than `maxDigits` digits. -/
  | tooLong
  deriving Repr, DecidableEq

/-- The numeral of a number, unless it would have more than `maxDigits` digits. The sign does not
count. -/
def write? (n : Int) : Option String :=
  if n.natAbs < 10 ^ maxDigits then some (toString n) else none

/-! ## Digit blocks -/

/-- A digit block without its leading zeros; a block of zeros keeps one. -/
def significant (digits : List Char) : List Char :=
  match digits.dropWhile (· == '0') with
  | [] => ['0']
  | kept => kept

/-- The value of a digit block that is short enough to be converted. -/
def readDigits (digits : List Char) : Except NumeralError Nat :=
  if digits.length ≤ maxDigits then .ok (Nat.ofDigitChars 10 digits 0) else .error .tooLong

/-- Leading zeros carry no value. -/
theorem ofDigitChars_dropZeros (digits : List Char) :
    Nat.ofDigitChars 10 (digits.dropWhile (· == '0')) 0 = Nat.ofDigitChars 10 digits 0 := by
  induction digits with
  | nil => rfl
  | cons c rest ih =>
    by_cases hc : c = '0'
    · subst hc
      simpa [Nat.ofDigitChars_cons] using ih
    · simp [hc]

/-- Taking leading zeros off keeps the value. -/
theorem ofDigitChars_significant (digits : List Char) :
    Nat.ofDigitChars 10 (significant digits) 0 = Nat.ofDigitChars 10 digits 0 := by
  rw [← ofDigitChars_dropZeros digits, significant]
  split
  · next h => rw [h]; decide
  · rfl

theorem significant_ne_nil (digits : List Char) : significant digits ≠ [] := by
  rw [significant]
  split
  · simp
  · next h => exact h

/-! ## Loose numerals -/

/-- The zeros of the scripts that write decimal numbers; the nine digits above each follow it. -/
def decimalZeros : List Nat := [
    0x30, 0x660, 0x6F0, 0x7C0, 0x966, 0x9E6, 0xA66, 0xAE6, 0xB66, 0xBE6, 0xC66, 0xCE6, 0xD66,
    0xDE6, 0xE50, 0xED0, 0xF20, 0x1040, 0x1090, 0x17E0, 0x1810, 0x1946, 0x19D0, 0x1A80, 0x1A90,
    0x1B50, 0x1BB0, 0x1C40, 0x1C50, 0xA620, 0xA8D0, 0xA900, 0xA9D0, 0xA9F0, 0xAA50, 0xABF0,
    0xFF10, 0x104A0, 0x10D30, 0x11066, 0x110F0, 0x11136, 0x111D0, 0x112F0, 0x11450, 0x114D0,
    0x11650, 0x116C0, 0x11730, 0x118E0, 0x11950, 0x11C50, 0x11D50, 0x11DA0, 0x16A60, 0x16AC0,
    0x16B50, 0x1D7CE, 0x1D7D8, 0x1D7E2, 0x1D7EC, 0x1D7F6, 0x1E140, 0x1E2F0, 0x1E950, 0x1FBF0]

/-- The value of a decimal digit of any script. -/
def decimalValue? (c : Char) : Option Nat :=
  (decimalZeros.find? fun first => first ≤ c.toNat && c.toNat < first + 10).map (c.toNat - ·)

/-- The digit values of a run of digits in which single underscores may stand between two digits.
`none` if the run is empty or holds anything else. -/
def looseDigits? : List Char → Option (List Nat)
  | [] => none
  | [c] => (decimalValue? c).map ([·])
  | c :: '_' :: rest => do
    let d ← decimalValue? c
    let ds ← looseDigits? rest
    return d :: ds
  | c :: rest => do
    let d ← decimalValue? c
    let ds ← looseDigits? rest
    return d :: ds

/-- The number that a list of decimal digits stands for, most significant first. -/
def ofDigitValues (ds : List Nat) : Nat :=
  ds.foldl (fun n d => 10 * n + d) 0

/-- Splits a sign off the front of a text; without one the text is positive. -/
def splitSign : List Char → Bool × List Char
  | '-' :: rest => (true, rest)
  | '+' :: rest => (false, rest)
  | cs => (false, cs)

/-- Reads a loose numeral. -/
def readLoose (s : String) : Except NumeralError Int :=
  let (negative, body) := splitSign (trim s.toList)
  match looseDigits? body with
  | none => .error .malformed
  | some ds =>
    if maxDigits < ds.length then .error .tooLong
    else
      let n : Int := ofDigitValues ds
      .ok (if negative then -n else n)

/-- The first of the scripts' digits are the ASCII ones. -/
theorem decimalValue?_digitChar (n : Nat) (h : n < 10) :
    decimalValue? (Nat.digitChar n) = some n := by
  have : ∀ n < 10, decimalValue? (Nat.digitChar n) = some n := by decide +kernel
  exact this n h

end Dicebox.Text
