import Dicebox.Proofs.Text.Digits

/-!
# Decimal integers as they are written

The loose reading takes spacing, underscores and digits of any script. The plain case is a sign, or
none, and a block of the ten ASCII digits that is not too long (`DecimalInteger`). Then

> **reading the text gives the value of the block, with the sign.**

Leading zeros are part of the block and count towards its length, though not towards its value.
-/

set_option autoImplicit false

namespace Dicebox.Text

/-- The sign in front of a number, if there is one. -/
inductive Sign
  | none
  | plus
  | minus
  deriving Repr, DecidableEq

/-- The characters of a sign. -/
def Sign.chars : Sign → List Char
  | .none => []
  | .plus => ['+']
  | .minus => ['-']

/-- A decimal integer in writing, with no more digits than are ever converted.

It keeps the digits and not their value, since the bound is one on digits: the same number with more
zeros in front of it may be too long to be read. -/
structure DecimalInteger where
  sign : Sign
  digits : List Char
  ne_nil : digits ≠ []
  isDigit : ∀ c ∈ digits, c.isDigit = true
  length_le : digits.length ≤ maxDigits

namespace DecimalInteger

/-- The text of an integer. -/
def text (d : DecimalInteger) : String := String.ofList (d.sign.chars ++ d.digits)

/-- The integer. -/
def value (d : DecimalInteger) : Int :=
  match d.sign with
  | .minus => -(Nat.ofDigitChars 10 d.digits 0 : Int)
  | .none | .plus => Nat.ofDigitChars 10 d.digits 0

end DecimalInteger

/-! ## Digits

The ten ASCII digits are the ones that every table of digits agrees on. Underscores are let through
by the reading, but only between digits, so a block without them is read digit by digit. -/

theorem decimalValue?_of_isDigit {c : Char} (hc : c.isDigit = true) :
    decimalValue? c = some (c.toNat - '0'.toNat) := by
  obtain ⟨hchar, hlt⟩ := digitChar_of_isDigit hc
  have hvalue := decimalValue?_digitChar (c.toNat - '0'.toNat) hlt
  rwa [hchar] at hvalue

theorem ne_underscore_of_isDigit {c : Char} (hc : c.isDigit = true) : c ≠ '_' := by
  rintro rfl
  cases hc

theorem looseDigits?_of_isDigit {digits : List Char} (hne : digits ≠ [])
    (hd : ∀ c ∈ digits, c.isDigit = true) :
    looseDigits? digits = some (digits.map fun c => c.toNat - '0'.toNat) := by
  induction digits with
  | nil => exact absurd rfl hne
  | cons c rest ih =>
    have hc := decimalValue?_of_isDigit (hd c (by simp))
    -- Whether an underscore may follow is decided by looking one character ahead.
    cases rest with
    | nil => rw [looseDigits?, hc]; rfl
    | cons c' rest =>
      have hrest := ih (by simp) fun d hmem => hd d (List.mem_cons_of_mem c hmem)
      have hc' : c' ≠ '_' := ne_underscore_of_isDigit (hd c' (by simp))
      rw [looseDigits?, hc, hrest]
      · rfl
      · exact List.cons_ne_nil c' rest
      · intro others hothers
        exact hc' (List.cons.inj hothers).1

theorem ofDigitValues_map (digits : List Char) :
    ofDigitValues (digits.map fun c => c.toNat - '0'.toNat) = Nat.ofDigitChars 10 digits 0 := by
  rw [ofDigitValues, List.foldl_map, Nat.ofDigitChars]

/-! ## The whole text

The text has nothing to be trimmed, its sign is split off, and the rest is the block. It remains
that the block is not too long, which is a field of the structure. -/

theorem trim_of_not_spacing {cs : List Char} (h : ∀ c ∈ cs, spacing.contains c = false) :
    trim cs = cs := by
  have hdrop : ∀ l : List Char, (∀ c ∈ l, spacing.contains c = false) →
      l.dropWhile spacing.contains = l := by
    intro l hl
    cases l with
    | nil => rfl
    | cons c rest => rw [List.dropWhile_cons, hl c (by simp), if_neg Bool.false_ne_true]
  rw [trim, hdrop cs h, hdrop cs.reverse fun c hc => h c (List.mem_reverse.mp hc),
    List.reverse_reverse]

theorem not_spacing_of_isDigit {c : Char} (hc : c.isDigit = true) :
    spacing.contains c = false := by
  have hall : ∀ n < 10, spacing.contains (Nat.digitChar n) = false := by decide +kernel
  obtain ⟨hchar, hlt⟩ := digitChar_of_isDigit hc
  rw [← hchar]
  exact hall _ hlt

namespace DecimalInteger

theorem not_spacing_of_mem_chars (sign : Sign) :
    ∀ c ∈ sign.chars, spacing.contains c = false := by
  intro c hc
  cases sign with
  | none => cases hc
  | plus | minus =>
    obtain rfl := List.mem_singleton.mp hc
    decide

theorem splitSign_chars (d : DecimalInteger) :
    splitSign (d.sign.chars ++ d.digits) = (decide (d.sign = .minus), d.digits) := by
  cases hsign : d.sign with
  | plus | minus => rfl
  | none =>
    obtain ⟨c, rest, hdigits⟩ := List.exists_cons_of_ne_nil d.ne_nil
    have hc : c.isDigit = true := d.isDigit c (by rw [hdigits]; simp)
    have hminus : c ≠ '-' := by
      rintro rfl
      cases hc
    have hplus : c ≠ '+' := by
      rintro rfl
      cases hc
    simp only [Sign.chars, List.nil_append, hdigits]
    unfold splitSign
    split
    · next h => exact absurd (List.cons.inj h).1 hminus
    · next h => exact absurd (List.cons.inj h).1 hplus
    · rfl

theorem readLoose_text (d : DecimalInteger) : readLoose d.text = .ok d.value := by
  have hspacing : ∀ c ∈ d.sign.chars ++ d.digits, spacing.contains c = false := by
    intro c hc
    obtain hsign | hdigit := List.mem_append.mp hc
    · exact not_spacing_of_mem_chars d.sign c hsign
    · exact not_spacing_of_isDigit (d.isDigit c hdigit)
  rw [readLoose, text, String.toList_ofList, trim_of_not_spacing hspacing, splitSign_chars]
  dsimp only
  rw [looseDigits?_of_isDigit d.ne_nil d.isDigit]
  dsimp only
  rw [if_neg (by rw [List.length_map]; exact Nat.not_lt.mpr d.length_le), ofDigitValues_map, value]
  cases d.sign <;> rfl

end DecimalInteger

end Dicebox.Text
