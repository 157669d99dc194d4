import Dicebox.Text.CharClass

/-!
# Blank characters

Two sets, which differ in exactly four control characters. A dice notation may be broken up by
any character of `blank`; it is read with all of them removed (`dropBlanks`). A number that
arrives as text may only be surrounded by characters of `spacing`, Unicode's `White_Space`
property, which leaves out the information separators U+001C to U+001F.
-/

set_option autoImplicit false

namespace Dicebox.Text

/-- Unicode's `White_Space` property. -/
def spacing : CharClass where
  ranges := [(0x09, 0x0D), (0x20, 0x20), (0x85, 0x85), (0xA0, 0xA0), (0x1680, 0x1680),
    (0x2000, 0x200A), (0x2028, 0x2029), (0x202F, 0x202F), (0x205F, 0x205F), (0x3000, 0x3000)]

/-- The characters that may be strewn over a notation: `spacing` and the four information
separators. -/
def blank : CharClass where
  ranges := (0x1C, 0x1F) :: spacing.ranges

/-- The text without its blank characters, wherever they stand. -/
def dropBlanks (cs : List Char) : List Char :=
  cs.filter fun c => !blank.contains c

/-- The text without the spacing at its two ends. -/
def trim (cs : List Char) : List Char :=
  ((cs.dropWhile spacing.contains).reverse.dropWhile spacing.contains).reverse

theorem dropBlanks_append (a b : List Char) :
    dropBlanks (a ++ b) = dropBlanks a ++ dropBlanks b := by
  simp [dropBlanks]

/-- Dropping blanks twice is dropping them once. -/
theorem dropBlanks_dropBlanks (cs : List Char) : dropBlanks (dropBlanks cs) = dropBlanks cs := by
  simp [dropBlanks]

theorem not_blank_of_mem_dropBlanks {cs : List Char} {c : Char} (h : c ∈ dropBlanks cs) :
    blank.contains c = false := by
  simpa [dropBlanks] using (List.mem_filter.mp h).2

/-- Everything core calls white space is blank. -/
theorem blank_of_isWhitespace {c : Char} (h : c.isWhitespace = true) :
    blank.contains c = true := by
  simp only [Char.isWhitespace, Bool.or_eq_true, decide_eq_true_eq] at h
  rcases h with ((h | h) | h) | h <;> subst h <;> decide

end Dicebox.Text
