/-!
# Ends of lines

A line may end in a line feed, in a carriage return, or in both. In a text that is read from a file
all of these become a line feed.
-/

set_option autoImplicit false

namespace Dicebox.Text

/-- The text with a line feed at the end of each line. -/
def unifyLineEnds : List Char → List Char
  | '\r' :: '\n' :: rest => '\n' :: unifyLineEnds rest
  | '\r' :: rest => '\n' :: unifyLineEnds rest
  | c :: rest => c :: unifyLineEnds rest
  | [] => []

/-- No carriage return is left. -/
theorem not_mem_unifyLineEnds (cs : List Char) : '\r' ∉ unifyLineEnds cs := by
  induction cs using unifyLineEnds.induct with
  | case1 rest ih => simpa [unifyLineEnds] using ih
  | case2 rest h ih => simpa [unifyLineEnds] using ih
  | case3 c rest h h' ih =>
    have hc : c ≠ '\r' := fun e => h' e
    simp [unifyLineEnds, ih, Ne.symm hc]
  | case4 => simp [unifyLineEnds]

end Dicebox.Text
