/-!
# Character classes — sorted ranges of code points

Every question this library asks about a single character ("is it blank?", "can it be shown as it
is?", "which decimal digit is it?") is a question about a set of code points, and every such set
is written the same way: as ranges in increasing order. The sets themselves live beside the rule
that needs them; this module only says what membership means.
-/

set_option autoImplicit false

namespace Dicebox.Text

/-- A set of characters, given by inclusive ranges of code points. -/
structure CharClass where
  ranges : List (Nat × Nat)

namespace CharClass

/-- Membership: some range holds the character's code point. -/
def contains (cls : CharClass) (c : Char) : Bool :=
  cls.ranges.any fun r => r.1 ≤ c.toNat && c.toNat ≤ r.2

theorem contains_iff {cls : CharClass} {c : Char} :
    cls.contains c = true ↔ ∃ r ∈ cls.ranges, r.1 ≤ c.toNat ∧ c.toNat ≤ r.2 := by
  simp [contains]

end CharClass

end Dicebox.Text
