/-!
# Rounding a ratio — to the nearest, and on a half to the even neighbour

Every number in this library that is not an integer starts as a ratio of two naturals: a draw
scaled by a side count, a count divided by a total, a percentage cut to two places. All of them are
rounded by the one function `divHalfEven`, whose law is that the result is never more than half a
unit away (`two_mul_divHalfEven_le`, `le_two_mul_divHalfEven`) and exact where it can be
(`divHalfEven_mul`).
-/

set_option autoImplicit false

namespace Dicebox.Number

/-- The integer nearest to `num / den`; of two equally near ones, the even one. -/
def divHalfEven (num den : Nat) : Nat :=
  let quotient := num / den
  let remainder := num % den
  if 2 * remainder < den then quotient
  else if den < 2 * remainder then quotient + 1
  else if quotient % 2 = 0 then quotient
  else quotient + 1

/-- The result is at most half a unit too large. -/
theorem two_mul_divHalfEven_le (num den : Nat) :
    2 * (den * divHalfEven num den) ≤ 2 * num + den := by
  have h := Nat.div_add_mod num den
  simp only [divHalfEven]
  split
  · omega
  · split
    · rw [Nat.mul_add, Nat.mul_one]; omega
    · split
      · omega
      · rw [Nat.mul_add, Nat.mul_one]; omega

/-- The result is at most half a unit too small. -/
theorem le_two_mul_divHalfEven (num den : Nat) (hden : 0 < den) :
    2 * num ≤ 2 * (den * divHalfEven num den) + den := by
  have h := Nat.div_add_mod num den
  have hlt := Nat.mod_lt num hden
  simp only [divHalfEven]
  split
  · omega
  · split
    · rw [Nat.mul_add, Nat.mul_one]; omega
    · split
      · omega
      · rw [Nat.mul_add, Nat.mul_one]; omega

/-- A ratio that is an integer is left as it is. -/
theorem divHalfEven_mul (n den : Nat) (hden : 0 < den) : divHalfEven (n * den) den = n := by
  simp [divHalfEven, hden]

end Dicebox.Number
