import Dicebox.Text.Numeral

/-!
# Digit blocks and the numbers they stand for

A digit block has a value, and a value has a canonical spelling, core's `Nat.toDigits 10`. The two
meet in `significant`:

> **the significant digits of a block are the canonical spelling of its value.**

So whatever is decided by counting the significant digits of a block is decided by the size of a
number, and core's `Nat.length_toDigits_le_iff` says at which powers of ten. The written form of a
limit is counted in the same way (`lt_pow_length_toString`, `length_toString_le`), except that a
minus sign is a character too; that one character is the slack in both bounds.
-/

set_option autoImplicit false

namespace Dicebox.Text

-- Powers of numbers are core's own, whatever else is imported.
attribute [local instance (high)] instPowNat

/-! ## From digits to a number and back

Digits are read from the left, and a number is spelled from the right. So the induction is on the
digits still to be read, with the number that has been read so far. -/

theorem digitChar_of_isDigit {c : Char} (hc : c.isDigit = true) :
    Nat.digitChar (c.toNat - '0'.toNat) = c ∧ c.toNat - '0'.toNat < 10 := by
  have hc' : '0'.toNat ≤ c.toNat ∧ c.toNat ≤ '9'.toNat := by
    simpa [Char.isDigit, UInt32.le_iff_toNat_le] using hc
  have h0 : '0'.toNat = 48 := rfl
  have h9 : '9'.toNat = 57 := rfl
  refine ⟨?_, by omega⟩
  apply Char.toNat_inj.mp
  rw [Nat.toNat_digitChar_of_lt_ten (by omega)]
  omega

/-- Digits after the spelling of a positive number make the spelling of a number.

Of zero this would be false: a zero in front of other digits is no part of any spelling. -/
theorem toDigits_append {n : Nat} (hn : 0 < n) {digits : List Char}
    (hd : ∀ c ∈ digits, c.isDigit = true) :
    Nat.toDigits 10 n ++ digits = Nat.toDigits 10 (Nat.ofDigitChars 10 digits n) := by
  induction digits generalizing n with
  | nil => simp
  | cons c rest ih =>
    obtain ⟨hchar, hlt⟩ := digitChar_of_isDigit (hd c (by simp))
    have hstep := Nat.toDigits_append_toDigits (b := 10) (by decide) hn hlt
    rw [Nat.toDigits_of_lt_base hlt, hchar] at hstep
    calc Nat.toDigits 10 n ++ c :: rest
        = (Nat.toDigits 10 n ++ [c]) ++ rest := by simp
      _ = Nat.toDigits 10 (10 * n + (c.toNat - '0'.toNat)) ++ rest := by rw [hstep]
      _ = Nat.toDigits 10 (Nat.ofDigitChars 10 (c :: rest) n) := by
        rw [Nat.ofDigitChars_cons]
        exact ih (by omega) fun d hm => hd d (List.mem_cons_of_mem _ hm)

theorem eq_toDigits_of_ne_zero {c : Char} {rest : List Char} (hc : c ≠ '0')
    (hd : ∀ d ∈ c :: rest, d.isDigit = true) :
    c :: rest = Nat.toDigits 10 (Nat.ofDigitChars 10 (c :: rest) 0) := by
  obtain ⟨hchar, hlt⟩ := digitChar_of_isDigit (hd c (by simp))
  have hpos : 0 < c.toNat - '0'.toNat := by
    rcases Nat.eq_zero_or_pos (c.toNat - '0'.toNat) with h | h
    · rw [h] at hchar
      exact absurd hchar.symm hc
    · exact h
  have happ := toDigits_append hpos fun d hm => hd d (List.mem_cons_of_mem c hm)
  rw [Nat.toDigits_of_lt_base hlt, hchar] at happ
  rw [Nat.ofDigitChars_cons, Nat.mul_zero, Nat.zero_add]
  exact happ

/-- The significant digits of a block are the canonical spelling of its value.

The block may be all zeros, and then one of them is significant, as zero is spelled with one. -/
theorem significant_eq_toDigits {digits : List Char} (hd : ∀ c ∈ digits, c.isDigit = true) :
    significant digits = Nat.toDigits 10 (Nat.ofDigitChars 10 digits 0) := by
  rw [← ofDigitChars_dropZeros digits, significant]
  have hhead := List.head?_dropWhile_not (· == '0') digits
  have hsub : ∀ c ∈ digits.dropWhile (· == '0'), c.isDigit = true :=
    fun c hc => hd c ((List.dropWhile_sublist _).subset hc)
  cases hdrop : digits.dropWhile (· == '0') with
  | nil => exact Nat.toDigits_zero 10 |>.symm
  | cons c rest =>
    rw [hdrop] at hhead hsub
    exact eq_toDigits_of_ne_zero (by simpa using hhead) hsub

/-! ## The length of a written integer

A limit is compared with a number by comparing the length of what is written, sign included. What is
needed is only how far such a comparison can be wrong. -/

theorem toList_toString (n : Int) :
    (toString n).toList = (if n < 0 then ['-'] else []) ++ Nat.toDigits 10 n.natAbs := by
  rw [Int.toString_eq_repr, Int.repr_eq_if]
  by_cases h : 0 ≤ n
  · have habs : n.toNat = n.natAbs := by omega
    rw [if_pos h, if_neg (by omega), Nat.toList_repr, habs, List.nil_append]
  · have habs : (-n).toNat = n.natAbs := by omega
    rw [if_neg h, if_pos (by omega), String.toList_append, Nat.toList_repr, habs]
    rfl

theorem toDigits_inj {m n : Nat} : Nat.toDigits 10 m = Nat.toDigits 10 n ↔ m = n := by
  constructor
  · intro h
    have hread := congrArg (Nat.ofDigitChars 10 · 0) h
    simpa only [Nat.ofDigitChars_ten_toDigits] using hread
  · rintro rfl
    rfl

theorem minus_not_mem_toDigits (n : Nat) : '-' ∉ Nat.toDigits 10 n := by
  intro h
  have hdigit := Nat.isDigit_of_mem_toDigits (by decide) (by decide) h
  exact absurd hdigit (by decide)

theorem toString_inj {m n : Int} : toString m = toString n ↔ m = n := by
  refine ⟨fun h => ?_, fun h => by rw [h]⟩
  have hlist := congrArg String.toList h
  rw [toList_toString, toList_toString] at hlist
  -- Numbers of different sign differ in the minus sign, which is no digit.
  by_cases hm : m < 0 <;> by_cases hn : n < 0
  · rw [if_pos hm, if_pos hn, List.append_cancel_left_eq, toDigits_inj] at hlist
    omega
  · rw [if_pos hm, if_neg hn, List.nil_append] at hlist
    exact absurd (hlist ▸ List.mem_cons_self) (minus_not_mem_toDigits n.natAbs)
  · rw [if_neg hm, if_pos hn, List.nil_append] at hlist
    exact absurd (hlist ▸ List.mem_cons_self) (minus_not_mem_toDigits m.natAbs)
  · rw [if_neg hm, if_neg hn, List.nil_append, List.nil_append, toDigits_inj] at hlist
    omega

theorem length_toString_pos (n : Int) : 0 < (toString n).length := by
  rw [← String.length_toList, toList_toString, List.length_append]
  exact Nat.add_pos_right _ Nat.length_toDigits_pos

theorem length_toDigits_le (n : Nat) {k : Nat} (hk : 0 < k) (h : n < 10 ^ k) :
    (Nat.toDigits 10 n).length ≤ k :=
  (Nat.length_toDigits_le_iff (by decide) hk).mpr h

theorem lt_pow_length_toString (n : Int) : n < (10 ^ (toString n).length : Nat) := by
  have hlt := (Nat.length_toDigits_le_iff (b := 10) (by decide)
    Nat.length_toDigits_pos).mp (Nat.le_refl (Nat.toDigits 10 n.natAbs).length)
  have hlen : (Nat.toDigits 10 n.natAbs).length ≤ (toString n).length := by
    rw [← String.length_toList, toList_toString, List.length_append]
    exact Nat.le_add_left _ _
  have hmono := Nat.pow_le_pow_right (n := 10) (by decide) hlen
  exact Int.lt_of_le_of_lt Int.le_natAbs (Int.ofNat_lt.mpr (Nat.lt_of_lt_of_le hlt hmono))

theorem length_toString_le (n : Int) {k : Nat} (hk : 0 < k) (h : n.natAbs < 10 ^ k) :
    (toString n).length ≤ k + 1 := by
  have hdigits := length_toDigits_le n.natAbs hk h
  rw [← String.length_toList, toList_toString, List.length_append]
  split
  · simp only [List.length_singleton]; omega
  · simp only [List.length_nil]; omega

/-! ## What can be written -/

theorem isSome_write?_iff {n : Int} : (write? n).isSome ↔ n.natAbs < 10 ^ maxDigits := by
  unfold write?
  split
  · next h => exact ⟨fun _ => h, fun _ => rfl⟩
  · next h =>
    refine ⟨fun hsome => ?_, fun hlt => absurd hlt h⟩
    cases hsome

theorem write?_of_isSome {n : Int} (h : (write? n).isSome) : write? n = some (toString n) := by
  rw [write?, if_pos (isSome_write?_iff.mp h)]

theorem eq_of_write? {n : Int} {written : String} (h : write? n = some written) :
    written = toString n := by
  have hsome := write?_of_isSome (n := n) (by rw [h]; rfl)
  rw [h] at hsome
  exact Option.some.inj hsome

theorem isSome_write?_of_le {m n : Int} (h : m.natAbs ≤ n.natAbs) (hn : (write? n).isSome) :
    (write? m).isSome :=
  isSome_write?_iff.mpr (Nat.lt_of_le_of_lt h (isSome_write?_iff.mp hn))

end Dicebox.Text
