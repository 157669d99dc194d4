import Dicebox.Proofs.Text.Digits
import Dicebox.Throw.Grammar
import Dicebox.Throw.Limits

/-!
# What a limit decides

A digit block is held against its limit by its length first and converted only if it is not too
long. Here that shortcut is taken out again: on integer limits `Limits.bounded` compares the value
of the block with the limit and does nothing else,

> **a block is over a limit exactly if its value is above it**,

and neither leading zeros nor the way in which the comparison came out can be seen in the answer.
What is seen is the amount that the mistake reports, and that is a function of the value as well
(`Limits.reported`).

The shortcut is there for the sake of what is not done: no block of more digits than the limit has
characters is ever converted. A function does not tell what it has computed on the way, so this is
said of the conversion as a parameter (`Limits.boundedBy`): one that fails on every longer block, or
answers anything else, would do as well (`boundedBy_congr`).

For that a limit has to be written in no more characters than a block may have digits to be
converted (`Text.IsComparable`), and all limits of fewer than `Text.maxDigits` digits are
(`Text.IsShort`). One of exactly so many digits can still be written, but with a minus sign before
it a block of one digit more than can be converted would pass the count.
-/

set_option autoImplicit false

namespace Dicebox

-- Powers of numbers are core's own, whatever else is imported.
attribute [local instance (high)] instPowNat

namespace Text

/-- An integer of fewer decimal digits than are ever converted. The sign does not count. -/
def IsShort (n : Int) : Prop := (Nat.toDigits 10 n.natAbs).length < maxDigits

instance (n : Int) : Decidable (IsShort n) := inferInstanceAs (Decidable (_ < maxDigits))

theorem IsShort.natAbs_lt {n : Int} (h : IsShort n) : n.natAbs < 10 ^ (maxDigits - 1) := by
  have hle : (Nat.toDigits 10 n.natAbs).length ≤ maxDigits - 1 := Nat.le_sub_one_of_lt h
  exact (Nat.length_toDigits_le_iff (by decide) (by decide)).mp hle

theorem IsShort.write?_eq {n : Int} (h : IsShort n) : write? n = some (toString n) := by
  have hlt : n.natAbs < 10 ^ maxDigits :=
    Nat.lt_of_lt_of_le h.natAbs_lt (Nat.pow_le_pow_right (by decide) (Nat.sub_le maxDigits 1))
  rw [write?, if_pos hlt]

theorem IsShort.length_toString_le {n : Int} (h : IsShort n) : (toString n).length ≤ maxDigits :=
  Text.length_toString_le n (k := maxDigits - 1) (by decide) h.natAbs_lt

/-- An integer that is written in no more characters than there are digits in what is converted. -/
structure IsComparable (n : Int) : Prop where
  written : write? n = some (toString n)
  length_le : (toString n).length ≤ maxDigits

theorem IsShort.isComparable {n : Int} (h : IsShort n) : IsComparable n :=
  ⟨h.write?_eq, h.length_toString_le⟩

theorem isComparable_of_nonneg {n : Int} (hn : 0 ≤ n) (h : (write? n).isSome) :
    IsComparable n where
  written := write?_of_isSome h
  length_le := by
    have hlength := length_toDigits_le n.natAbs (k := maxDigits) (by decide)
      (isSome_write?_iff.mp h)
    rw [← String.length_toList, toList_toString, if_neg (Int.not_lt.mpr hn), List.nil_append]
    exact hlength

end Text

namespace Throw.Blocks

/-- The number that a digit block stands for. -/
def number (digits : List Char) : Nat := Nat.ofDigitChars 10 digits 0

end Throw.Blocks

namespace Limits

open Throw.Blocks

/-- How an amount above a limit is reported: as a number, or by its digits if they are more than the
written limit has characters. -/
def reported (n : Nat) (limit : Int) : Datum :=
  if (toString limit).length < (Nat.toDigits 10 n).length then .text (toString n) else .int n

/-- Whatever has more digits than the written limit has characters is above the limit. This is the
shortcut. It is never wrong, and where it says nothing, the comparison has to be made. -/
theorem lt_of_length_lt {n : Nat} {limit : Int}
    (h : (toString limit).length < (Nat.toDigits 10 n).length) : limit < n := by
  by_cases hn : n < 10 ^ (toString limit).length
  · have hle := Text.length_toDigits_le n (Text.length_toString_pos limit) hn
    exact absurd h (Nat.not_lt.mpr hle)
  · have hlt := Text.lt_pow_length_toString limit
    exact Int.lt_of_lt_of_le hlt (Int.ofNat_le.mpr (Nat.le_of_not_lt hn))

/-- A block is over an integer limit exactly if its value is above it.

Whether the block was found to be too long, or converted and compared, can be told from the amount
that is reported. That is not a matter of the block but of its value, and so of `reported`. -/
theorem bounded_of_isComparable (quantity : Quantity) {digits : List Char} {limit : Int}
    (hd : IsDigitBlock digits) (hl : Text.IsComparable limit) :
    bounded quantity digits (.int limit) =
      if limit < number digits then
        .error (.dice (.limitExceeded quantity (reported (number digits) limit) (.int limit)))
      else .ok (number digits) := by
  have hsig : Text.significant digits = Nat.toDigits 10 (number digits) :=
    Text.significant_eq_toDigits hd.2
  generalize number digits = n at hsig
  unfold bounded
  rw [Datum.write?, hl.written]
  simp only [convertible?, hsig]
  by_cases hlen : (toString limit).length < (Nat.toDigits 10 n).length
  · rw [if_pos hlen, if_pos (lt_of_length_lt hlen), reported, if_pos hlen,
      Nat.toString_eq_ofList_toDigits]
  · have hread : Text.readDigits (Nat.toDigits 10 n) = .ok n := by
      rw [Text.readDigits, if_pos (Nat.le_trans (Nat.le_of_not_lt hlen) hl.length_le),
        Nat.ofDigitChars_ten_toDigits]
    simp only [if_neg hlen, hread, Datum.isBelow_int, reported]
    by_cases hlt : limit < n
    · rw [if_pos hlt, decide_eq_true hlt]
    · rw [if_neg hlt, decide_eq_false hlt]

/-! ## What is converted

The conversion is taken out of `bounded` and made an argument, and what it does on longer blocks
turns out not to matter. -/

/-- `bounded` with the conversion of a block left open. -/
def boundedBy (convert : List Char → Except Text.NumeralError Nat) (quantity : Quantity)
    (digits : List Char) (limit : Datum) : Except Fault Nat :=
  match limit.write? with
  | none => .error .numeralTooLong
  | some written =>
    match convertible? digits written with
    | none =>
      let found := Datum.text (String.ofList (Text.significant digits))
      .error (.dice (.limitExceeded quantity found limit))
    | some kept =>
      match convert kept with
      | .error _ => .error .numeralTooLong
      | .ok n =>
        match limit.isBelow (.int n) with
        | .error fault => .error fault
        | .ok true => .error (.dice (.limitExceeded quantity (.int n) limit))
        | .ok false => .ok n

theorem boundedBy_readDigits : boundedBy Text.readDigits = bounded := rfl

theorem length_le_of_convertible? {digits kept : List Char} {written : String}
    (h : convertible? digits written = some kept) : kept.length ≤ written.length := by
  simp only [convertible?] at h
  split at h
  · cases h
  · next hle =>
    cases h
    exact Nat.le_of_not_lt hle

theorem boundedBy_congr {convert convert' : List Char → Except Text.NumeralError Nat} {limit : Int}
    (hl : Text.IsComparable limit)
    (h : ∀ block, block.length ≤ (toString limit).length → convert block = convert' block)
    (quantity : Quantity) (digits : List Char) :
    boundedBy convert quantity digits (.int limit) =
      boundedBy convert' quantity digits (.int limit) := by
  unfold boundedBy
  rw [Datum.write?, hl.written]
  -- What is not kept for conversion is refused by its length, and what is kept is short.
  cases hkept : convertible? digits (toString limit) with
  | none => simp only [hkept]
  | some kept =>
    have hlength := length_le_of_convertible? hkept
    simp only [hkept, h kept hlength]

/-! ## What is reported

An amount is reported as a number if it has been converted, and by its digits if it has not. The
message adds a decision of its own, so that a mistake of a thousand digits can still be read. -/

/-- The number that a reported amount stands for, whichever way it is reported. -/
def amountOf : Datum → Option Int
  | .int n => some n
  | .text digits => some (number digits.toList)
  | _ => none

theorem amountOf_reported (n : Nat) (limit : Int) :
    amountOf (reported n limit) = some (n : Int) := by
  unfold reported
  split
  · show some ((number (toString n).toList : Nat) : Int) = _
    rw [Nat.toString_eq_ofList_toDigits, String.toList_ofList, number,
      Nat.ofDigitChars_ten_toDigits]
  · rfl

theorem displayAmount_reported (n : Nat) (limit : Int) :
    displayAmount (reported n limit) =
      if (Nat.toDigits 10 n).length ≤ max longestShown (toString limit).length then toString n
      else toString (Nat.toDigits 10 n).length ++ "-digit number" := by
  have hlength : (toString n).length = (Nat.toDigits 10 n).length := by
    rw [Nat.toString_eq_ofList_toDigits, ← String.length_toList, String.toList_ofList]
  unfold reported
  by_cases hwidth : (toString limit).length < (Nat.toDigits 10 n).length
  · rw [if_pos hwidth, displayAmount, hlength]
    by_cases hshown : longestShown < (Nat.toDigits 10 n).length
    · rw [if_pos hshown, if_neg (by omega)]
    · rw [if_neg hshown, if_pos (by omega)]
  · rw [if_neg hwidth, if_pos (by omega)]
    rfl

/-- What a limit decides about a digit block of any length is what plain conversion and comparison
would decide, although no more digits are converted than the limit has characters. A block that is
over the limit is reported by its value, as a number or as a text, and the message shows that in
full up to twenty digits or the length of the limit, whichever is more.

The last part is how it is said that longer blocks are not converted: another conversion, however
wrong it is about them, may be put in place of the real one. -/
theorem bounded_agrees (quantity : Quantity) {digits : List Char} {limit : Int}
    (hdigits : IsDigitBlock digits) (hlimit : Text.IsShort limit) :
    let x := number digits
    let count := (Nat.toDigits 10 x).length
    let width := (toString limit).length
    (bounded quantity digits (.int limit)).toOption = boundedPlainly digits limit ∧
    (x ≤ limit → bounded quantity digits (.int limit) = .ok x) ∧
    (limit < x → ∃ amount,
      bounded quantity digits (.int limit) =
        .error (.dice (.limitExceeded quantity amount (.int limit))) ∧
      (count ≤ width → amount = .int x) ∧
      (width < count → amount = .text (String.ofList (Nat.toDigits 10 x))) ∧
      amountOf amount = some (x : Int) ∧
      (DiceError.limitExceeded quantity amount (.int limit)).message =
        quantity.excess ++ ": " ++
          (if count ≤ max 20 width then toString x else toString count ++ "-digit number") ++
          " (max " ++ toString limit ++ ")") ∧
    ∀ convert, (∀ block, block.length ≤ width → convert block = Text.readDigits block) →
      boundedBy convert quantity digits (.int limit) = bounded quantity digits (.int limit) := by
  intro x count width
  have hbounded := bounded_of_isComparable quantity hdigits hlimit.isComparable
  refine ⟨?_, fun hle => ?_, fun hlt => ?_, fun convert hconvert => ?_⟩
  · rw [hbounded]
    unfold boundedPlainly
    by_cases hlt : limit < x
    · rw [if_pos hlt]
      exact (if_pos hlt).symm
    · rw [if_neg hlt]
      exact (if_neg hlt).symm
  · rw [hbounded, if_neg (Int.not_lt.mpr hle)]
  · refine ⟨reported x limit, ?_, fun hle => ?_, fun hwidth => ?_, amountOf_reported x limit, ?_⟩
    · rw [hbounded, if_pos hlt]
    · exact if_neg (Nat.not_lt.mpr hle)
    · rw [reported, if_pos hwidth, Nat.toString_eq_ofList_toDigits]
    · rw [← show longestShown = 20 from rfl, ← displayAmount_reported]
      rfl
  · rw [← boundedBy_readDigits]
    exact boundedBy_congr hlimit.isComparable hconvert quantity digits

/-- Leading zeros do not count, and the minus sign of a limit does. -/
theorem bounded_agrees_long_block :
    let digits := "001000000000000000000000".toList
    IsDigitBlock digits ∧ Text.IsShort (-5) ∧
    bounded .dice digits (.int (-5)) =
      .error (.dice (.limitExceeded .dice (.text "1000000000000000000000") (.int (-5)))) ∧
    (DiceError.limitExceeded .dice (.text "1000000000000000000000") (.int (-5))).message =
      "Too many dice: 22-digit number (max -5)" := by
  intro digits
  have hdigits : IsDigitBlock digits := isDigitBlock_iff.mp (by decide)
  have hlimit : Text.IsShort (-5) := by decide
  obtain ⟨-, -, hover, -⟩ := bounded_agrees .dice hdigits hlimit
  have hnumber : number digits = 1000000000000000000000 := by decide
  rw [hnumber] at hover
  obtain ⟨amount, hbounded, -, hamount, -, hmessage⟩ := hover (by decide)
  obtain rfl := hamount (by decide +kernel)
  exact ⟨hdigits, hlimit, hbounded, hmessage⟩

end Limits

end Dicebox
