import Mathlib.Logic.Relation
import Mathlib.Tactic.ByContra
import Dicebox.Proofs.Text.Digits
import Dicebox.Text.Blank

/-!
# Blanks and leading zeros

The same text may be written with blanks strewn over it, and with zeros before any of its numbers.
Putting one of them in, or taking one out, is an `Edit`, and two texts that can be edited into each
other are of the same writing (`SameWriting`). Where a zero is superfluous is not decided by its
neighbours, which may be blanks, but by the text without them: the digits before it, if there are
any, are zeros, and one more digit comes after it.

Every writing has one text without anything superfluous (`plain`), and

> **texts of the same writing have the same plain text** (`SameWriting.plain_eq`).

So of what can be computed from plain texts nothing has to be said about edits any more. The plain
text begins with the significant digits of the number that the text begins with
(`takeWhile_dropZeros`), and what comes after that number is plain as well
(`dropWhile_dropZeros`).
-/

set_option autoImplicit false

namespace Dicebox.Text

/-! ## Edits

An edit puts in a single character, so that each of the two sorts needs one case. Undoing edits and
making several of them is left to the equivalence that they generate. -/

/-- All digits at the end of a text are zeros, if it ends with digits at all. A zero put after them
is then not significant either. -/
def NoneSignificant (cs : List Char) : Prop :=
  ∀ run, run <:+ cs → (∀ c ∈ run, c.isDigit = true) → ∀ c ∈ run, c = '0'

/-- Whether a text begins with a digit. It is asked of the text after a zero, which is superfluous
only if the number goes on. -/
def startsWithDigit : List Char → Bool
  | [] => false
  | c :: _ => c.isDigit

/-- One blank more, or one zero more before the significant digits of a number. -/
inductive Edit : List Char → List Char → Prop
  | blank (before after : List Char) {c : Char} (hc : blank.contains c = true) :
    Edit (before ++ after) (before ++ c :: after)
  | zero (before after : List Char) (hbefore : NoneSignificant (dropBlanks before))
    (hafter : startsWithDigit (dropBlanks after) = true) :
    Edit (before ++ after) (before ++ '0' :: after)

/-- Texts that come of each other by any number of edits, each made or undone. -/
def SameWriting (a b : String) : Prop := Relation.EqvGen Edit a.toList b.toList

/-! ## The text without leading zeros -/

/-- A text without the leading zeros of its numbers; a number of zeros keeps one of them. Within a
number, after its first significant digit, zeros are no leading zeros. -/
def dropZeros (within : Bool) : List Char → List Char
  | [] => []
  | c :: rest =>
    if c = '0' ∧ within = false ∧ startsWithDigit rest = true then dropZeros false rest
    else c :: dropZeros c.isDigit rest

/-- A text without blanks and leading zeros. -/
def plain (s : String) : List Char := dropZeros false (dropBlanks s.toList)

theorem dropZeros_of_not_isDigit {c : Char} (hc : c.isDigit = false) (within : Bool)
    (rest : List Char) : dropZeros within (c :: rest) = c :: dropZeros false rest := by
  have hzero : c ≠ '0' := by
    rintro rfl
    cases hc
  rw [dropZeros, if_neg fun h => hzero h.1, hc]

theorem startsWithDigit_append {a b b' : List Char} (h : startsWithDigit b = startsWithDigit b') :
    startsWithDigit (a ++ b) = startsWithDigit (a ++ b') := by
  cases a with
  | nil => exact h
  | cons c rest => rfl

theorem dropZeros_zero {before after : List Char} (hbefore : NoneSignificant before)
    (hafter : startsWithDigit after = true) :
    dropZeros false (before ++ '0' :: after) = dropZeros false (before ++ after) := by
  -- Within a number the text before the zero has to go on beyond that number.
  suffices h : ∀ within, (within = true → ∃ c ∈ before, c.isDigit = false) →
      dropZeros within (before ++ '0' :: after) = dropZeros within (before ++ after) from
    h false fun h => nomatch h
  induction before with
  | nil =>
    intro within hwithin
    cases within with
    | true => obtain ⟨c, hc, -⟩ := hwithin rfl; cases hc
    | false => rw [List.nil_append, dropZeros, if_pos ⟨rfl, rfl, hafter⟩, List.nil_append]
  | cons c rest ih =>
    intro within hwithin
    have hrest : NoneSignificant rest :=
      fun run hrun => hbefore run (hrun.trans (List.suffix_cons c rest))
    have hahead : startsWithDigit (rest ++ '0' :: after) = startsWithDigit (rest ++ after) :=
      startsWithDigit_append (by rw [hafter]; rfl)
    rw [List.cons_append, List.cons_append, dropZeros, dropZeros, hahead]
    by_cases hdrop : c = '0' ∧ within = false ∧ startsWithDigit (rest ++ after) = true
    · rw [if_pos hdrop, if_pos hdrop]
      exact ih hrest false fun h => nomatch h
    · rw [if_neg hdrop, if_neg hdrop, ih hrest c.isDigit fun hc => ?_]
      -- Were there digits only up to the zero, they would be zeros, and this one would be dropped.
      by_contra hall
      have hdigits : ∀ d ∈ c :: rest, d.isDigit = true := by
        intro d hd
        rcases List.mem_cons.mp hd with rfl | hd
        · exact hc
        · by_contra hnot
          exact hall ⟨d, hd, Bool.eq_false_iff.mpr hnot⟩
      have hzero : c = '0' := hbefore _ (List.suffix_refl _) hdigits c List.mem_cons_self
      have houtside : within = false := by
        rw [Bool.eq_false_iff]
        intro hinside
        obtain ⟨d, hd, hnot⟩ := hwithin hinside
        rw [hdigits d hd] at hnot
        cases hnot
      refine hdrop ⟨hzero, houtside, ?_⟩
      cases rest with
      | nil => exact hafter
      | cons d others => exact hdigits d (List.mem_cons_of_mem _ List.mem_cons_self)

/-! ## Edits leave the plain text as it is

Blanks are taken out first, so an edit with a blank does nothing at all, and one with a zero becomes
a zero put into a text without blanks. -/

theorem dropBlanks_cons_blank {c : Char} (hc : blank.contains c = true) (cs : List Char) :
    dropBlanks (c :: cs) = dropBlanks cs := by
  rw [dropBlanks, List.filter_cons_of_neg (by rw [hc]; decide), dropBlanks]

theorem dropBlanks_cons_zero (cs : List Char) : dropBlanks ('0' :: cs) = '0' :: dropBlanks cs := by
  have hzero : blank.contains '0' = false := by decide
  rw [dropBlanks, List.filter_cons_of_pos (by rw [hzero]; rfl), dropBlanks]

theorem Edit.dropZeros_eq {a b : List Char} (h : Edit a b) :
    dropZeros false (dropBlanks a) = dropZeros false (dropBlanks b) := by
  cases h with
  | blank before after hc =>
    rw [dropBlanks_append, dropBlanks_append, dropBlanks_cons_blank hc]
  | zero before after hbefore hafter =>
    rw [dropBlanks_append, dropBlanks_append, dropBlanks_cons_zero, dropZeros_zero hbefore hafter]

theorem SameWriting.plain_eq {a b : String} (h : SameWriting a b) : plain a = plain b := by
  have hgen : ∀ {cs ds : List Char}, Relation.EqvGen Edit cs ds →
      dropZeros false (dropBlanks cs) = dropZeros false (dropBlanks ds) := by
    -- By the way in which the edits are put together.
    intro cs ds hcs
    induction hcs with
    | rel _ _ hedit => exact hedit.dropZeros_eq
    | refl _ => rfl
    | symm _ _ _ ih => exact ih.symm
    | trans _ _ _ _ _ ih ih' => exact ih.trans ih'
  exact hgen h

/-! ## The number at the beginning -/

theorem dropZeros_eq_nil_iff {within : Bool} {cs : List Char} :
    dropZeros within cs = [] ↔ cs = [] := by
  induction cs generalizing within with
  | nil => exact Iff.rfl
  | cons c rest ih =>
    rw [dropZeros]
    split
    · next h =>
      rw [ih]
      refine ⟨fun hrest => ?_, fun hnil => nomatch hnil⟩
      rw [hrest] at h
      cases h.2.2
    · exact iff_of_false (List.cons_ne_nil _ _) (List.cons_ne_nil _ _)

theorem dropWhile_dropZeros (within : Bool) (cs : List Char) :
    (dropZeros within cs).dropWhile Char.isDigit = dropZeros false (cs.dropWhile Char.isDigit) := by
  induction cs generalizing within with
  | nil => rfl
  | cons c rest ih =>
    cases hc : c.isDigit with
    | false =>
      rw [dropZeros_of_not_isDigit hc, List.dropWhile_cons_of_neg (by simp [hc]),
        List.dropWhile_cons_of_neg (by simp [hc]), dropZeros_of_not_isDigit hc]
    | true =>
      rw [List.dropWhile_cons_of_pos hc, dropZeros]
      split
      · exact ih false
      · rw [List.dropWhile_cons_of_pos hc]
        exact ih _

theorem takeWhile_dropZeros_true (cs : List Char) :
    (dropZeros true cs).takeWhile Char.isDigit = cs.takeWhile Char.isDigit := by
  induction cs with
  | nil => rfl
  | cons c rest ih =>
    rw [dropZeros, if_neg fun h => nomatch h.2.1]
    cases hc : c.isDigit with
    | false =>
      rw [List.takeWhile_cons_of_neg (by simp [hc]), List.takeWhile_cons_of_neg (by simp [hc])]
    | true => rw [List.takeWhile_cons_of_pos hc, List.takeWhile_cons_of_pos hc, ih]

theorem startsWithDigit_iff {cs : List Char} :
    startsWithDigit cs = true ↔ cs.takeWhile Char.isDigit ≠ [] := by
  cases cs with
  | nil => simp [startsWithDigit]
  | cons c rest => cases hc : c.isDigit <;> simp [startsWithDigit, hc]

/-- The number that a text begins with, if it does, is left with its significant digits.

The zeros are dropped one by one, and each time it is decided anew whether the number goes on. What
counts the significant digits, on the other hand, takes the number as a whole. -/
theorem takeWhile_dropZeros {cs : List Char} (h : cs.takeWhile Char.isDigit ≠ []) :
    (dropZeros false cs).takeWhile Char.isDigit = significant (cs.takeWhile Char.isDigit) := by
  induction cs with
  | nil => exact absurd rfl h
  | cons c rest ih =>
    cases hc : c.isDigit with
    | false => exact absurd (List.takeWhile_cons_of_neg (by simp [hc])) h
    | true =>
      rw [List.takeWhile_cons_of_pos hc, dropZeros]
      by_cases hzero : c = '0'
      · subst hzero
        by_cases hahead : startsWithDigit rest = true
        · rw [if_pos ⟨rfl, rfl, hahead⟩, ih (startsWithDigit_iff.mp hahead)]
          simp [significant]
        · -- A zero that is all of its number is kept.
          have hrest : rest.takeWhile Char.isDigit = [] := by
            by_contra hne
            exact hahead (startsWithDigit_iff.mpr hne)
          rw [if_neg fun h => hahead h.2.2, List.takeWhile_cons_of_pos hc, hc,
            takeWhile_dropZeros_true, hrest]
          rfl
      · rw [if_neg fun h => hzero h.1, List.takeWhile_cons_of_pos hc, hc, takeWhile_dropZeros_true]
        simp [significant, hzero]

theorem takeWhile_dropZeros_eq_nil {cs : List Char} (h : cs.takeWhile Char.isDigit = []) :
    (dropZeros false cs).takeWhile Char.isDigit = [] := by
  cases cs with
  | nil => rfl
  | cons c rest =>
    cases hc : c.isDigit with
    | true =>
      rw [List.takeWhile_cons_of_pos hc] at h
      cases h
    | false =>
      rw [dropZeros_of_not_isDigit hc]
      exact List.takeWhile_cons_of_neg (by simp [hc])

theorem startsWithDigit_dropZeros {cs : List Char} (h : startsWithDigit cs = true) :
    startsWithDigit (dropZeros false cs) = true := by
  rw [startsWithDigit_iff, takeWhile_dropZeros (startsWithDigit_iff.mp h)]
  exact significant_ne_nil _

theorem exists_cons_of_dropZeros {c : Char} (hc : c.isDigit = false) {cs rest : List Char}
    (h : dropZeros false cs = c :: rest) : ∃ rest', cs = c :: rest' := by
  cases cs with
  | nil => cases h
  | cons d others =>
    cases hd : d.isDigit with
    | true =>
      have hstart : startsWithDigit (dropZeros false (d :: others)) = true :=
        startsWithDigit_dropZeros hd
      rw [h] at hstart
      exact absurd hstart (by rw [startsWithDigit, hc]; decide)
    | false =>
      rw [dropZeros_of_not_isDigit hd] at h
      exact ⟨others, by rw [(List.cons.inj h).1]⟩

end Dicebox.Text
