import Dicebox.Proofs.Throw.Accounting
import Dicebox.Proofs.Throw.Spelling

/-!
# Throws that are too large

A throw that is no mistake can still break off: a number of sides may have no double, and a number
may be too long to be written. Limits are there to keep such throws out, and they do,

> **if the most sides that they allow have a double, and the largest total that they allow can be
> written** (`Limits.IsManageable`).

Then whatever ends a throw on a generator is a mistake (`fault_of_evaluateText`). Limits may also be
set higher than that, and nothing stops them from it: as soon as the most sides have no double, a
single die with so many sides is allowed, and breaks off (`evaluateText_of_many_sides`).
-/

set_option autoImplicit false

namespace Dicebox

open Number

-- The sum of a list starts from core's own zero, whatever else is imported.
attribute [local instance (high)] Zero.ofOfNat0

/-- Limits under which nothing that a throw comes to is too large. Both conditions are about the
limits together: each of them may be small enough and their product too long to be written. -/
structure Limits.IsManageable (maxDice maxSides maxModifier : Int) : Prop where
  sides : (Double.ofInt? maxSides).isSome
  total : (Text.write? (maxDice * maxSides + maxModifier)).isSome

/-- The default limits are manageable. -/
example : Limits.IsManageable 100000 100000 1000000 :=
  ⟨by decide +kernel, by decide +kernel⟩

/-! ## The numbers of a throw

A total is written after each die, so the numbers to be written are as many as the dice. All of them
are below the total that would come of nothing but highest faces and the modifier. -/

theorem dieLines_le {sides : Int} {faces : List Int} (h : ∀ f ∈ faces, 1 ≤ f ∧ f ≤ sides) :
    ∀ l ∈ dieLines faces, l.number ≤ faces.length ∧ (1 ≤ l.face ∧ l.face ≤ sides) ∧
      0 ≤ l.total ∧ l.total ≤ faces.length * sides := by
  -- A line tells of the dice up to its own, so the list of faces is taken apart at its end.
  induction faces using List.reverseRecOn with
  | nil => exact fun l hl => nomatch hl
  | append_singleton faces face ih =>
    have hfaces : ∀ f ∈ faces, 1 ≤ f ∧ f ≤ sides := fun f hf => h f (List.mem_append_left _ hf)
    obtain ⟨hlow, hhigh⟩ := h face (by simp)
    intro l hl
    rw [dieLines_concat] at hl
    rw [List.length_append, List.length_singleton]
    rcases List.mem_append.mp hl with hl | hl
    · obtain ⟨hnumber, hface, hzero, htotal⟩ := ih hfaces l hl
      refine ⟨Nat.le_succ_of_le hnumber, hface, hzero, ?_⟩
      push_cast
      linarith
    · obtain ⟨hsumlow, hsumhigh⟩ := Throw.sum_bounds hfaces
      rw [List.mem_singleton.mp hl]
      dsimp only
      refine ⟨Nat.le_refl _, ⟨hlow, hhigh⟩, by omega, ?_⟩
      push_cast
      linarith

namespace Throw

theorem natAbs_le_of_mem_printed {t : Throw} {faces : List Int}
    (hlength : faces.length ≤ t.dieCount)
    (hfaces : ∀ f ∈ faces, 1 ≤ f ∧ f ≤ (t.sides : Int)) :
    ∀ k ∈ t.printed faces, k.natAbs ≤ t.dieCount * t.sides + t.modifier.value := by
  have hdice : t.dieCount ≤ t.dieCount * t.sides := Nat.le_mul_of_pos_right _ t.sides_pos
  have hsides : t.sides ≤ t.dieCount * t.sides := Nat.le_mul_of_pos_left _ t.dieCount_pos
  have hmul : (faces.length : Int) * t.sides ≤ ((t.dieCount * t.sides : Nat) : Int) := by
    push_cast
    exact Int.mul_le_mul_of_nonneg_right (Int.ofNat_le.mpr hlength) (Int.natCast_nonneg _)
  have hamount := t.modifier.amount_natAbs
  obtain ⟨hlow, hhigh⟩ := sum_bounds hfaces
  intro k hk
  simp only [printed, List.mem_append, List.mem_cons, List.not_mem_nil, or_false,
    List.mem_flatMap] at hk
  rcases hk with ((rfl | rfl | rfl) | ⟨l, hl, hk⟩) | rfl
  · omega
  · omega
  · omega
  · obtain ⟨hnumber, ⟨hfacelow, hface⟩, htotallow, htotal⟩ := dieLines_le hfaces l hl
    rcases hk with rfl | rfl | rfl
    · omega
    · omega
    · omega
  · rw [totalOf]
    omega

/-- What ends a throw on a generator, if it ends without its outcome. A generator is never out of
draws, so only two of the faults that a throw can have are left. -/
theorem fault_of_evaluate {t : Throw} {watched : Bool} {state : Twister} {fault : Fault}
    (h : (t.evaluate watched (.twister state)).1.result = .error fault) :
    (fault = .beyondDoubles ∧ Double.ofInt? t.sides = none) ∨
    (fault = .numeralTooLong ∧
      ¬ (Text.write? ((t.dieCount * t.sides + t.modifier.value : Nat) : Int)).isSome) := by
  have hunit : (Source.twister state).InUnit := trivial
  rcases t.evaluate_cases watched (.twister state) with ⟨other, hother, -, hcause⟩ | ⟨-, hok, -⟩
  · rw [h] at hother
    cases hother
    rcases hcause with ⟨hprintable, rfl⟩ | hstopped
    · refine Or.inr ⟨rfl, fun hwritten => hprintable fun k hk => ?_⟩
      have hle := natAbs_le_of_mem_printed (length_rollDice_le _ _ _)
        (rollDice_mem t.sides_pos _ hunit) k hk
      exact Text.isSome_write?_of_le (by rw [Int.natAbs_natCast]; exact hle) hwritten
    · exact Or.inl (rollDice_stopped_twister t.sides_pos hstopped)
  · rw [h] at hok
    cases hok

theorem evaluate_of_many_sides {t : Throw} {watched : Bool} {state : Twister}
    (hnone : Double.ofInt? t.sides = none)
    (hwritten : (Text.write? ((t.dieCount * t.sides + t.modifier.value : Nat) : Int)).isSome) :
    (t.evaluate watched (.twister state)).1.result = .error .beyondDoubles := by
  -- The throw cannot have been finished, and its numbers are not what has ended it.
  rcases t.evaluate_cases watched (.twister state) with ⟨fault, hfault, -⟩ | ⟨hrolled, -⟩
  · rcases fault_of_evaluate hfault with ⟨rfl, -⟩ | ⟨-, hlong⟩
    · exact hfault
    · exact absurd hwritten hlong
  · rw [(rollDice_of_ofInt?_eq_none t.dieCount_pos hnone state).2] at hrolled
    cases hrolled

/-! ## Reading -/

theorem fault_of_bounded {quantity : Quantity} {digits : List Char} {limit : Int} {fault : Fault}
    (h : Limits.bounded quantity digits (.int limit) = .error fault) :
    (∃ e, fault = .dice e) ∨ fault = .numeralTooLong := by
  unfold Limits.bounded at h
  split at h
  · cases h
    exact Or.inr rfl
  · split at h
    · cases h
      exact Or.inl ⟨_, rfl⟩
    · split at h
      · cases h
        exact Or.inr rfl
      · rw [Datum.isBelow_int] at h
        split at h
        · next hbelow => cases hbelow
        · cases h
          exact Or.inl ⟨_, rfl⟩
        · cases h

theorem fault_of_read {text : String} {maxDice maxSides maxModifier : Int} {fault : Fault}
    (h : read text (.ofIntegers maxDice maxSides maxModifier) = .error fault) :
    (∃ e, fault = .dice e) ∨ fault = .numeralTooLong := by
  unfold read at h
  split at h
  · cases h
    exact Or.inl ⟨_, rfl⟩
  · rcases ofBlocks_cases _ (.ofIntegers maxDice maxSides maxModifier) text with
      ⟨other, quantity, digits, limit, hlimit, hother, hbounded⟩ | ⟨n, s, sign, v, -, -, -, hmade⟩
    · rw [h] at hother
      cases hother
      simp only [List.mem_cons, List.not_mem_nil, or_false] at hlimit
      rcases hlimit with rfl | rfl | rfl
      · exact fault_of_bounded hbounded
      · exact fault_of_bounded hbounded
      · exact fault_of_bounded hbounded
    · rw [h] at hmade
      cases hmake : make n s sign v text with
      | ok t =>
        rw [hmake] at hmade
        cases hmade
      | error e =>
        rw [hmake] at hmade
        cases hmade
        exact Or.inl ⟨e, rfl⟩

theorem fault_of_read_of_isComparable {text : String} {maxDice maxSides maxModifier : Int}
    {fault : Fault} (hd : Text.IsComparable maxDice) (hs : Text.IsComparable maxSides)
    (hm : Text.IsComparable maxModifier)
    (h : read text (.ofIntegers maxDice maxSides maxModifier) = .error fault) :
    ∃ e, fault = .dice e := by
  by_cases hspelled : ∃ b : Blocks, b.WellFormed ∧ Text.dropBlanks text.toList = b.spelling
  · obtain ⟨b, hb, hspelling⟩ := hspelled
    rw [read_of_spelling _ hb hspelling, ofBlocks_of_isComparable hb hd hs hm] at h
    obtain ⟨e, he, -⟩ := Blocks.kind_of_verdict h
    exact ⟨e, he⟩
  · rw [read_of_not_spelling _ fun b hb hspelling => hspelled ⟨b, hb, hspelling⟩] at h
    cases h
    exact ⟨_, rfl⟩

end Throw

/-! ## From a text

What the limits are good for is a matter of the largest throw that they let through. Under limits
that are no integers nothing of this can be said, since there a comparison may fail. -/

section

variable {maxDice maxSides maxModifier : Int}

theorem Limits.IsManageable.isComparable (h : Limits.IsManageable maxDice maxSides maxModifier)
    (hd : 1 ≤ maxDice) (hs : 1 ≤ maxSides) (hm : 0 ≤ maxModifier) :
    Text.IsComparable maxDice ∧ Text.IsComparable maxSides ∧ Text.IsComparable maxModifier := by
  have hdice : maxDice ≤ maxDice * maxSides := le_mul_of_one_le_right (by omega) hs
  have hsides : maxSides ≤ maxDice * maxSides := le_mul_of_one_le_left (by omega) hd
  have hwritten : ∀ n : Int, 0 ≤ n → n ≤ maxDice * maxSides + maxModifier → Text.IsComparable n :=
    fun n hn hle => Text.isComparable_of_nonneg hn (Text.isSome_write?_of_le (by omega) h.total)
  exact ⟨hwritten _ (by omega) (by omega), hwritten _ (by omega) (by omega),
    hwritten _ hm (by omega)⟩

/-- What ends a throw from a text on a generator, if it ends without its outcome: under manageable
limits nothing but a mistake. -/
theorem fault_of_evaluateText {watched : Bool} {text : String} {state : Twister} {fault : Fault}
    (hd : 1 ≤ maxDice) (hs : 1 ≤ maxSides) (hm : 0 ≤ maxModifier)
    (h : (evaluateText watched (.text text) (.ofIntegers maxDice maxSides maxModifier)
      (.twister state)).1.result = .error fault) :
    (∃ e, fault = .dice e) ∨
    ((fault = .beyondDoubles ∨ fault = .numeralTooLong) ∧
      ¬ Limits.IsManageable maxDice maxSides maxModifier) := by
  cases hread : (Throw.parse (.text text) (.ofIntegers maxDice maxSides maxModifier)).result with
  | error other =>
    rw [evaluateText_of_parse_error watched _ hread] at h
    cases h
    rw [Throw.parse_text_result] at hread
    rcases Throw.fault_of_read hread with hmistake | hlong
    · exact Or.inl hmistake
    · by_cases hmanageable : Limits.IsManageable maxDice maxSides maxModifier
      · obtain ⟨hd', hs', hm'⟩ := hmanageable.isComparable hd hs hm
        exact Or.inl (Throw.fault_of_read_of_isComparable hd' hs' hm' hread)
      · exact Or.inr ⟨Or.inr hlong, hmanageable⟩
  | ok t =>
    -- What has been read is within the limits, and so is everything that it can come to.
    obtain ⟨⟨_, hdice⟩, ⟨_, hsides⟩, hvalue⟩ := Throw.bounded_of_parse hread
    have hdice := Throw.le_of_bounded hdice
    have hsides := Throw.le_of_bounded hsides
    have hvalue : (t.modifier.value : Int) ≤ maxModifier := by
      rcases hvalue with hzero | ⟨_, hvalue⟩
      · rw [hzero]
        exact hm
      · exact Throw.le_of_bounded hvalue
    rw [result_of_parse watched _ hread] at h
    rcases Throw.fault_of_evaluate h with ⟨rfl, hnone⟩ | ⟨rfl, hlong⟩
    · refine Or.inr ⟨Or.inl rfl, fun hmanageable => ?_⟩
      have hsome := Double.isSome_ofInt?_of_le hsides hmanageable.sides
      rw [hnone] at hsome
      cases hsome
    · refine Or.inr ⟨Or.inr rfl, fun hmanageable => hlong ?_⟩
      refine Text.isSome_write?_of_le ?_ hmanageable.total
      have hmul : (t.dieCount : Int) * t.sides ≤ maxDice * maxSides :=
        mul_le_mul hdice hsides (Int.natCast_nonneg _) (by omega)
      have htotal : ((t.dieCount * t.sides + t.modifier.value : Nat) : Int) ≤
          maxDice * maxSides + maxModifier := by
        push_cast
        exact add_le_add hmul hvalue
      omega

/-- If the most sides have no double, then a single die with so many sides is allowed and cannot be
rolled. -/
theorem evaluateText_of_many_sides {watched : Bool} {state : Twister} {maxSides : Nat}
    (hd : 1 ≤ maxDice) (hs : 0 < maxSides) (hnone : Double.ofInt? maxSides = none)
    (hd' : Text.IsComparable maxDice) (hs' : Text.IsComparable maxSides)
    (hm' : Text.IsComparable maxModifier) :
    (evaluateText watched (.text (Throw.plainText 1 maxSides .none))
      (.ofIntegers maxDice maxSides maxModifier) (.twister state)).1.result =
        .error .beyondDoubles := by
  have hread := Throw.read_plainText (m := .none) Nat.one_pos hs hd (Int.le_refl _)
    (fun h => absurd rfl h) hd' hs' hm'
  rw [← Throw.parse_text_result] at hread
  rw [result_of_parse watched _ hread]
  refine Throw.evaluate_of_many_sides hnone ?_
  have htotal : 1 * maxSides + Modifier.none.value = maxSides := Nat.one_mul maxSides
  rw [htotal, hs'.written]
  rfl

end

end Dicebox
