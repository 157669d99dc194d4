import Dicebox.Proofs.Throw.Evaluation

/-!
# What reading refuses, for limits of any kind

With integer limits reading is a list of verdicts. Limits may be other data as well, and then a
number may fail to compare with them; of what can go wrong in that case only so much is said here as
others rely on. Each part of reading has mistakes of one sort, an amount above its limit
(`limitExceeded_of_bounded`) or a text that is no throw (`invalidNotation_of_make`), and an
impossible number of sides is of neither sort. What has been read has passed its limits, all three
of them (`bounded_of_parse`).
-/

set_option autoImplicit false

namespace Dicebox.Throw

theorem limitExceeded_of_bounded {quantity : Quantity} {digits : List Char} {limit : Datum}
    {e : DiceError} (h : Limits.bounded quantity digits limit = .error (.dice e)) :
    ∃ found, e = .limitExceeded quantity found limit := by
  unfold Limits.bounded at h
  split at h
  · cases h
  · split at h
    · cases h
      exact ⟨_, rfl⟩
    · split at h
      · cases h
      · split at h
        · next hbelow =>
          unfold Datum.isBelow at hbelow
          split at hbelow
          · cases hbelow
          · cases hbelow
            cases h
        · cases h
          exact ⟨_, rfl⟩
        · cases h

theorem invalidNotation_of_make {dieCount sides value : Int} {sign : Sign} {label : String}
    {e : DiceError} (h : make dieCount sides sign value label = .error e) :
    ∃ objection, e = .invalidNotation (.text label) (some objection) := by
  unfold make at h
  split at h
  · cases h; exact ⟨_, rfl⟩
  · split at h
    · cases h; exact ⟨_, rfl⟩
    · split at h
      · cases h; exact ⟨_, rfl⟩
      · cases sign with
        | none =>
          dsimp only at h
          split at h
          · cases h
          · cases h; exact ⟨_, rfl⟩
        | plus => cases h
        | minus => cases h

/-- Blocks are refused for one of their amounts, or for what they make with all amounts allowed.

The three amounts are looked at one after another, and which one it is does not matter to what
follows, so they are put together in one case. -/
theorem ofBlocks_cases (b : Blocks) (limits : Limits) (label : String) :
    (∃ fault quantity digits, ∃ limit ∈ [limits.maxDice, limits.maxSides, limits.maxModifier],
      ofBlocks b limits label = .error fault ∧
      Limits.bounded quantity digits limit = .error fault) ∨
    (∃ (dieCount sides : Nat) (sign : Sign) (value : Nat),
      Limits.bounded .dice b.dice limits.maxDice = .ok dieCount ∧
      Limits.bounded .sides b.sides limits.maxSides = .ok sides ∧
      (value = 0 ∨ ∃ digits, Limits.bounded .modifier digits limits.maxModifier = .ok value) ∧
      ofBlocks b limits label = (make dieCount sides sign value label).mapError .dice) := by
  unfold ofBlocks
  cases hdice : Limits.bounded .dice b.dice limits.maxDice with
  | error fault => exact Or.inl ⟨fault, _, _, _, by simp, rfl, hdice⟩
  | ok dieCount =>
    cases hsides : Limits.bounded .sides b.sides limits.maxSides with
    | error fault => exact Or.inl ⟨fault, _, _, _, by simp, rfl, hsides⟩
    | ok sides =>
      cases b.modifier with
      | none => exact Or.inr ⟨dieCount, sides, .none, 0, rfl, rfl, Or.inl rfl, rfl⟩
      | some m =>
        obtain ⟨sign, digits⟩ := m
        cases hvalue : Limits.bounded .modifier digits limits.maxModifier with
        | error fault =>
          refine Or.inl ⟨fault, _, _, limits.maxModifier, by simp, ?_, hvalue⟩
          simp only [bind, Except.bind, hvalue]
        | ok value =>
          refine Or.inr ⟨dieCount, sides, sign, value, rfl, rfl, Or.inr ⟨digits, hvalue⟩, ?_⟩
          simp only [bind, Except.bind, hvalue]

theorem ne_invalidSides_of_ofBlocks {b : Blocks} {limits : Limits} {label : String} {e : DiceError}
    (h : ofBlocks b limits label = .error (.dice e)) (sides : Datum) : e ≠ .invalidSides sides := by
  rcases ofBlocks_cases b limits label with
    ⟨_, _, _, _, -, hblocks, hlimit⟩ | ⟨n, s, sign, v, -, -, -, hblocks⟩
  · rw [h] at hblocks
    cases hblocks
    obtain ⟨found, rfl⟩ := limitExceeded_of_bounded hlimit
    exact fun he => nomatch he
  · rw [h] at hblocks
    cases hmake : make n s sign v label with
    | ok t => rw [hmake] at hblocks; cases hblocks
    | error other =>
      rw [hmake] at hblocks
      cases hblocks
      obtain ⟨objection, rfl⟩ := invalidNotation_of_make hmake
      exact fun he => nomatch he

theorem ne_invalidSides_of_parse {given : Datum} {limits : Limits} {e : DiceError}
    (h : (parse given limits).result = .error (.dice e)) (sides : Datum) :
    e ≠ .invalidSides sides := by
  unfold parse at h
  split at h
  · split at h
    · cases h
      exact fun he => nomatch he
    · split at h
      · cases h
      · next hblocks =>
        cases h
        exact ne_invalidSides_of_ofBlocks hblocks sides
  · cases h
    exact fun he => nomatch he

theorem le_of_bounded {quantity : Quantity} {digits : List Char} {limit : Int} {n : Nat}
    (h : Limits.bounded quantity digits (.int limit) = .ok n) : (n : Int) ≤ limit := by
  unfold Limits.bounded at h
  split at h
  · cases h
  · split at h
    · cases h
    · split at h
      · cases h
      · rw [Datum.isBelow_int] at h
        split at h
        · cases h
        · cases h
        · next hbelow =>
          cases h
          have hnot := of_decide_eq_false (Except.ok.inj hbelow)
          exact Int.not_lt.mp hnot

/-- The numbers of a text that has been read have passed their limits.

The digits that they were written with are gone by then, so it is only said that there were some. A
modifier of zero need not have been written. -/
theorem bounded_of_parse {given : Datum} {limits : Limits} {t : Throw}
    (h : (parse given limits).result = .ok t) :
    (∃ digits, Limits.bounded .dice digits limits.maxDice = .ok t.dieCount) ∧
    (∃ digits, Limits.bounded .sides digits limits.maxSides = .ok t.sides) ∧
    (t.modifier.value = 0 ∨
      ∃ digits, Limits.bounded .modifier digits limits.maxModifier = .ok t.modifier.value) := by
  unfold parse at h
  split at h
  · split at h
    · cases h
    · split at h
      · next hblocks =>
        cases h
        rcases ofBlocks_cases _ limits _ with
          ⟨_, _, _, _, -, hfault, -⟩ | ⟨n, s, sign, v, hdice, hsides, hvalue, hmade⟩
        · rw [hblocks] at hfault
          cases hfault
        · rw [hblocks] at hmade
          cases hmake : make n s sign v _ with
          | error e => rw [hmake] at hmade; cases hmade
          | ok t' =>
            rw [hmake] at hmade
            cases hmade
            -- The throw keeps its numbers as naturals, and they are the ones that were read.
            obtain ⟨hn, hs, -, -, hv, -⟩ := eq_of_make hmake
            rw [Int.ofNat_inj.mp hn, Int.ofNat_inj.mp hs, Int.ofNat_inj.mp hv]
            exact ⟨⟨_, hdice⟩, ⟨_, hsides⟩, hvalue⟩
      · cases h
  · cases h

theorem dieCount_le_of_parse {given : Datum} {limits : Limits} {t : Throw} {maxDice : Int}
    (h : (parse given limits).result = .ok t) (hmax : limits.maxDice = .int maxDice) :
    (t.dieCount : Int) ≤ maxDice := by
  obtain ⟨⟨digits, hdice⟩, -⟩ := bounded_of_parse h
  rw [hmax] at hdice
  exact le_of_bounded hdice

end Dicebox.Throw
