import Dicebox.Proofs.Throw.Alignment
import Dicebox.Proofs.Throw.Telling

/-!
# Throwing in pieces

Rolling some dice and then others on the source that they have left is rolling all of them at once
(`rollDice_add`). This is so on any source, also where the rolling is stopped, and is all that has
to be shown by going through the dice. Everything that a throw says about its faces besides, their
sum and what is added to it, is worked out from the list of them. Hence

> **two throws one after the other come to what one throw of all their dice comes to**

as far as faces, total and source are concerned, and a modifier is nothing but an amount that is
added to a total: the dice know nothing of it.

A throw in writing does not become another one if a modifier is written after it
(`read_append_plainModifier`), however oddly it is spelled.
-/

set_option autoImplicit false

namespace Dicebox

open Number

-- The sum of a list starts from core's own zero, whatever else is imported.
attribute [local instance (high)] Zero.ofOfNat0

/-! ## Dice after dice

To be joined, rolls need more than their faces: where the source is left, and whether anything has
stopped them, for then the dice after them are not rolled at all. -/

namespace Rolls

/-- Rolls, and those that come after them on what they leave, unless something has stopped them. -/
def andThen (r : Rolls) (others : Source → Rolls) : Rolls :=
  match r.stopped with
  | none => (others r.rest).after r.faces
  | some _ => r

theorem after_andThen (faces : List Int) (r : Rolls) (others : Source → Rolls) :
    (r.after faces).andThen others = (r.andThen others).after faces := by
  obtain ⟨shown, stopped, rest⟩ := r
  cases stopped with
  | none => simp only [andThen, after, List.append_assoc]
  | some fault => rfl

end Rolls

/-- Some dice and then others are all of them.

By the number of the first dice. The first die of all is the first die of the first part, so it is
taken off on both sides, and what it has shown is put before the rest. -/
theorem rollDice_add (sides m n : Nat) (s : Source) :
    rollDice sides (m + n) s = (rollDice sides m s).andThen (rollDice sides n) := by
  induction m generalizing s with
  | zero =>
    rw [Nat.zero_add]
    rfl
  | succ m ih =>
    rw [Nat.succ_add, rollDice_succ, rollDice_succ]
    cases rollDie sides s with
    | mk result rest =>
      cases result with
      | ok face =>
        dsimp only
        rw [ih, Rolls.after_andThen]
      | error fault => rfl

theorem rollDice_join {sides m n : Nat} {s here rest : Source} {first others : List Int}
    {stopped : Option Fault} (hfirst : rollDice sides m s = ⟨first, none, here⟩)
    (hothers : rollDice sides n here = ⟨others, stopped, rest⟩) :
    rollDice sides (m + n) s = ⟨first ++ others, stopped, rest⟩ := by
  rw [rollDice_add, hfirst, Rolls.andThen]
  dsimp only
  rw [hothers, Rolls.after]

namespace Source

/-- Whether a source can supply so many draws, all of them from zero to below one. Every generator
can. -/
def Supplies (n : Nat) : Source → Prop
  | .scripted draws => ∃ first : List Draw, first.length = n ∧ (∀ d ∈ first, d.InUnit) ∧
      first.map .ok <+: draws
  | .twister _ => True

theorem exists_take?_twister (n : Nat) (state : Twister) :
    ∃ draws rest, (twister state).take? n = some (draws, .twister rest) ∧
      ∀ d ∈ draws, d.InUnit := by
  induction n generalizing state with
  | zero => exact ⟨[], state, rfl, fun d hd => nomatch hd⟩
  | succ n ih =>
    obtain ⟨draws, rest, hdraws, hunit⟩ := ih state.draw.2
    refine ⟨state.draw.1 :: draws, rest, ?_, ?_⟩
    · rw [take?, draw?_twister]
      simp only [Except.toOption, Option.bind_eq_bind, Option.bind_some, hdraws]
      rfl
    · exact List.forall_mem_cons.mpr ⟨state.isFair_draw.inUnit, hunit⟩

theorem take?_scripted (first : List Draw) (others : List (Except Fault Draw)) :
    (scripted (first.map .ok ++ others)).take? first.length =
      some (first, .scripted others) := by
  induction first with
  | nil => rfl
  | cons d first ih =>
    show (draw? (.scripted (.ok d :: (first.map .ok ++ others))) >>= _) = _
    rw [draw?]
    simp only [Except.toOption, Option.bind_eq_bind, Option.bind_some, ih]
    rfl

theorem supplies_fractions {numerators : List Nat} (h : ∀ k ∈ numerators, k < Draw.denominator) :
    (scripted (numerators.map fun k => .ok (.fraction k))).Supplies numerators.length := by
  refine ⟨numerators.map Draw.fraction, List.length_map _, fun d hd => ?_, [], ?_⟩
  · obtain ⟨k, hk, rfl⟩ := List.mem_map.mp hd
    exact Draw.IsFair.inUnit ⟨k, h k hk, rfl⟩
  · rw [List.append_nil, List.map_map]
    rfl

theorem Supplies.exists_take? {n : Nat} {s : Source} (h : s.Supplies n) :
    ∃ draws rest, s.take? n = some (draws, rest) ∧ ∀ d ∈ draws, d.InUnit := by
  cases s with
  | scripted script =>
    obtain ⟨first, rfl, hunit, others, rfl⟩ := h
    exact ⟨first, .scripted others, take?_scripted first others, hunit⟩
  | twister state =>
    obtain ⟨draws, rest, hdraws, hunit⟩ := exists_take?_twister n state
    exact ⟨draws, .twister rest, hdraws, hunit⟩

end Source

/-! ## What a throw comes to

A throw that is finished has been announced, and all of its dice have been rolled; and the other way
round, if its total can be written. So to finish it with another modifier it is enough to look at
the numbers that are written. -/

namespace Throw

theorem isSome_announcement?_iff {t : Throw} :
    t.announcement?.isSome ↔ (Text.write? t.modifier.value).isSome ∧
      (Text.write? t.dieCount).isSome ∧ (Text.write? t.sides).isSome := by
  unfold announcement?
  cases Text.write? t.modifier.value with
  | none => simp
  | some value =>
    cases Text.write? t.dieCount with
    | none => simp
    | some dice => cases Text.write? t.sides <;> simp

/-- A throw that can be announced and of which all dice are rolled is finished, if its total can be
written. -/
theorem result_of_rolled {t : Throw} (watched : Bool) {s rest : Source} {faces : List Int}
    (hannounce : t.announcement?.isSome)
    (hroll : rollDice t.sides t.dieCount s = ⟨faces, none, rest⟩)
    (hwritten : (Text.write? (t.totalOf faces)).isSome) :
    (t.evaluate watched s).1.result = .ok (t.outcomeOf faces) := by
  obtain ⟨line, hline⟩ := Option.isSome_iff_exists.mp hannounce
  have hfinish : (t.finish watched faces).result = .ok (t.outcomeOf faces) := by
    unfold finish
    dsimp only
    rw [Text.write?_of_isSome hwritten]
    rfl
  unfold evaluate
  rw [hline]
  dsimp only
  rw [tell_eq, hroll]
  dsimp only
  rw [hfinish]

theorem announced_of_evaluate {t : Throw} {watched : Bool} {s : Source} {o : Outcome}
    (h : (t.evaluate watched s).1.result = .ok o) : t.announcement?.isSome := by
  unfold evaluate at h
  cases hannounce : t.announcement? with
  | none =>
    rw [hannounce] at h
    cases h
  | some line => rfl

theorem rolled_of_evaluate {t : Throw} {watched : Bool} {s : Source} {o : Outcome}
    (h : (t.evaluate watched s).1.result = .ok o) :
    rollDice t.sides t.dieCount s = ⟨o.faces, none, (t.evaluate watched s).2⟩ ∧
    o.total = o.faces.sum + t.modifier.amount := by
  rcases t.evaluate_cases watched s with ⟨fault, hfault, -⟩ | ⟨hstopped, hok, -, hrest⟩
  · rw [h] at hfault
    cases hfault
  · rw [h] at hok
    cases hok
    rw [hrest, ← hstopped]
    exact ⟨rfl, rfl⟩

/-- The same throw with a modifier. -/
def adding (t : Throw) (added : Modifier) (label : String) : Throw :=
  { t with modifier := added, label := label }

theorem evaluate_adding {t : Throw} {watched : Bool} {s : Source} {o : Outcome} {added : Modifier}
    (label : String) (h : (t.evaluate watched s).1.result = .ok o) (hnone : t.modifier = .none)
    (hvalue : (Text.write? added.value).isSome)
    (hwritten : (Text.write? (o.total + added.amount)).isSome) :
    ∃ o', ((t.adding added label).evaluate watched s).1.result = .ok o' ∧ o'.faces = o.faces ∧
      o'.total = o.total + added.amount ∧
      ((t.adding added label).evaluate watched s).2 = (t.evaluate watched s).2 := by
  obtain ⟨hroll, htotal⟩ := rolled_of_evaluate h
  have hsum : o.total = o.faces.sum := by
    rw [htotal, hnone]
    exact Int.add_zero _
  have htotal' : (t.adding added label).totalOf o.faces = o.total + added.amount := by
    rw [hsum]
    rfl
  obtain ⟨-, hdice, hsides⟩ := isSome_announcement?_iff.mp (announced_of_evaluate h)
  have hannounce : (t.adding added label).announcement?.isSome :=
    isSome_announcement?_iff.mpr ⟨hvalue, hdice, hsides⟩
  have hroll' : rollDice (t.adding added label).sides (t.adding added label).dieCount s =
      ⟨o.faces, none, (t.evaluate watched s).2⟩ := hroll
  have hresult := result_of_rolled watched hannounce hroll' (by rw [htotal']; exact hwritten)
  obtain ⟨hrest, -⟩ := rolled_of_evaluate hresult
  exact ⟨_, hresult, rfl, htotal', (Rolls.mk.inj (hrest.symm.trans hroll')).2.2⟩

end Throw

theorem rolled_of_evaluateText {watched : Bool} {given : Datum} {limits : Limits} {s : Source}
    {o : Outcome} (h : (evaluateText watched given limits s).1.result = .ok o) :
    rollDice o.thrown.sides o.thrown.dieCount s =
      ⟨o.faces, none, (evaluateText watched given limits s).2⟩ ∧
    o.total = o.faces.sum + o.thrown.modifier.amount := by
  obtain ⟨hread, -⟩ := parse_of_evaluateText watched s h
  rw [result_of_parse watched s hread] at h
  rw [rest_of_parse watched s hread]
  exact Throw.rolled_of_evaluate h

/-! ## In writing

A modifier is written after a throw without looking into it. That it is understood as the modifier
of this throw takes two things: the text is read as blocks in one way only, and a throw without a
modifier was written without one. -/

namespace Throw

/-- Blocks of which all numbers are within limits of any kind, with these numbers. -/
structure Blocks.IsWithin (b : Blocks) (limits : Limits) (dieCount sides : Nat) (sign : Sign)
    (value : Nat) : Prop where
  dice : Limits.bounded .dice b.dice limits.maxDice = .ok dieCount
  sides : Limits.bounded .sides b.sides limits.maxSides = .ok sides
  modifier : b.modifier = none ∧ sign = .none ∧ value = 0 ∨
    ∃ digits, b.modifier = some (sign, digits) ∧
      Limits.bounded .modifier digits limits.maxModifier = .ok value

theorem ofBlocks_of_isWithin {b : Blocks} {limits : Limits} {n s v : Nat} {sign : Sign}
    (h : b.IsWithin limits n s sign v) (label : String) :
    ofBlocks b limits label = (make n s sign v label).mapError .dice := by
  unfold ofBlocks
  rcases h.modifier with ⟨hnone, rfl, rfl⟩ | ⟨digits, hsome, hvalue⟩
  · simp only [h.dice, h.sides, hnone, bind, Except.bind]
  · simp only [h.dice, h.sides, hsome, hvalue, bind, Except.bind]

theorem exists_isWithin_of_ofBlocks {b : Blocks} {limits : Limits} {label : String} {t : Throw}
    (h : ofBlocks b limits label = .ok t) :
    ∃ n s sign v, b.IsWithin limits n s sign v ∧ make n s sign v label = .ok t := by
  have hmake : ∀ {n s v : Nat} {sign : Sign}, b.IsWithin limits n s sign v →
      make n s sign v label = .ok t := by
    intro n s v sign hwithin
    rw [ofBlocks_of_isWithin hwithin] at h
    cases hmade : make n s sign v label with
    | error e =>
      rw [hmade] at h
      cases h
    | ok t' =>
      rw [hmade] at h
      cases h
      rfl
  unfold ofBlocks at h
  cases hdice : Limits.bounded .dice b.dice limits.maxDice with
  | error fault =>
    rw [hdice] at h
    cases h
  | ok n =>
    cases hsides : Limits.bounded .sides b.sides limits.maxSides with
    | error fault =>
      rw [hdice, hsides] at h
      cases h
    | ok s =>
      cases hmodifier : b.modifier with
      | none =>
        have hwithin : b.IsWithin limits n s .none 0 :=
          ⟨hdice, hsides, Or.inl ⟨hmodifier, rfl, rfl⟩⟩
        exact ⟨n, s, .none, 0, hwithin, hmake hwithin⟩
      | some m =>
        obtain ⟨sign, digits⟩ := m
        cases hvalue : Limits.bounded .modifier digits limits.maxModifier with
        | error fault =>
          simp only [hdice, hsides, hmodifier, hvalue, bind, Except.bind] at h
          cases h
        | ok v =>
          have hwithin : b.IsWithin limits n s sign v :=
            ⟨hdice, hsides, Or.inr ⟨digits, hmodifier, hvalue⟩⟩
          exact ⟨n, s, sign, v, hwithin, hmake hwithin⟩

variable {maxDice maxSides maxModifier : Int}

theorem bounded_toDigits (quantity : Quantity) {k : Nat} {most : Int} (hle : k ≤ most)
    (hwritten : (Text.write? most).isSome) :
    Limits.bounded quantity (Nat.toDigits 10 k) (.int most) = .ok k := by
  rw [Limits.bounded_of_isComparable quantity (Blocks.isDigitBlock_toDigits k)
    (Text.isComparable_of_nonneg (by omega) hwritten), Blocks.number_toDigits,
    if_neg (Int.not_lt.mpr hle)]

/-- Without a modifier its limit does not matter, whatever it is. -/
theorem read_plainText_none {n s : Nat} {most : Datum} (hn : 0 < n) (hs : 0 < s)
    (hdice : n ≤ maxDice) (hsides : s ≤ maxSides) (hd : (Text.write? maxDice).isSome)
    (hs' : (Text.write? maxSides).isSome) :
    read (plainText n s .none) ⟨.int maxDice, .int maxSides, most⟩ =
      .ok ⟨n, s, .none, plainText n s .none, hn, hs⟩ := by
  have hb := wellFormed_plainBlocks n s .none
  have hwithin : (plainBlocks n s .none).IsWithin ⟨.int maxDice, .int maxSides, most⟩ n s .none 0 :=
    ⟨bounded_toDigits _ hdice hd, bounded_toDigits _ hsides hs', Or.inl ⟨rfl, rfl, rfl⟩⟩
  have hspelling : Text.dropBlanks (plainText n s .none).toList =
      (plainBlocks n s .none).spelling := by
    rw [toList_plainText, Blocks.dropBlanks_spelling hb]
  rw [read_of_spelling _ hb hspelling, ofBlocks_of_isWithin hwithin]
  exact congrArg (Except.mapError Fault.dice) (make_none n s _ hn hs)

/-- A modifier that is written after a throw without one is added to it, and it is the same throw
otherwise. -/
theorem read_append_plainModifier {text : String} {limits : Limits} {t : Throw} {added : Modifier}
    (hread : read text limits = .ok t) (hnone : t.modifier = .none)
    (hmax : limits.maxModifier = .int maxModifier) (hle : added.value ≤ maxModifier)
    (hwritten : (Text.write? maxModifier).isSome) :
    read (text ++ plainModifier added) limits =
      .ok (t.adding added (text ++ plainModifier added)) := by
  unfold read at hread
  cases hblocks : Blocks.read? (Text.dropBlanks text.toList) with
  | none =>
    rw [hblocks] at hread
    cases hread
  | some b =>
    rw [hblocks] at hread
    obtain ⟨hspelling, hb⟩ := Blocks.eq_spelling_of_read? hblocks
    obtain ⟨n, s, sign, v, hwithin, hmake⟩ := exists_isWithin_of_ofBlocks hread
    obtain ⟨hn, hs, -, hsign, -, -⟩ := eq_of_make hmake
    -- The sign of a modifier in writing is the sign of the throw, and it has none.
    have hunsigned : b.modifier = none := by
      rcases hwithin.modifier with ⟨hmodifier, -⟩ | ⟨digits, hmodifier, -⟩
      · exact hmodifier
      · rw [hnone] at hsign
        exact absurd hsign.symm (hb.modifier sign digits hmodifier).1
    obtain rfl : t.dieCount = n := Int.ofNat.inj hn
    obtain rfl : t.sides = s := Int.ofNat.inj hs
    let b' : Blocks := { b with modifier := plainModifierBlock added }
    have hb' : b'.WellFormed := ⟨hb.dice, hb.sides, signed_plainModifierBlock added⟩
    have hspelling' : Text.dropBlanks (text ++ plainModifier added).toList = b'.spelling := by
      rw [String.toList_append, Text.dropBlanks_append, hspelling, toList_plainModifier,
        Blocks.dropBlanks_modifierSpelling (signed_plainModifierBlock added)]
      simp [Blocks.spelling, b', hunsigned, Blocks.modifierSpelling]
    have hwithin' : b'.IsWithin limits t.dieCount t.sides added.sign added.value := by
      refine ⟨hwithin.dice, hwithin.sides, ?_⟩
      rw [hmax]
      cases added with
      | none => exact Or.inl ⟨rfl, rfl, rfl⟩
      | plus v => exact Or.inr ⟨_, rfl, bounded_toDigits _ hle hwritten⟩
      | minus v => exact Or.inr ⟨_, rfl, bounded_toDigits _ hle hwritten⟩
    rw [read_of_spelling _ hb' hspelling', ofBlocks_of_isWithin hwithin']
    cases added with
    | none =>
      exact congrArg (Except.mapError Fault.dice) (make_none _ _ _ t.dieCount_pos t.sides_pos)
    | plus v =>
      exact congrArg (Except.mapError Fault.dice) (make_plus _ _ v _ t.dieCount_pos t.sides_pos)
    | minus v =>
      exact congrArg (Except.mapError Fault.dice) (make_minus _ _ v _ t.dieCount_pos t.sides_pos)

end Throw

/-! ## Pieces and the whole

The draws are taken from the source beforehand, split where the first piece ends, and given to the
two pieces. That a source has them is all that is asked of it (`Supplies`). -/

section

open Throw

variable (watched : Bool) {maxDice maxSides : Int} (maxModifier : Int)

theorem exists_outcome_plainText {n sides : Nat} {s rest : Source} {draws : List Draw}
    (hn : 0 < n) (hs : 0 < sides) (hdouble : (Double.ofInt? sides).isSome) (hdice : n ≤ maxDice)
    (hsides : sides ≤ maxSides) (hd : (Text.write? maxDice).isSome)
    (hs' : (Text.write? maxSides).isSome)
    (hwritten : (Text.write? ((n * sides : Nat) : Int)).isSome)
    (hdraws : s.take? n = some (draws, rest)) (hunit : ∀ d ∈ draws, d.InUnit) :
    let thrown := evaluateText watched (.text (plainText n sides .none))
      (.ofIntegers maxDice maxSides maxModifier) s
    ∃ o, thrown.1.result = .ok o ∧ thrown.2 = rest ∧
      rollDice sides n s = ⟨o.faces, none, rest⟩ ∧ o.faces.length = n ∧ o.total = o.faces.sum := by
  dsimp only
  have hread : (Throw.parse (.text (plainText n sides .none))
      (.ofIntegers maxDice maxSides maxModifier)).result =
        .ok ⟨n, sides, .none, plainText n sides .none, hn, hs⟩ := by
    rw [parse_text_result]
    exact read_plainText_none hn hs hdice hsides hd hs'
  obtain ⟨o, ho, hfaces⟩ := exists_outcome watched hread hdouble hwritten hdraws hunit
  obtain ⟨hthrown, -⟩ := parse_of_evaluateText watched s ho
  obtain ⟨hroll, htotal⟩ := rolled_of_evaluateText ho
  have hthrown : o.thrown = _ := Except.ok.inj (hthrown.symm.trans hread)
  have hrolled := rollDice_of_take? hdraws hfaces
  have hlength := length_rollDice (congrArg Rolls.stopped hrolled)
  rw [hrolled] at hlength
  refine ⟨o, ho, ?_, hrolled, hlength, ?_⟩
  · rw [hthrown, hrolled] at hroll
    exact (Rolls.mk.inj hroll).2.2.symm
  · rw [htotal, hthrown]
    exact Int.add_zero _

/-- A throw that is finished without a modifier is finished with one written after it, if the total
can still be written. -/
theorem exists_outcome_append_plainModifier {text : String} {added : Modifier} {s : Source}
    {o : Outcome} (ho : (evaluateText watched (.text text)
      (.ofIntegers maxDice maxSides maxModifier) s).1.result = .ok o)
    (hnone : o.thrown.modifier = .none) (hle : added.value ≤ maxModifier)
    (hmax : (Text.write? maxModifier).isSome)
    (hwritten : (Text.write? (o.total + added.amount)).isSome) :
    let limits := Limits.ofIntegers maxDice maxSides maxModifier
    let changed := evaluateText watched (.text (text ++ plainModifier added)) limits s
    ∃ o', changed.1.result = .ok o' ∧ o'.faces = o.faces ∧ o'.total = o.total + added.amount ∧
      changed.2 = (evaluateText watched (.text text) limits s).2 := by
  intro limits changed
  obtain ⟨hparse, -⟩ := parse_of_evaluateText watched s ho
  have hplain := (result_of_parse watched s hparse).symm.trans ho
  have hvalue : (Text.write? (added.value : Int)).isSome :=
    Text.isSome_write?_of_le (by omega) hmax
  have hread := hparse
  rw [parse_text_result] at hread
  have hchanged := read_append_plainModifier hread hnone rfl hle hmax
  rw [← parse_text_result] at hchanged
  rw [show changed.1.result = _ from result_of_parse watched s hchanged,
    show changed.2 = _ from rest_of_parse watched s hchanged, rest_of_parse watched s hparse]
  exact evaluate_adding _ hplain hnone hvalue hwritten

/-- **Two throws one after the other are one throw of all their dice, and a modifier is added and
does nothing else.**

Each piece shows as many faces as it has dice, and the pieces and the whole find the same faces in
the same order, on the same draws: one for each die, after which the source is in the same place.
There are draws enough on every generator. With a modifier written after it a text asks for the same
throw, with the same draws, and its total is moved by exactly this modifier.

The numbers of faces and of draws are stated because nothing else here says that a die was rolled at
all: to relate the pieces to the whole, a thrower without dice would do. -/
theorem throws_add_up (maxDice maxSides : Int) (s : Source) :
    let limits := Limits.ofIntegers maxDice maxSides maxModifier
    (∀ n m sides : Nat, 0 < n → 0 < m → 0 < sides → (Double.ofInt? sides).isSome →
      ((n + m : Nat) : Int) ≤ maxDice → sides ≤ maxSides → (Text.write? maxDice).isSome →
      (Text.write? maxSides).isSome → (Text.write? (((n + m) * sides : Nat) : Int)).isSome →
      s.Supplies (n + m) →
      let first := evaluateText watched (.text (plainText n sides .none)) limits s
      let second := evaluateText watched (.text (plainText m sides .none)) limits first.2
      let whole := evaluateText watched (.text (plainText (n + m) sides .none)) limits s
      ∃ a b c, first.1.result = .ok a ∧ second.1.result = .ok b ∧ whole.1.result = .ok c ∧
        a.faces.length = n ∧ b.faces.length = m ∧ c.faces = a.faces ++ b.faces ∧
        c.total = a.total + b.total ∧ whole.2 = second.2 ∧
        ∃ draws, s.take? (n + m) = some (draws, whole.2)) ∧
    (∀ (text : String) (added : Modifier) (o : Outcome),
      let plain := evaluateText watched (.text text) limits s
      let changed := evaluateText watched (.text (text ++ plainModifier added)) limits s
      plain.1.result = .ok o → o.thrown.modifier = .none → added.value ≤ maxModifier →
      (Text.write? maxModifier).isSome → (Text.write? (o.total + added.amount)).isSome →
      ∃ o', changed.1.result = .ok o' ∧ o'.faces = o.faces ∧
        o'.total = o.total + added.amount ∧ changed.2 = plain.2) := by
  dsimp only
  constructor
  · intro n m sides hn hm hs hdouble hdice hsides hd hs' hwritten hsupply
    obtain ⟨draws, rest, hdraws, hunit⟩ := hsupply.exists_take?
    obtain ⟨before, here, after, hbefore, hafter, hjoin⟩ := Source.take?_add hdraws
    have hunits := hunit
    rw [hjoin, List.forall_mem_append] at hunits
    have hwritten' : ∀ k ≤ n + m, (Text.write? ((k * sides : Nat) : Int)).isSome := by
      intro k hk
      refine Text.isSome_write?_of_le ?_ hwritten
      rw [Int.natAbs_natCast, Int.natAbs_natCast]
      exact Nat.mul_le_mul_right sides hk
    obtain ⟨a, ha, hhere, hrollFirst, hlengthFirst, hsumFirst⟩ :=
      exists_outcome_plainText watched maxModifier hn hs hdouble (by omega) hsides hd hs'
        (hwritten' n (by omega)) hbefore hunits.1
    obtain ⟨b, hb, hrest, hrollSecond, hlengthSecond, hsumSecond⟩ :=
      exists_outcome_plainText watched maxModifier hm hs hdouble (by omega) hsides hd hs'
        (hwritten' m (by omega)) hafter hunits.2
    obtain ⟨c, hc, hrestWhole, hrollWhole, -, hsumWhole⟩ :=
      exists_outcome_plainText watched maxModifier (by omega : 0 < n + m) hs hdouble hdice hsides
        hd hs' hwritten hdraws hunit
    have hjoined := hrollWhole.symm.trans (rollDice_join hrollFirst hrollSecond)
    have hfaces : c.faces = a.faces ++ b.faces := (Rolls.mk.inj hjoined).1
    have htotal : c.total = a.total + b.total := by
      rw [hsumWhole, hsumFirst, hsumSecond, hfaces, List.sum_append]
    rw [hhere]
    exact ⟨a, b, c, ha, hb, hc, hlengthFirst, hlengthSecond, hfaces, htotal,
      hrestWhole.trans hrest.symm, draws, by rw [hrestWhole, hdraws]⟩
  · intro text added o ho hnone hle hmax hwritten
    exact exists_outcome_append_plainModifier watched maxModifier ho hnone hle hmax hwritten

/-- Two dice one by one, two dice at once, and two dice with a modifier. The script has exactly two
draws, and every way of throwing uses them up. -/
theorem throws_add_up_two_dice :
    let limits := Limits.ofIntegers 100000 100000 1000000
    let s : Source := .scripted ([0, 2 ^ 52].map fun k => .ok (.fraction k))
    let first := evaluateText true (.text "1d6") limits s
    let second := evaluateText true (.text "1d6") limits first.2
    let whole := evaluateText true (.text "2d6") limits s
    let changed := evaluateText true (.text "2d6-7") limits s
    (∃ a b c d : Outcome, first.1.result = .ok a ∧ second.1.result = .ok b ∧
      whole.1.result = .ok c ∧ changed.1.result = .ok d ∧
      a.faces = [1] ∧ a.total = 1 ∧ b.faces = [4] ∧ b.total = 4 ∧
      c.faces = [1, 4] ∧ c.total = 5 ∧ d.faces = [1, 4] ∧ d.total = -2) ∧
    second.2 = .scripted [] ∧ whole.2 = .scripted [] ∧ changed.2 = .scripted [] := by
  intro limits s first second whole changed
  have hlimits : limits = .ofIntegers 100000 100000 1000000 := rfl
  obtain ⟨hpieces, hadded⟩ := throws_add_up true 1000000 100000 100000 s
  rw [← hlimits] at hpieces hadded
  have hsupply : s.Supplies 2 := @Source.supplies_fractions [0, 2 ^ 52] (by decide)
  have hone : plainText 1 6 .none = "1d6" := by decide +kernel
  have htwo : plainText (1 + 1) 6 .none = "2d6" := by decide +kernel
  have hseven : "2d6" ++ plainModifier (.minus 7) = "2d6-7" := by decide +kernel
  obtain ⟨a, b, c, ha, hb, hc, hlength, -, hfaces, htotal, hsource, draws, hdraws⟩ :=
    hpieces 1 1 6 (by decide) (by decide) (by decide) (by decide) (by decide) (by decide)
      (by decide +kernel) (by decide +kernel) (by decide +kernel) hsupply
  rw [hone] at ha hb hsource
  rw [htwo] at hc hsource hdraws
  have hfirst : first = evaluateText true (.text "1d6") limits s := rfl
  have hsecond : second = evaluateText true (.text "1d6") limits first.2 := rfl
  have hwhole : whole = evaluateText true (.text "2d6") limits s := rfl
  have hchanged : changed = evaluateText true (.text "2d6-7") limits s := rfl
  rw [← hfirst] at ha hb hsource
  rw [← hsecond] at hb hsource
  rw [← hwhole] at hc hsource hdraws
  have hused : whole.2 = .scripted [] := by
    have htaken : s.take? 2 = some ([.fraction 0, .fraction (2 ^ 52)], .scripted []) := rfl
    rw [htaken] at hdraws
    exact (Prod.mk.inj (Option.some.inj hdraws)).2.symm
  -- The two faces of the whole throw are worked out, and so is the total of the first piece.
  have hthrown : whole.1.result.toOption.map
      (fun o => (o.faces, o.total, o.thrown.modifier)) = some ([1, 4], 5, .none) := by
    decide +kernel
  rw [hc] at hthrown
  obtain ⟨hboth, hmodifier⟩ := Prod.mk.inj (Option.some.inj hthrown)
  obtain ⟨hfive, hnone⟩ := Prod.mk.inj hmodifier
  have hsingle : first.1.result.toOption.map (·.total) = some 1 := by decide +kernel
  rw [ha] at hsingle
  have hsingle : a.total = 1 := Option.some.inj hsingle
  have hsplit : [1] ++ [4] = a.faces ++ b.faces := hboth.symm.trans hfaces
  obtain ⟨ha', hb'⟩ := List.append_inj hsplit hlength.symm
  obtain ⟨d, hd, hfaces', htotal', hsource'⟩ := hadded "2d6" (.minus 7) c (hwhole ▸ hc) hnone
    (by decide) (by decide +kernel) (by rw [hfive]; decide +kernel)
  rw [hseven, ← hchanged] at hd hsource'
  rw [← hwhole] at hsource'
  rw [hfive] at htotal htotal'
  refine ⟨⟨a, b, c, d, ha, hb, hc, hd, ha'.symm, hsingle, hb'.symm, by omega, hboth, hfive,
    hfaces'.trans hboth, htotal'⟩, hsource.symm.trans hused, hused, hsource'.trans hused⟩

end

end Dicebox
