import Dicebox.Proofs.Throw.Limits
import Dicebox.Throw.Parse

/-!
# What is read, and what each other text is told

A text either consists of well-formed blocks once its blanks are gone, or it does not, and
`Blocks.read?_eq_some_iff` already says that reading finds this out. This file adds what happens to
the blocks:

> **the first of six verdicts that applies** — too many dice, too many sides, too large a modifier,
> no dice, no sides, a throw.

`Blocks.verdict` is that list, written in terms of the numbers that the blocks stand for. Nothing in
it mentions a length: that blocks are measured before they are converted has been accounted for by
`Limits.bounded_of_isComparable`, so the verdict on a text does not depend on how its numbers are
spelled.
-/

set_option autoImplicit false

namespace Dicebox.Throw

namespace Blocks

/-- The sign of the modifier in writing. -/
def sign (b : Blocks) : Sign :=
  match b.modifier with
  | none => .none
  | some (sign, _) => sign

/-- The value of the modifier in writing; zero if there is none. -/
def value (b : Blocks) : Nat :=
  match b.modifier with
  | none => 0
  | some (_, digits) => number digits

end Blocks

/-- The modifier of a sign and a value. A value without a sign is lost here; blocks have none. -/
def modifierOf : Sign → Nat → Modifier
  | .none, _ => .none
  | .plus, v => .plus v
  | .minus, v => .minus v

/-- The mistake of an amount above its limit. The text is no part of it. -/
def exceeds (quantity : Quantity) (n : Nat) (limit : Int) : Fault :=
  .dice (.limitExceeded quantity (Limits.reported n limit) (.int limit))

/-- The mistake of a text that has the grammar of a throw and is none. -/
def objected (text : String) (objection : Objection) : Fault :=
  .dice (.invalidNotation (.text text) (some objection))

/-- What becomes of blocks in a text: the first objection that there is, or a throw.

Limits come before the question whether there are dice at all. So no dice with too many sides are
too many sides, and under a limit below zero no dice are too many dice. -/
def Blocks.verdict (b : Blocks) (maxDice maxSides maxModifier : Int) (text : String) :
    Except Fault Throw :=
  if maxDice < number b.dice then .error (exceeds .dice (number b.dice) maxDice)
  else if maxSides < number b.sides then .error (exceeds .sides (number b.sides) maxSides)
  else if b.modifier.isSome ∧ maxModifier < b.value then
    .error (exceeds .modifier b.value maxModifier)
  else if hn : number b.dice = 0 then .error (objected text .noDice)
  else if hs : number b.sides = 0 then .error (objected text .noSides)
  else .ok
    { dieCount := number b.dice
      sides := number b.sides
      modifier := modifierOf b.sign b.value
      label := text
      dieCount_pos := Nat.pos_of_ne_zero hn
      sides_pos := Nat.pos_of_ne_zero hs }

/-! ## The check of the numbers

The numbers of blocks are naturals, and so two of the four objections that can be made to a throw
never apply: that a modifier is below zero, and that there is one without a sign. -/

theorem make_natCast (n s v : Nat) {sign : Sign} (hv : sign = .none → v = 0) (text : String) :
    (make n s sign v text).mapError Fault.dice =
      if hn : n = 0 then .error (objected text .noDice)
      else if hs : s = 0 then .error (objected text .noSides)
      else .ok ⟨n, s, modifierOf sign v, text, Nat.pos_of_ne_zero hn, Nat.pos_of_ne_zero hs⟩ := by
  by_cases hn : n = 0
  · subst hn
    have hmake : make (0 : Nat) s sign v text =
        .error (.invalidNotation (.text text) (some .noDice)) := by simp [make]
    rw [hmake, dif_pos rfl]
    rfl
  · by_cases hs : s = 0
    · subst hs
      have h1 : ¬ ((n : Int) < 1) := by omega
      have hmake : make n (0 : Nat) sign v text =
          .error (.invalidNotation (.text text) (some .noSides)) := by simp [make, h1]
      rw [hmake, dif_neg hn, dif_pos rfl]
      rfl
    · rw [dif_neg hn, dif_neg hs]
      have hn' := Nat.pos_of_ne_zero hn
      have hs' := Nat.pos_of_ne_zero hs
      cases sign with
      | none =>
        rw [hv rfl]
        exact congrArg (Except.mapError Fault.dice) (make_none n s text hn' hs')
      | plus => rw [make_plus n s v text hn' hs']; rfl
      | minus => rw [make_minus n s v text hn' hs']; rfl

variable {maxDice maxSides maxModifier : Int}

/-- The numbers of well-formed blocks are judged in the order of the verdicts.

Each limit is looked at after the one before has let its number through, so the proof goes through
the verdicts in their order, and every step leaves one case less. -/
theorem ofBlocks_of_isComparable {b : Blocks} (hb : b.WellFormed)
    (hd : Text.IsComparable maxDice) (hs : Text.IsComparable maxSides)
    (hm : Text.IsComparable maxModifier) (text : String) :
    ofBlocks b (.ofIntegers maxDice maxSides maxModifier) text =
      b.verdict maxDice maxSides maxModifier text := by
  rw [Blocks.verdict]
  simp only [ofBlocks, Limits.ofIntegers, Limits.bounded_of_isComparable .dice hb.dice hd,
    Limits.bounded_of_isComparable .sides hb.sides hs]
  by_cases h1 : maxDice < Blocks.number b.dice
  · rw [if_pos h1, if_pos h1]; rfl
  · rw [if_neg h1, if_neg h1]
    by_cases h2 : maxSides < Blocks.number b.sides
    · rw [if_pos h2, if_pos h2]; rfl
    · rw [if_neg h2, if_neg h2]
      cases hmod : b.modifier with
      | none =>
        have hsign : b.sign = .none := by rw [Blocks.sign, hmod]
        have hvalue : b.value = 0 := by rw [Blocks.value, hmod]
        rw [if_neg (by simp), hsign, hvalue]
        exact make_natCast _ _ 0 (fun _ => rfl) text
      | some m =>
        -- A modifier in writing has a sign, so its value may be anything.
        obtain ⟨sign, digits⟩ := m
        obtain ⟨hne, hdigits⟩ := hb.modifier sign digits hmod
        have hsign : b.sign = sign := by rw [Blocks.sign, hmod]
        have hvalue : b.value = Blocks.number digits := by rw [Blocks.value, hmod]
        simp only [Limits.bounded_of_isComparable .modifier hdigits hm]
        rw [hsign, hvalue]
        by_cases h3 : maxModifier < Blocks.number digits
        · rw [if_pos h3, if_pos ⟨rfl, h3⟩]; rfl
        · rw [if_neg h3, if_neg fun h => h3 h.2]
          exact make_natCast _ _ _ (fun h => absurd h hne) text

theorem ofBlocks_eq_verdict {b : Blocks} (hb : b.WellFormed) (hd : Text.IsShort maxDice)
    (hs : Text.IsShort maxSides) (hm : Text.IsShort maxModifier) (text : String) :
    ofBlocks b (.ofIntegers maxDice maxSides maxModifier) text =
      b.verdict maxDice maxSides maxModifier text :=
  ofBlocks_of_isComparable hb hd.isComparable hs.isComparable hm.isComparable text

/-! ## All texts

Whether a text is a spelling of blocks is put as a question about all blocks there are. That reading
answers it is known, so the two cases exclude each other and leave nothing out. -/

theorem Blocks.kind_of_verdict {b : Blocks} {text : String} {fault : Fault}
    (h : b.verdict maxDice maxSides maxModifier text = .error fault) :
    ∃ e : DiceError, fault = .dice e ∧
      (e.kind = "limit_exceeded" ∨ e.kind = "invalid_notation") := by
  unfold verdict at h
  split at h
  · cases h; exact ⟨_, rfl, Or.inl rfl⟩
  · split at h
    · cases h; exact ⟨_, rfl, Or.inl rfl⟩
    · split at h
      · cases h; exact ⟨_, rfl, Or.inl rfl⟩
      · split at h
        · cases h; exact ⟨_, rfl, Or.inr rfl⟩
        · split at h
          · cases h; exact ⟨_, rfl, Or.inr rfl⟩
          · cases h

theorem read_of_not_spelling {text : String} (limits : Limits)
    (h : ∀ b : Blocks, b.WellFormed → Text.dropBlanks text.toList ≠ b.spelling) :
    read text limits = .error (notAThrow (.text text)) := by
  have hnone : Blocks.read? (Text.dropBlanks text.toList) = none := by
    cases hread : Blocks.read? (Text.dropBlanks text.toList) with
    | none => rfl
    | some b =>
      obtain ⟨hspell, hwell⟩ := Blocks.eq_spelling_of_read? hread
      exact absurd hspell (h b hwell)
  rw [read, hnone]

theorem read_of_spelling {text : String} {b : Blocks} (limits : Limits) (hb : b.WellFormed)
    (h : Text.dropBlanks text.toList = b.spelling) : read text limits = ofBlocks b limits text := by
  rw [read, Blocks.read?_eq_some_iff.mpr ⟨h, hb⟩]

/-- **Every text is classified.** Without its blanks it is no spelling of well-formed blocks, and
is refused as it was given; or it is one, and the numbers of the blocks get the first verdict that
applies to them. Nothing else is ever the matter with a text.

The limits have to be short. A number is never compared with a limit that cannot be written, and
reading fails there for a reason that has nothing to do with the text. -/
theorem parse_classifies (text : String) (hd : Text.IsShort maxDice) (hs : Text.IsShort maxSides)
    (hm : Text.IsShort maxModifier) :
    let result := (parse (.text text) (.ofIntegers maxDice maxSides maxModifier)).result
    ((∀ b : Blocks, b.WellFormed → Text.dropBlanks text.toList ≠ b.spelling) →
      result = .error (.dice (.invalidNotation (.text text) none))) ∧
    (∀ b : Blocks, b.WellFormed → Text.dropBlanks text.toList = b.spelling →
      result = b.verdict maxDice maxSides maxModifier text) ∧
    (∀ fault, result = .error fault → ∃ e : DiceError, fault = .dice e ∧
      (e.kind = "limit_exceeded" ∨ e.kind = "invalid_notation")) := by
  intro result
  have hresult : result = read text (.ofIntegers maxDice maxSides maxModifier) :=
    parse_text_result text _
  have hverdict : ∀ b : Blocks, b.WellFormed → Text.dropBlanks text.toList = b.spelling →
      result = b.verdict maxDice maxSides maxModifier text := by
    intro b hb hspell
    rw [hresult, read_of_spelling _ hb hspell, ofBlocks_eq_verdict hb hd hs hm]
  refine ⟨fun h => ?_, hverdict, fun fault hfault => ?_⟩
  · rw [hresult, read_of_not_spelling _ h]; rfl
  · by_cases h : ∃ b : Blocks, b.WellFormed ∧ Text.dropBlanks text.toList = b.spelling
    · obtain ⟨b, hb, hspell⟩ := h
      rw [hverdict b hb hspell] at hfault
      exact Blocks.kind_of_verdict hfault
    · have hnone := read_of_not_spelling (.ofIntegers maxDice maxSides maxModifier)
        fun b hb hspell => h ⟨b, hb, hspell⟩
      rw [hresult, hnone] at hfault
      cases hfault
      exact ⟨_, rfl, Or.inr rfl⟩

/-- No dice and too many sides, under a limit that nothing is within: the sides are found first. -/
theorem parse_classifies_zero_dice :
    Text.IsShort 0 ∧ Text.IsShort (-5) ∧ Text.IsShort 1000000 ∧
    (parse (.text "0 0d7\t7-1") (.ofIntegers 0 (-5) 1000000)).result =
      .error (exceeds .sides 77 (-5)) := by
  have hdigits : ∀ cs, Blocks.isDigitBlock cs = true → Blocks.IsDigitBlock cs :=
    fun _ => Blocks.isDigitBlock_iff.mp
  have hd : Text.IsShort 0 := by decide
  have hs : Text.IsShort (-5) := by decide
  have hm : Text.IsShort 1000000 := by decide
  have hwell : Blocks.WellFormed ⟨['0', '0'], ['7', '7'], some (.minus, ['1'])⟩ :=
    { dice := hdigits _ (by decide)
      sides := hdigits _ (by decide)
      modifier := by
        rintro sign digits ⟨rfl, rfl⟩
        exact ⟨by decide, hdigits _ (by decide)⟩ }
  exact ⟨hd, hs, hm, (parse_classifies "0 0d7\t7-1" hd hs hm).2.1 _ hwell (by decide)⟩

end Dicebox.Throw
