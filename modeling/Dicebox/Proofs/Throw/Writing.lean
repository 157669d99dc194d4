import Mathlib.Data.List.TakeWhile
import Dicebox.Proofs.Text.Zeros
import Dicebox.Proofs.Throw.Spelling

/-!
# Ways of writing a throw

A throw may be written with blanks and leading zeros, and

> **every way of writing it is read alike:** as the same throw, or with the same objection.

The text itself is kept as the label of the throw, and is what a text that is no throw is refused
with. That is the whole difference between the answers to two ways of writing (`relabel`).

The blocks of a text are found in its plain text as well, with their leading zeros gone
(`read?_dropZeros`), and not one block more or less. So texts of the same writing consist of blocks
for the same numbers, and the verdict on blocks is one on their numbers.
-/

set_option autoImplicit false

namespace Dicebox.Throw

namespace Blocks

/-- The blocks without their leading zeros. -/
def plain (b : Blocks) : Blocks :=
  ⟨Text.significant b.dice, Text.significant b.sides,
    b.modifier.map fun m => (m.1, Text.significant m.2)⟩

/-! ## The blocks of the plain text

Reading takes digits, a letter, digits, and what is left is a modifier or nothing. Dropping zeros is
compared with each of these steps, and at each of them it can be put off until afterwards. -/

theorem dropZeros_of_isDigitBlock {digits : List Char} (h : IsDigitBlock digits) :
    Text.dropZeros false digits = Text.significant digits := by
  have htake : digits.takeWhile Char.isDigit = digits := List.takeWhile_eq_self_iff.mpr h.2
  have hdrop : (Text.dropZeros false digits).dropWhile Char.isDigit = [] := by
    rw [Text.dropWhile_dropZeros, List.dropWhile_eq_nil_iff.mpr h.2]
    rfl
  have hall :=
    List.takeWhile_append_dropWhile (p := Char.isDigit) (l := Text.dropZeros false digits)
  rw [hdrop, List.append_nil, Text.takeWhile_dropZeros (by rw [htake]; exact h.1), htake] at hall
  exact hall.symm

theorem isDigitBlock_dropZeros (cs : List Char) :
    isDigitBlock (Text.dropZeros false cs) = isDigitBlock cs := by
  rw [Bool.eq_iff_iff, isDigitBlock_iff, isDigitBlock_iff, IsDigitBlock, IsDigitBlock,
    ← List.dropWhile_eq_nil_iff, ← List.dropWhile_eq_nil_iff, Text.dropWhile_dropZeros,
    Ne, Text.dropZeros_eq_nil_iff, Text.dropZeros_eq_nil_iff]

theorem readModifier?_cons_of_ne {c : Char} (hplus : c ≠ '+') (hminus : c ≠ '-') (cs : List Char) :
    readModifier? (c :: cs) = none := by
  unfold readModifier?
  split
  · next h => cases h
  · next h => exact absurd (List.cons.inj h).1 hplus
  · next h => exact absurd (List.cons.inj h).1 hminus
  · rfl

theorem readModifier?_of_startsWithDigit {cs : List Char} (h : Text.startsWithDigit cs = true) :
    readModifier? cs = none := by
  cases cs with
  | nil => cases h
  | cons c rest =>
    have hc : c.isDigit = true := h
    refine readModifier?_cons_of_ne ?_ ?_ rest
    · rintro rfl
      cases hc
    · rintro rfl
      cases hc

theorem readModifier?_dropZeros (cs : List Char) :
    readModifier? (Text.dropZeros false cs) =
      (readModifier? cs).map (Option.map fun m => (m.1, Text.significant m.2)) := by
  cases cs with
  | nil => rfl
  | cons c digits =>
    cases hc : c.isDigit with
    | true =>
      have hstart : Text.startsWithDigit (c :: digits) = true := hc
      rw [readModifier?_of_startsWithDigit hstart,
        readModifier?_of_startsWithDigit (Text.startsWithDigit_dropZeros hstart)]
      rfl
    | false =>
      have hsigned : ∀ sign : Sign,
          (if isDigitBlock (Text.dropZeros false digits) then
            some (some (sign, Text.dropZeros false digits)) else none) =
          (if isDigitBlock digits then some (some (sign, digits)) else none).map
            (Option.map fun m => (m.1, Text.significant m.2)) := by
        intro sign
        rw [isDigitBlock_dropZeros]
        by_cases hdigits : isDigitBlock digits = true
        · rw [if_pos hdigits, if_pos hdigits,
            dropZeros_of_isDigitBlock (isDigitBlock_iff.mp hdigits)]
          rfl
        · rw [if_neg hdigits, if_neg hdigits]
          rfl
      -- A sign is no digit, so it stays, and what comes after it is plain by itself.
      rw [Text.dropZeros_of_not_isDigit hc]
      by_cases hplus : c = '+'
      · rw [hplus]
        exact hsigned .plus
      · by_cases hminus : c = '-'
        · rw [hminus]
          exact hsigned .minus
        · rw [readModifier?_cons_of_ne hplus hminus, readModifier?_cons_of_ne hplus hminus]
          rfl

theorem read?_of_letter {cs rest : List Char} (h : cs.dropWhile Char.isDigit = 'd' :: rest) :
    read? cs =
      if cs.takeWhile Char.isDigit = [] ∨ rest.takeWhile Char.isDigit = [] then none
      else (readModifier? (rest.dropWhile Char.isDigit)).map fun m =>
        ⟨cs.takeWhile Char.isDigit, rest.takeWhile Char.isDigit, m⟩ := by
  unfold read?
  rw [h]
  rfl

theorem read?_of_no_letter {cs : List Char}
    (h : ∀ rest, cs.dropWhile Char.isDigit ≠ 'd' :: rest) : read? cs = none := by
  unfold read?
  split
  · next rest hrest => exact absurd hrest (h rest)
  · rfl

/-- A text is made of the same blocks as its plain text, which has lost their leading zeros. If one
of them is no throw at all, then neither is the other. -/
theorem read?_dropZeros (cs : List Char) :
    read? (Text.dropZeros false cs) = (read? cs).map plain := by
  -- Both texts have the letter after their first number, or neither has.
  have hafter := Text.dropWhile_dropZeros false cs
  by_cases hletter : ∃ rest, cs.dropWhile Char.isDigit = 'd' :: rest
  · obtain ⟨rest, hrest⟩ := hletter
    have hd : Char.isDigit 'd' = false := by decide
    rw [hrest, Text.dropZeros_of_not_isDigit hd] at hafter
    rw [read?_of_letter hafter, read?_of_letter hrest, Text.dropWhile_dropZeros,
      readModifier?_dropZeros]
    by_cases hempty : cs.takeWhile Char.isDigit = [] ∨ rest.takeWhile Char.isDigit = []
    · rw [if_pos hempty, if_pos (hempty.imp Text.takeWhile_dropZeros_eq_nil
        Text.takeWhile_dropZeros_eq_nil)]
      rfl
    · obtain ⟨hdice, hsides⟩ := not_or.mp hempty
      rw [if_neg hempty, Text.takeWhile_dropZeros hdice, Text.takeWhile_dropZeros hsides,
        if_neg (not_or.mpr ⟨Text.significant_ne_nil _, Text.significant_ne_nil _⟩),
        Option.map_map, Option.map_map]
      rfl
  · have hletter' : ∀ rest, (Text.dropZeros false cs).dropWhile Char.isDigit ≠ 'd' :: rest := by
      intro rest hrest
      rw [hafter] at hrest
      exact hletter (Text.exists_cons_of_dropZeros (by decide) hrest)
    rw [read?_of_no_letter hletter', read?_of_no_letter fun rest h => hletter ⟨rest, h⟩]
    rfl

/-! ## The verdict on them

The verdict was written in terms of numbers in the first place, so nothing is left to show but that
leading zeros do not count in them. -/

theorem number_significant (digits : List Char) :
    number (Text.significant digits) = number digits := Text.ofDigitChars_significant digits

theorem sign_plain (b : Blocks) : b.plain.sign = b.sign := by
  unfold sign plain
  cases b.modifier <;> rfl

theorem value_plain (b : Blocks) : b.plain.value = b.value := by
  unfold value plain
  cases b.modifier with
  | none => rfl
  | some m => exact number_significant m.2

variable {maxDice maxSides maxModifier : Int}

theorem verdict_plain (b : Blocks) (text : String) :
    b.plain.verdict maxDice maxSides maxModifier text =
      b.verdict maxDice maxSides maxModifier text := by
  have hdice : number b.plain.dice = number b.dice := number_significant b.dice
  have hsides : number b.plain.sides = number b.sides := number_significant b.sides
  have hmodifier : b.plain.modifier.isSome = b.modifier.isSome := Option.isSome_map
  unfold verdict
  simp only [hdice, hsides, hmodifier, sign_plain, value_plain]

end Blocks

/-! ## Two ways of writing

A text is part of the answer to it, in two places: it is the label of a throw, and it is what an
objection is to. An amount above a limit is reported without the text. -/

/-- The answer to another text, which is the label of a throw and what is no throw. -/
def relabel (text : String) : Except Fault Throw → Except Fault Throw
  | .ok t => .ok { t with label := text }
  | .error (.dice (.invalidNotation _ objection)) =>
    .error (.dice (.invalidNotation (.text text) objection))
  | .error fault => .error fault

section

variable {maxDice maxSides maxModifier : Int}

theorem Blocks.verdict_relabel (b : Blocks) (text text' : String) :
    b.verdict maxDice maxSides maxModifier text' =
      relabel text' (b.verdict maxDice maxSides maxModifier text) := by
  unfold verdict
  split
  · rfl
  · split
    · rfl
    · split
      · rfl
      · split
        · rfl
        · split
          · rfl
          · rfl

theorem read_relabel {a b : String} (h : Text.plain a = Text.plain b)
    (hd : Text.IsShort maxDice) (hs : Text.IsShort maxSides) (hm : Text.IsShort maxModifier) :
    read b (.ofIntegers maxDice maxSides maxModifier) =
      relabel b (read a (.ofIntegers maxDice maxSides maxModifier)) := by
  have hblocks : (Blocks.read? (Text.dropBlanks a.toList)).map Blocks.plain =
      (Blocks.read? (Text.dropBlanks b.toList)).map Blocks.plain := by
    rw [← Blocks.read?_dropZeros, ← Blocks.read?_dropZeros]
    exact congrArg Blocks.read? h
  unfold read
  cases ha : Blocks.read? (Text.dropBlanks a.toList) with
  | none =>
    rw [ha, Option.map_none, eq_comm, Option.map_eq_none_iff] at hblocks
    rw [hblocks]
    rfl
  | some blocks =>
    rw [ha, Option.map_some, eq_comm, Option.map_eq_some_iff] at hblocks
    obtain ⟨blocks', hb, hplain⟩ := hblocks
    have hwell := (Blocks.eq_spelling_of_read? ha).2
    have hwell' := (Blocks.eq_spelling_of_read? hb).2
    rw [hb]
    dsimp only
    calc ofBlocks blocks' (.ofIntegers maxDice maxSides maxModifier) b
        = blocks'.verdict maxDice maxSides maxModifier b := ofBlocks_eq_verdict hwell' hd hs hm b
      _ = blocks.verdict maxDice maxSides maxModifier b := by
          rw [← blocks'.verdict_plain, hplain, blocks.verdict_plain]
      _ = relabel b (blocks.verdict maxDice maxSides maxModifier a) := blocks.verdict_relabel a b
      _ = relabel b (ofBlocks blocks (.ofIntegers maxDice maxSides maxModifier) a) := by
          rw [ofBlocks_eq_verdict hwell hd hs hm]

/-- **Every way of writing a throw means the same throw.** Two texts that differ in blanks and in
leading zeros only get the same answer, but for themselves: the same throw, or the same objection to
it, with the same amount and the same limit. And a throw that is within the limits is read from
every way of writing it, as exactly the throw that was written. -/
theorem parse_sameWriting (hd : Text.IsShort maxDice) (hs : Text.IsShort maxSides)
    (hm : Text.IsShort maxModifier) :
    let limits : Limits := .ofIntegers maxDice maxSides maxModifier
    (∀ a b : String, Text.SameWriting a b →
      (parse (.text b) limits).result = relabel b (parse (.text a) limits).result) ∧
    (∀ (n s : Nat) (m : Modifier) (hn : 0 < n) (hpos : 0 < s), n ≤ maxDice → s ≤ maxSides →
      (m ≠ .none → m.value ≤ maxModifier) →
      ∀ b : String, Text.SameWriting (plainText n s m) b →
        (parse (.text b) limits).result = .ok ⟨n, s, m, b, hn, hpos⟩) := by
  intro limits
  have hrelabel : ∀ a b : String, Text.SameWriting a b →
      (parse (.text b) limits).result = relabel b (parse (.text a) limits).result := by
    intro a b hab
    rw [parse_text_result, parse_text_result]
    exact read_relabel hab.plain_eq hd hs hm
  refine ⟨hrelabel, fun n s m hn hpos hdice hsides hmodifier b hb => ?_⟩
  rw [hrelabel _ b hb, parse_text_result, read_plainText hn hpos hdice hsides hmodifier
    hd.isComparable hs.isComparable hm.isComparable]
  rfl

/-- A modifier of zero, written with a zero before the dice and a blank after that zero. -/
theorem parse_sameWriting_padded :
    Text.SameWriting "3d6+0" "0 3d6+0" ∧
    (parse (.text "0 3d6+0") (.ofIntegers 100000 100000 1000000)).result =
      .ok ⟨3, 6, .plus 0, "0 3d6+0", by decide, by decide⟩ := by
  have hzero : Text.Edit "3d6+0".toList "03d6+0".toList :=
    .zero [] "3d6+0".toList (fun run hrun _ c hc => by
      rw [List.suffix_nil.mp hrun] at hc
      cases hc) (by decide)
  have hblank : Text.Edit "03d6+0".toList "0 3d6+0".toList :=
    .blank ['0'] "3d6+0".toList (by decide)
  have hsame : Text.SameWriting "3d6+0" "0 3d6+0" := .trans _ _ _ (.rel _ _ hzero) (.rel _ _ hblank)
  refine ⟨hsame, ?_⟩
  have hshort : ∀ n ∈ [(100000 : Int), 1000000], Text.IsShort n := by decide
  exact (parse_sameWriting (hshort _ (by decide)) (hshort _ (by decide)) (hshort _ (by decide))).2
    3 6 (.plus 0) (by decide) (by decide) (by decide) (by decide) (fun _ => by decide) _ hsame

end

end Dicebox.Throw
