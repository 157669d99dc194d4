import Dicebox.Proofs.Throw.Reading

/-!
# Writing a throw down

A throw of `n` dice with `s` sides and a modifier has one spelling without anything superfluous
(`plainText`): the numbers in decimal, and no blanks. Read under limits that allow for its numbers,

> **it is the throw that it was written for** (`read_plainText`).

For this no text has to be taken apart again. The text is that of the blocks `plainBlocks`
(`toList_plainText`), which are read as what they are, and the numbers of these blocks are the ones
that were written into them. Its blanks do not have to be dropped, for there is none in the spelling
of any blocks at all (`dropBlanks_spelling`).
-/

set_option autoImplicit false

namespace Dicebox

namespace Text

theorem blank_of_isDigit {c : Char} (hc : c.isDigit = true) : blank.contains c = false := by
  have hc' : '0'.toNat ≤ c.toNat ∧ c.toNat ≤ '9'.toNat := by
    simpa [Char.isDigit, UInt32.le_iff_toNat_le] using hc
  have h0 : '0'.toNat = 48 := rfl
  have h9 : '9'.toNat = 57 := rfl
  -- The ranges of blanks leave out the digits: they end before them or begin after them.
  have hrange : ∀ r ∈ blank.ranges, r.2 < 48 ∨ 57 < r.1 := by decide
  rw [Bool.eq_false_iff]
  intro hblank
  obtain ⟨r, hr, hlow, hhigh⟩ := CharClass.contains_iff.mp hblank
  rcases hrange r hr with h | h
  · omega
  · omega

theorem dropBlanks_of_isDigit {digits : List Char} (hd : ∀ c ∈ digits, c.isDigit = true) :
    dropBlanks digits = digits := by
  refine List.filter_eq_self.mpr fun c hc => ?_
  rw [blank_of_isDigit (hd c hc)]
  rfl

end Text

namespace Throw

namespace Blocks

theorem isDigitBlock_toDigits (n : Nat) : IsDigitBlock (Nat.toDigits 10 n) :=
  ⟨Nat.toDigits_ne_nil, fun _ hc => Nat.isDigit_of_mem_toDigits (by decide) (by decide) hc⟩

@[simp] theorem number_toDigits (n : Nat) : number (Nat.toDigits 10 n) = n :=
  Nat.ofDigitChars_ten_toDigits

theorem dropBlanks_modifierSpelling {m : Option (Sign × List Char)}
    (hm : ∀ sign digits, m = some (sign, digits) → sign ≠ .none ∧ IsDigitBlock digits) :
    Text.dropBlanks (modifierSpelling m) = modifierSpelling m := by
  cases m with
  | none => rfl
  | some m =>
    obtain ⟨sign, digits⟩ := m
    have hsymbol : Text.dropBlanks (symbol sign) = symbol sign := by cases sign <;> decide
    rw [modifierSpelling, Text.dropBlanks_append, hsymbol,
      Text.dropBlanks_of_isDigit (hm sign digits rfl).2.2]

theorem dropBlanks_spelling {b : Blocks} (hb : b.WellFormed) :
    Text.dropBlanks b.spelling = b.spelling := by
  have hd : Text.dropBlanks ['d'] = ['d'] := by decide
  rw [spelling, ← List.singleton_append, Text.dropBlanks_append, Text.dropBlanks_append,
    Text.dropBlanks_append, hd, Text.dropBlanks_of_isDigit hb.dice.2,
    Text.dropBlanks_of_isDigit hb.sides.2, dropBlanks_modifierSpelling hb.modifier]

end Blocks

/-! ## The plain spelling

The text and its blocks are written side by side, from the same numbers. A modifier of zero is
written if it has a sign, for with one it is a modifier, and without one there is none. -/

/-- A modifier in writing, with nothing superfluous. -/
def plainModifier : Modifier → String
  | .none => ""
  | .plus v => "+" ++ toString v
  | .minus v => "-" ++ toString v

/-- The block that a modifier in writing is read as. -/
def plainModifierBlock : Modifier → Option (Sign × List Char)
  | .none => none
  | .plus v => some (.plus, Nat.toDigits 10 v)
  | .minus v => some (.minus, Nat.toDigits 10 v)

/-- A throw in writing, with nothing superfluous: no blanks, no leading zeros, and no modifier where
there is none. -/
def plainText (dieCount sides : Nat) (m : Modifier) : String :=
  toString dieCount ++ "d" ++ toString sides ++ plainModifier m

/-- The blocks that a throw in writing is read as. -/
def plainBlocks (dieCount sides : Nat) (m : Modifier) : Blocks :=
  ⟨Nat.toDigits 10 dieCount, Nat.toDigits 10 sides, plainModifierBlock m⟩

variable (n s : Nat) (m : Modifier)

theorem toList_plainModifier :
    (plainModifier m).toList = Blocks.modifierSpelling (plainModifierBlock m) := by
  have hdigits : ∀ k : Nat, (toString k).toList = Nat.toDigits 10 k := fun k => Nat.toList_repr
  cases m with
  | none => rfl
  | plus v => rw [plainModifier, String.toList_append, hdigits]; rfl
  | minus v => rw [plainModifier, String.toList_append, hdigits]; rfl

theorem toList_plainText : (plainText n s m).toList = (plainBlocks n s m).spelling := by
  have hdigits : ∀ k : Nat, (toString k).toList = Nat.toDigits 10 k := fun k => Nat.toList_repr
  rw [plainText, String.toList_append, String.toList_append, String.toList_append, hdigits, hdigits,
    toList_plainModifier, Blocks.spelling, plainBlocks]
  simp

theorem plainText_ne_empty : plainText n s m ≠ "" := by
  intro h
  have hspelling : [] = (plainBlocks n s m).spelling := by rw [← toList_plainText, h]; rfl
  simp [Blocks.spelling] at hspelling

theorem signed_plainModifierBlock : ∀ sign digits, plainModifierBlock m = some (sign, digits) →
    sign ≠ .none ∧ Blocks.IsDigitBlock digits := by
  intro sign digits h
  cases m with
  | none => cases h
  | plus v =>
    cases h
    exact ⟨by decide, Blocks.isDigitBlock_toDigits v⟩
  | minus v =>
    cases h
    exact ⟨by decide, Blocks.isDigitBlock_toDigits v⟩

theorem wellFormed_plainBlocks : (plainBlocks n s m).WellFormed where
  dice := Blocks.isDigitBlock_toDigits n
  sides := Blocks.isDigitBlock_toDigits s
  modifier := signed_plainModifierBlock m

theorem value_plainBlocks : (plainBlocks n s m).value = m.value := by
  cases m with
  | none => rfl
  | plus v => exact Blocks.number_toDigits v
  | minus v => exact Blocks.number_toDigits v

theorem modifierOf_plainBlocks : modifierOf (plainBlocks n s m).sign m.value = m := by
  cases m <;> rfl

variable {n s m} {maxDice maxSides maxModifier : Int}

theorem verdict_plainBlocks (hn : 0 < n) (hs : 0 < s) (hdice : n ≤ maxDice) (hsides : s ≤ maxSides)
    (hmodifier : m ≠ .none → m.value ≤ maxModifier) (text : String) :
    (plainBlocks n s m).verdict maxDice maxSides maxModifier text =
      .ok ⟨n, s, m, text, hn, hs⟩ := by
  have hdice' : Blocks.number (plainBlocks n s m).dice = n := Blocks.number_toDigits n
  have hsides' : Blocks.number (plainBlocks n s m).sides = s := Blocks.number_toDigits s
  have hvalue : ¬ ((plainBlocks n s m).modifier.isSome ∧ maxModifier < m.value) := by
    rintro ⟨hsome, hlt⟩
    have hpresent : m ≠ .none := by
      rintro rfl
      cases hsome
    exact absurd (hmodifier hpresent) (Int.not_le.mpr hlt)
  unfold Blocks.verdict
  simp only [hdice', hsides', value_plainBlocks, modifierOf_plainBlocks]
  rw [if_neg (Int.not_lt.mpr hdice), if_neg (Int.not_lt.mpr hsides), if_neg hvalue,
    dif_neg (Nat.ne_of_gt hn), dif_neg (Nat.ne_of_gt hs)]

/-- What is written down is read as what it was written for.

The limit of the modifier matters only where there is one. But it has to be an integer that can be
compared all the same, since the verdict on blocks is stated for limits of this sort only. -/
theorem read_plainText (hn : 0 < n) (hs : 0 < s) (hdice : n ≤ maxDice) (hsides : s ≤ maxSides)
    (hmodifier : m ≠ .none → m.value ≤ maxModifier) (hd : Text.IsComparable maxDice)
    (hs' : Text.IsComparable maxSides) (hm : Text.IsComparable maxModifier) :
    read (plainText n s m) (.ofIntegers maxDice maxSides maxModifier) =
      .ok ⟨n, s, m, plainText n s m, hn, hs⟩ := by
  have hb := wellFormed_plainBlocks n s m
  have hspelling : Text.dropBlanks (plainText n s m).toList = (plainBlocks n s m).spelling := by
    rw [toList_plainText, Blocks.dropBlanks_spelling hb]
  rw [read_of_spelling _ hb hspelling, ofBlocks_of_isComparable hb hd hs' hm,
    verdict_plainBlocks hn hs hdice hsides hmodifier]

end Throw

end Dicebox
