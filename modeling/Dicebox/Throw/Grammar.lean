import Dicebox.Throw.Basic

/-!
# The grammar of a throw

Without its blanks, a throw is written as a digit block, the letter `d`, a second digit block, and
perhaps a sign with a third one: `3d10`, `3d10+2`. Digits are the ten ASCII ones and the letter is
the lower case one; nothing else may follow.

`Blocks` is what such a text consists of, `Blocks.spelling` writes it down, and `Blocks.read?` takes
a text apart. The two are inverse to each other: `read?_spelling` says that what is written down is
read back, and `eq_spelling_of_read?` that nothing else is read.
-/

set_option autoImplicit false

namespace Dicebox.Throw

/-- The digit blocks of a written throw. -/
structure Blocks where
  dice : List Char
  sides : List Char
  /-- The signed block of the modifier, if there is one. -/
  modifier : Option (Sign × List Char)
  deriving Repr, DecidableEq

namespace Blocks

/-- A nonempty run of ASCII digits. -/
def IsDigitBlock (cs : List Char) : Prop := cs ≠ [] ∧ ∀ c ∈ cs, c.isDigit = true

/-- Whether a text is a digit block. -/
def isDigitBlock (cs : List Char) : Bool := !cs.isEmpty && cs.all Char.isDigit

theorem isDigitBlock_iff {cs : List Char} : isDigitBlock cs = true ↔ IsDigitBlock cs := by
  simp [isDigitBlock, IsDigitBlock]

/-- The symbol of a sign. -/
def symbol : Sign → List Char
  | .none => []
  | .plus => ['+']
  | .minus => ['-']

/-- The text of a modifier. -/
def modifierSpelling : Option (Sign × List Char) → List Char
  | none => []
  | some (sign, digits) => symbol sign ++ digits

/-- The text that consists of the given blocks. -/
def spelling (b : Blocks) : List Char :=
  b.dice ++ 'd' :: (b.sides ++ modifierSpelling b.modifier)

/-- Blocks that a text can consist of: digits in every place, and a modifier with a sign. -/
structure WellFormed (b : Blocks) : Prop where
  dice : IsDigitBlock b.dice
  sides : IsDigitBlock b.sides
  modifier : ∀ sign digits, b.modifier = some (sign, digits) →
    sign ≠ .none ∧ IsDigitBlock digits

/-- What may follow the side count: nothing, or a signed digit block. The outer option says whether
the text is right. -/
def readModifier? : List Char → Option (Option (Sign × List Char))
  | [] => some none
  | '+' :: digits => if isDigitBlock digits then some (some (.plus, digits)) else none
  | '-' :: digits => if isDigitBlock digits then some (some (.minus, digits)) else none
  | _ => none

/-- Takes a text without blanks apart. -/
def read? (cs : List Char) : Option Blocks :=
  let dice := cs.takeWhile Char.isDigit
  match cs.dropWhile Char.isDigit with
  | 'd' :: rest =>
    let sides := rest.takeWhile Char.isDigit
    if dice = [] ∨ sides = [] then none
    else (readModifier? (rest.dropWhile Char.isDigit)).map fun m => ⟨dice, sides, m⟩
  | _ => none

/-! ## Reading and writing are inverse -/

theorem takeWhile_digits {ds rest : List Char} (hd : ∀ c ∈ ds, c.isDigit = true)
    (hr : ∀ c ∈ rest.head?, c.isDigit = false) :
    (ds ++ rest).takeWhile Char.isDigit = ds := by
  induction ds with
  | nil =>
    cases rest with
    | nil => rfl
    | cons c cs => simp [hr c (by simp)]
  | cons c cs ih =>
    simp only [List.mem_cons, forall_eq_or_imp] at hd
    simp [hd.1, ih hd.2]

theorem dropWhile_digits {ds rest : List Char} (hd : ∀ c ∈ ds, c.isDigit = true)
    (hr : ∀ c ∈ rest.head?, c.isDigit = false) :
    (ds ++ rest).dropWhile Char.isDigit = rest := by
  have h := List.takeWhile_append_dropWhile (p := Char.isDigit) (l := ds ++ rest)
  rw [takeWhile_digits hd hr] at h
  exact List.append_cancel_left h

theorem isDigit_of_mem_takeWhile {cs : List Char} {c : Char}
    (h : c ∈ cs.takeWhile Char.isDigit) : c.isDigit = true := by
  induction cs with
  | nil => simp at h
  | cons d ds ih =>
    by_cases hd : d.isDigit = true
    · simp only [List.takeWhile_cons, hd, if_true, List.mem_cons] at h
      rcases h with rfl | h
      · exact hd
      · exact ih h
    · simp [hd] at h

theorem readModifier?_spelling {m : Option (Sign × List Char)}
    (h : ∀ sign digits, m = some (sign, digits) → sign ≠ .none ∧ IsDigitBlock digits) :
    readModifier? (modifierSpelling m) = some m := by
  match m with
  | none => rfl
  | some (.none, digits) => exact absurd rfl (h .none digits rfl).1
  | some (.plus, digits) =>
    simp [modifierSpelling, symbol, readModifier?, isDigitBlock_iff.mpr (h .plus digits rfl).2]
  | some (.minus, digits) =>
    simp [modifierSpelling, symbol, readModifier?, isDigitBlock_iff.mpr (h .minus digits rfl).2]

theorem eq_spelling_of_readModifier? {cs : List Char} {m : Option (Sign × List Char)}
    (h : readModifier? cs = some m) :
    cs = modifierSpelling m ∧
    ∀ sign digits, m = some (sign, digits) → sign ≠ .none ∧ IsDigitBlock digits := by
  unfold readModifier? at h
  split at h
  · simp only [Option.some.injEq] at h
    subst h; simp [modifierSpelling]
  · split at h
    · next hd =>
      simp only [Option.some.injEq] at h
      subst h
      simp only [modifierSpelling, symbol, List.cons_append, List.nil_append, Option.some.injEq,
        Prod.mk.injEq, and_imp, true_and]
      rintro sign digits rfl rfl
      exact ⟨by simp, isDigitBlock_iff.mp hd⟩
    · simp at h
  · split at h
    · next hd =>
      simp only [Option.some.injEq] at h
      subst h
      simp only [modifierSpelling, symbol, List.cons_append, List.nil_append, Option.some.injEq,
        Prod.mk.injEq, and_imp, true_and]
      rintro sign digits rfl rfl
      exact ⟨by simp, isDigitBlock_iff.mp hd⟩
    · simp at h
  · simp at h

/-- What is written down is read back. -/
theorem read?_spelling {b : Blocks} (h : b.WellFormed) : read? b.spelling = some b := by
  obtain ⟨dice, sides, modifier⟩ := b
  obtain ⟨⟨hd, hd'⟩, ⟨hs, hs'⟩, hm⟩ := h
  simp only at hd hd' hs hs' hm
  have htail : ∀ c ∈ (modifierSpelling modifier).head?, c.isDigit = false := by
    match modifier with
    | none => simp [modifierSpelling]
    | some (.none, digits) => exact absurd rfl (hm .none digits rfl).1
    | some (.plus, digits) => simp [modifierSpelling, symbol]
    | some (.minus, digits) => simp [modifierSpelling, symbol]
  have h1 : ∀ rest, ∀ c ∈ ('d' :: rest : List Char).head?, c.isDigit = false := by simp
  simp only [spelling, read?, takeWhile_digits hd' (h1 _), dropWhile_digits hd' (h1 _),
    takeWhile_digits hs' htail, dropWhile_digits hs' htail, hd, hs, or_self, if_false,
    readModifier?_spelling hm, Option.map_some]

/-- Only what is written down is read. -/
theorem eq_spelling_of_read? {cs : List Char} {b : Blocks} (h : read? cs = some b) :
    cs = b.spelling ∧ b.WellFormed := by
  simp only [read?] at h
  split at h
  · next rest hrest =>
    split at h
    · simp at h
    · next hne =>
      obtain ⟨m, hm, rfl⟩ := Option.map_eq_some_iff.mp h
      obtain ⟨hspell, hwell⟩ := eq_spelling_of_readModifier? hm
      refine ⟨?_, ⟨⟨fun h => hne (Or.inl h), fun c hc => isDigit_of_mem_takeWhile hc⟩,
        ⟨fun h => hne (Or.inr h), fun c hc => isDigit_of_mem_takeWhile hc⟩, hwell⟩⟩
      simp only [spelling]
      rw [← hspell, List.takeWhile_append_dropWhile, ← hrest,
        List.takeWhile_append_dropWhile]
  · simp at h

/-- A text is read exactly if it consists of well-formed blocks. -/
theorem read?_eq_some_iff {cs : List Char} {b : Blocks} :
    read? cs = some b ↔ cs = b.spelling ∧ b.WellFormed :=
  ⟨eq_spelling_of_read?, fun ⟨h, hw⟩ => h ▸ read?_spelling hw⟩

end Blocks

end Dicebox.Throw
