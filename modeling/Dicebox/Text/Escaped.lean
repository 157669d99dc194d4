/-!
# Escaped texts

A text may be written in bytes that are characters by their codes, and have everything else behind
backslashes. There are two ways for that. In the full one a backslash and a letter can be a control
character, digits to the bases 8 and 16 are codes, and a backslash before the end of a line means
that the line goes on. In the plain one only codes with four and with eight digits are read.

In front of anything else a backslash is a backslash, and a text without any is its own codes
(`fullCodes?_of_not_mem`). Codes of halves of a character are put together; a half that is left
alone is a replacement character.
-/

set_option autoImplicit false

namespace Dicebox.Text.Escaped

/-! ## Codes -/

/-- The value of a digit to the base 16. -/
def hexDigit? (c : Char) : Option Nat :=
  if c.isDigit then some (c.toNat - '0'.toNat)
  else if 'a' ≤ c ∧ c ≤ 'f' then some (c.toNat - 'a'.toNat + 10)
  else if 'A' ≤ c ∧ c ≤ 'F' then some (c.toNat - 'A'.toNat + 10)
  else none

/-- The number that digits to the base 16 are. -/
def hexNumber? (digits : List Char) : Option Nat := do
  return (← digits.mapM hexDigit?).foldl (fun n d => n * 16 + d) 0

/-- The code in exactly so many digits at the beginning of a text. -/
def code? (count : Nat) (cs : List Char) : Option Nat := do
  let code ← hexNumber? (cs.take count)
  if (cs.take count).length = count ∧ code < 0x110000 then some code else none

/-- Whether a character is a digit to the base 8. -/
def isOctal (c : Char) : Bool := '0' ≤ c && c ≤ '7'

/-- The digits of a code to the base 8 at the beginning of a text, of which there are three at
most. -/
def octalDigits (cs : List Char) : List Char := (cs.take 3).takeWhile isOctal

/-- The code that digits to the base 8 are. -/
def octalCode (digits : List Char) : Nat :=
  digits.foldl (fun n c => n * 8 + (c.toNat - '0'.toNat)) 0

/-! ## Backslashes -/

/-- What a backslash and a character are without further digits, if they are anything: codes. -/
def simple? (c : Char) : Option (List Nat) :=
  [('\n', []), ('\\', [0x5C]), ('\'', [0x27]), ('"', [0x22]), ('a', [0x07]), ('b', [0x08]),
    ('f', [0x0C]), ('n', [0x0A]), ('r', [0x0D]), ('t', [0x09]), ('v', [0x0B])].lookup c

/-- How many digits a code has after a backslash and a letter. -/
def digitsAfter? (c : Char) : Option Nat := [('x', 2), ('u', 4), ('U', 8)].lookup c

/-- The codes of a text that is escaped in the full way, as long as there are characters; `fuel`
counts them. The last backslash needs something after it, and names of characters are not known. -/
def fullCodes? : (fuel : Nat) → List Char → Option (List Nat)
  | 0, _ | _, [] => some []
  | _, ['\\'] => none
  | fuel + 1, '\\' :: c :: rest =>
    match simple? c, digitsAfter? c with
    | some codes, _ => do return codes ++ (← fullCodes? fuel rest)
    | none, some count => do
      return (← code? count rest) :: (← fullCodes? fuel (rest.drop count))
    | none, none =>
      let digits := octalDigits (c :: rest)
      if !digits.isEmpty then do
        return octalCode digits :: (← fullCodes? fuel ((c :: rest).drop digits.length))
      else if c = 'N' then none
      else do return 0x5C :: c.toNat :: (← fullCodes? fuel rest)
  | fuel + 1, c :: rest => do return c.toNat :: (← fullCodes? fuel rest)

/-- The codes of a text that is escaped in the plain way. -/
def plainCodes? : (fuel : Nat) → List Char → Option (List Nat)
  | 0, _ | _, [] => some []
  | fuel + 1, '\\' :: c :: rest =>
    match if c = 'u' ∨ c = 'U' then digitsAfter? c else none with
    | some count => do
      return (← code? count rest) :: (← plainCodes? fuel (rest.drop count))
    | none => do return 0x5C :: c.toNat :: (← plainCodes? fuel rest)
  | fuel + 1, c :: rest => do return c.toNat :: (← plainCodes? fuel rest)

/-- Without a backslash every character is its own code. -/
theorem fullCodes?_of_not_mem {fuel : Nat} {cs : List Char} (enough : cs.length ≤ fuel)
    (plain : '\\' ∉ cs) : fullCodes? fuel cs = some (cs.map Char.toNat) := by
  induction fuel generalizing cs with
  | zero =>
    have : cs = [] := List.length_eq_zero_iff.1 (Nat.le_zero.1 enough)
    simp [this, fullCodes?]
  | succ fuel ih =>
    match cs with
    | [] => simp [fullCodes?]
    | c :: rest =>
      have hc : c ≠ '\\' := fun e => plain (e ▸ List.mem_cons_self)
      have hrest := ih (Nat.le_of_succ_le_succ enough)
        fun h => plain (List.mem_cons_of_mem c h)
      rw [fullCodes?]
      · simp [hrest]
      · exact fun e _ => hc e
      · intro d r e
        exact absurd e hc

/-! ## Characters -/

/-- The character with a code, if it has one. -/
def charOf (code : Nat) : Char := if code.isValidChar then Char.ofNat code else '\ufffd'

/-- The characters of some codes, halves of characters being put together. -/
def chars : List Nat → List Char
  | [] => []
  | [code] => [charOf code]
  | high :: low :: rest =>
    if 0xD800 ≤ high ∧ high < 0xDC00 ∧ 0xDC00 ≤ low ∧ low < 0xE000 then
      Char.ofNat (0x10000 + (high - 0xD800) * 0x400 + (low - 0xDC00)) :: chars rest
    else charOf high :: chars (low :: rest)

/-- The text that is escaped in the full way or in the plain one. -/
def unescape? (full : Bool) (cs : List Char) : Option (List Char) :=
  ((if full then fullCodes? else plainCodes?) cs.length cs).map chars

end Dicebox.Text.Escaped
