/-!
# Code pages

A code page says which character each byte is. Most agree with ASCII up to some byte, and only tell
the characters from there on; a byte after the last one told is the character with its code. Some
bytes are no character at all, and have the replacement character in their place.
-/

set_option autoImplicit false

namespace Dicebox.Text

/-- A table of characters for bytes, with the names that it goes by, its own name first. -/
structure CodePage where
  names : List String
  /-- The first byte that is not the character with its code. -/
  first : Nat
  /-- The characters of the bytes from there on. -/
  chars : String
  deriving Repr, DecidableEq

namespace CodePage

/-- What stands in the place of a character where there is none. -/
def missing : Char := '\ufffd'

/-- The character of a byte. -/
def char? (p : CodePage) (byte : UInt8) : Option Char :=
  if byte.toNat < p.first then some (Char.ofNat byte.toNat)
  else
    match p.chars.toList[byte.toNat - p.first]? with
    | some c => if c = missing then none else some c
    | none => some (Char.ofNat byte.toNat)

/-- A byte before the first one told is the character with its code. -/
theorem char?_of_lt {p : CodePage} {byte : UInt8} (h : byte.toNat < p.first) :
    p.char? byte = some (Char.ofNat byte.toNat) := by
  simp [char?, h]

end CodePage

end Dicebox.Text
