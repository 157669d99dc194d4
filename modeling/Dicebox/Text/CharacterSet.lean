/-!
# Character sets

A character set for East Asia has its characters in rows and columns, both of which are counted from
zero here. Encodings agree about the sets and differ in the bytes of a row and a column.

In the table of a set a blank stands where there is no character, and a row may end early. No set
has the blank itself.
-/

set_option autoImplicit false

namespace Dicebox.Text

/-- Characters in rows, one row after the other. -/
structure CharacterSet where
  columns : Nat
  cells : Array Char

namespace CharacterSet

/-- What stands in the place of a character where there is none. -/
def missing : Char := ' '

/-- A row with all its columns. -/
def fill (columns : Nat) (row : String) : List Char :=
  row.toList ++ List.replicate (columns - row.length) missing

/-- The set with some rows. -/
def ofRows (columns : Nat) (rows : List String) : CharacterSet :=
  ⟨columns, (rows.flatMap (fill columns)).toArray⟩

/-- A character, unless it is missing. -/
def present? (c : Char) : Option Char := if c = missing then none else some c

/-- The character at a place of a text with blanks for what is missing. -/
def inText? (text : String) (i : Nat) : Option Char := text.toList[i]?.bind present?

/-- The character in a row and a column. -/
def char? (s : CharacterSet) (row column : Nat) : Option Char :=
  if column < s.columns then s.cells[row * s.columns + column]?.bind present? else none

/-- Of some characters, those that a set does not have. -/
def without (s : CharacterSet) (first count : Nat) : Array Char :=
  let seen := s.cells.foldl
    (fun (seen : Array Bool) c =>
      if first ≤ c.toNat then seen.setIfInBounds (c.toNat - first) true else seen)
    (Array.replicate count false)
  ((List.range count).filterMap fun i =>
    if seen[i]? = some true then none else some (Char.ofNat (first + i))).toArray

/-- A filled row has all its columns. -/
theorem length_fill {columns : Nat} {row : String} (h : row.length ≤ columns) :
    (fill columns row).length = columns := by
  simp only [fill, List.length_append, List.length_replicate, String.length_toList]
  omega

/-- Behind the last column there is nothing. -/
theorem char?_of_le {s : CharacterSet} {row column : Nat} (h : s.columns ≤ column) :
    s.char? row column = none := by
  simp [char?, Nat.not_lt.2 h]

end CharacterSet

end Dicebox.Text
