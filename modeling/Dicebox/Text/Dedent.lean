import Dicebox.Text.Blank

/-!
# Taking the indentation off a text

A description may be written over several lines that are indented like what stands around it. Before
it is shown, it is put at the left margin (`dedent`): tabs become spaces, the first line loses its
indentation, the other lines lose as much as all of them have in common, and blank lines at the two
ends are dropped. What is blank is decided by `blank`.
-/

set_option autoImplicit false

namespace Dicebox.Text

/-! ## Tabs -/

/-- The columns from one tab stop to the next. -/
def tabWidth : Nat := 8

/-- The text with spaces up to the next tab stop for every tab, the first character being in a given
column. Every line starts in column zero. -/
def expandTabsFrom (column : Nat) : List Char → List Char
  | [] => []
  | '\t' :: rest =>
    let width := tabWidth - column % tabWidth
    List.replicate width ' ' ++ expandTabsFrom (column + width) rest
  | c :: rest => c :: expandTabsFrom (if c = '\n' ∨ c = '\r' then 0 else column + 1) rest

/-! ## Lines -/

/-- The lines of a text. -/
def splitLines : List Char → List (List Char)
  | [] => [[]]
  | '\n' :: rest => [] :: splitLines rest
  | c :: rest =>
    match splitLines rest with
    | [] => [[c]]
    | line :: lines => (c :: line) :: lines

/-- Lines put together to a text. -/
def ofLines (lines : List (List Char)) : List Char := List.intercalate ['\n'] lines

theorem splitLines_ne_nil (cs : List Char) : splitLines cs ≠ [] := by
  fun_cases splitLines cs <;> simp [*]

/-- The lines of a text, put together again, are the text. -/
theorem ofLines_splitLines (cs : List Char) : ofLines (splitLines cs) = cs := by
  fun_induction splitLines cs with
  | case1 => rfl
  | case2 rest ih =>
    obtain ⟨line, lines, h⟩ := List.exists_cons_of_ne_nil (splitLines_ne_nil rest)
    rw [h] at ih ⊢
    simp [ofLines, List.intercalate, List.intersperse] at ih ⊢
    exact ih
  | case3 c rest _ h ih => exact absurd h (splitLines_ne_nil rest)
  | case4 c rest _ line lines h ih =>
    rw [h] at ih
    cases lines <;> simp_all [ofLines, List.intercalate, List.intersperse]

/-- How many blank characters a line starts with, if there is anything after them. -/
def indent? (line : List Char) : Option Nat :=
  if line.all blank.contains then none else some (line.takeWhile blank.contains).length

/-- The indentation that all lines have in common, if one of them has any text. -/
def margin? (lines : List (List Char)) : Option Nat := (lines.filterMap indent?).min?

/-- The lines without the indentation that they have in common. -/
def shiftLines (lines : List (List Char)) : List (List Char) :=
  match margin? lines with
  | some margin => lines.map (·.drop margin)
  | none => lines

/-- The lines without empty ones at the start and at the end. -/
def trimLines (lines : List (List Char)) : List (List Char) :=
  ((lines.dropWhile List.isEmpty).reverse.dropWhile List.isEmpty).reverse

/-- The text at the left margin. -/
def dedent (s : String) : String :=
  match splitLines (expandTabsFrom 0 s.toList) with
  | [] => ""
  | first :: others =>
    String.ofList (ofLines (trimLines (first.dropWhile blank.contains :: shiftLines others)))

end Dicebox.Text
