/-!
# Words of a shell line

A line that is typed into a shell is a row of words with spaces between them. What stands between
quotes belongs to one word, even if it is nothing, and a backslash takes the meaning away from the
character after it. Between double quotes it does so only before a double quote and before another
backslash, and between single quotes never.

A line may end before its last word does. Then what there is of that word is kept apart
(`ShellWords.unfinished`).
-/

set_option autoImplicit false

namespace Dicebox.Text

/-- The words of a line, and the one that is not finished at its end. -/
structure ShellWords where
  words : List String
  unfinished : Option String := none
  deriving Repr, DecidableEq

namespace ShellWords

/-- Where a character of a line stands. -/
inductive Standing
  | between
  | inWord
  | quoted (quote : Char)
  /-- After a backslash, between quotes or not. -/
  | escaped (quote : Option Char)
  deriving Repr, DecidableEq

/-- The characters between words. -/
def isSpace (c : Char) : Bool := c == ' ' || c == '\t' || c == '\r' || c == '\n'

def isQuote (c : Char) : Bool := c == '\'' || c == '"'

/-- How far a line has been read: the words so far, last one first, the current word, last character
first, whether that was quoted anywhere, and where the next character stands. -/
structure Progress where
  words : List String := []
  word : List Char := []
  wasQuoted : Bool := false
  standing : Standing := .between
  deriving Repr, DecidableEq

namespace Progress

/-- The progress after one more character of the current word. -/
def push (p : Progress) (c : Char) (standing : Standing) : Progress :=
  { p with word := c :: p.word, standing }

/-- The current word as it is. -/
def current (p : Progress) : String := String.ofList p.word.reverse

/-- The progress after the end of the current word. One that is empty only counts if it was
quoted. -/
def finish (p : Progress) : Progress :=
  { words := if p.word.isEmpty && !p.wasQuoted then p.words else p.current :: p.words }

/-- The progress after a character that is neither escaped nor quoted. -/
def readPlain (p : Progress) (c : Char) : Progress :=
  if isSpace c then p.finish
  else if c = '\\' then { p with standing := .escaped none }
  else if isQuote c then { p with standing := .quoted c, wasQuoted := true }
  else p.push c .inWord

/-- The progress after a character. -/
def read (p : Progress) (c : Char) : Progress :=
  match p.standing with
  | .between | .inWord => p.readPlain c
  | .quoted quote =>
    if c = quote then { p with standing := .inWord }
    else if c = '\\' ∧ quote = '"' then { p with standing := .escaped (some quote) }
    else p.push c (.quoted quote)
  | .escaped none => p.push c .inWord
  | .escaped (some quote) =>
    let p := if c = '\\' ∨ c = quote then p else p.push '\\' p.standing
    p.push c (.quoted quote)

end Progress

/-- The words of a line. -/
def ofLine (line : String) : ShellWords :=
  let p := line.toList.foldl Progress.read {}
  match p.standing with
  | .between | .inWord => ⟨p.finish.words.reverse, none⟩
  | .quoted _ | .escaped _ => ⟨p.words.reverse, some p.current⟩

/-- All words, finished or not. -/
def all (w : ShellWords) : List String := w.words ++ w.unfinished.toList

end ShellWords

end Dicebox.Text
