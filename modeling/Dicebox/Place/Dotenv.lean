import Dicebox.Text.Blank

/-!
# Dotenv files — variables written down

A dotenv file holds variables in lines of the form `NAME='value'`. That is how `write` puts them
down, with a backslash before each quote and each backslash of a value. Whoever writes such a file
by hand has more freedom, and `statements` reads all of it:

* the word `export` may stand in front, a name may stand between quotes, blanks may surround a name
  and follow a value, and everything from a `#` on is a comment;
* a value may stand between single or double quotes, and then goes on over several lines; or it goes
  on to the end of the line, without the blanks there, and without a comment that a blank precedes;
* a name may stand without a value.

What is none of this is passed over up to the end of its line, and the line on which it starts is
kept (`Statement.unreadable`).
-/

set_option autoImplicit false

namespace Dicebox.Dotenv

/-! ## Writing -/

/-- A character of a value between single quotes. -/
def escape (c : Char) : List Char := if c = '\\' ∨ c = '\'' then ['\\', c] else [c]

/-- The line of a variable. -/
def line (name value : String) : String :=
  name ++ "='" ++ String.ofList (value.toList.flatMap escape) ++ "'\n"

/-- Variables as the text of a file. -/
def write (vars : List (String × String)) : String := String.join (vars.map fun v => line v.1 v.2)

/-! ## Reading -/

/-- Something written in a dotenv file. -/
inductive Statement
  /-- A comment, or nothing at all. -/
  | remark
  | variable (name : String) (value : Option String)
  /-- What could not be read, and the line on which it starts. -/
  | unreadable (line : Nat)
  deriving Repr, DecidableEq

/-- Whether a character is blank. -/
def isBlank (c : Char) : Bool := Text.blank.contains c

/-- Whether a character is blank and does not end a line. -/
def isSpace (c : Char) : Bool := isBlank c && c != '\n'

/-- The text up to a quote, and what comes after it. Two backslashes belong together. A quote after
a single one ends the text only if there is no other quote that could. -/
def upToQuote (quote : Char) : List Char → Option (List Char × List Char)
  | [] => none
  | [c] => if c = quote then some ([], []) else none
  | c :: d :: rest =>
    if c = quote then some ([], d :: rest)
    else if c = '\\' ∧ d = '\\' then
      (upToQuote quote rest).map fun (inside, after) => (c :: d :: inside, after)
    else if c = '\\' ∧ d = quote then
      match upToQuote quote rest with
      | some (inside, after) => some (c :: d :: inside, after)
      | none => some ([c], rest)
    else
      match upToQuote quote (d :: rest) with
      | some (inside, after) => some (c :: inside, after)
      | none => none

/-- What some letters stand for after a backslash. -/
def letterEscapes : List (Char × Char) :=
  [('a', '\x07'), ('b', '\x08'), ('f', '\x0c'), ('n', '\n'), ('r', '\r'), ('t', '\t'),
    ('v', '\x0b')]

/-- What stands for what after a backslash, between quotes of a kind. -/
def escapesIn (quote : Char) : List (Char × Char) :=
  [('\\', '\\'), ('\'', '\'')] ++ (if quote = '"' then ('"', '"') :: letterEscapes else [])

/-- The text that some escapes stand for. A backslash before anything else is one. -/
def unescape (escapes : List (Char × Char)) : List Char → List Char
  | '\\' :: c :: rest =>
    match escapes.lookup c with
    | some meant => meant :: unescape escapes rest
    | none => '\\' :: unescape escapes (c :: rest)
  | c :: rest => c :: unescape escapes rest
  | [] => []

/-- The text without the blanks at its end. -/
def dropBlanksAtEnd (cs : List Char) : List Char := (cs.reverse.dropWhile isBlank).reverse

/-- The text before a comment that follows a blank. -/
def beforeComment : List Char → List Char
  | c :: '#' :: rest => if isBlank c then [] else c :: beforeComment ('#' :: rest)
  | c :: rest => c :: beforeComment rest
  | [] => []

/-- What is left of a text where something in it cannot be read. -/
abbrev Unread := List Char

/-- Reads a name, of which there is none before a comment. -/
def readName (cs : List Char) : Except Unread (Option String × List Char) :=
  match cs with
  | '#' :: _ => .ok (none, cs)
  | '\'' :: inside =>
    match inside.takeWhile (· ≠ '\''), inside.dropWhile (· ≠ '\'') with
    | [], _ | _, [] => .error cs
    | name, _ :: rest => .ok (some (String.ofList name), rest)
  | _ =>
    let belongs (c : Char) : Bool := !(c == '=' || c == '#' || isBlank c)
    match cs.takeWhile belongs with
    | [] => .error cs
    | name => .ok (some (String.ofList name), cs.dropWhile belongs)

/-- Reads a value between quotes. -/
def readQuoted (quote : Char) (cs inside : List Char) : Except Unread (String × List Char) :=
  match upToQuote quote inside with
  | some (value, rest) => .ok (String.ofList (unescape (escapesIn quote) value), rest)
  | none => .error cs

/-- Reads a value after an equals sign. Spaces may come before it, and a comment right after them
leaves no value. -/
def readValue (cs : List Char) : Except Unread (String × List Char) :=
  let text := cs.dropWhile isSpace
  match text with
  | '\'' :: inside => readQuoted '\'' text inside
  | '"' :: inside => readQuoted '"' text inside
  | _ =>
    let value := beforeComment (cs.takeWhile (· ≠ '\n'))
    .ok (String.ofList (dropBlanksAtEnd (value.dropWhile isSpace)), cs.dropWhile (· ≠ '\n'))

/-- The text after the word `export` and the blanks that follow it. -/
def dropExport (cs : List Char) : List Char :=
  match cs with
  | 'e' :: 'x' :: 'p' :: 'o' :: 'r' :: 't' :: c :: rest =>
    if isSpace c then rest.dropWhile isSpace else cs
  | _ => cs

/-- The text after a comment and the end of the line. -/
def endLine (cs : List Char) : Except Unread (List Char) :=
  match cs.dropWhile isSpace with
  | [] => .ok []
  | '\n' :: rest => .ok rest
  | '#' :: rest =>
    match rest.dropWhile (· ≠ '\n') with
    | _ :: rest => .ok rest
    | [] => .ok []
  | _ => .error cs

/-- Reads a name and its value, and gives the text after their line. -/
def readVariable (cs : List Char) : Except Unread (Option String × Option String × List Char) := do
  let (name, rest) ← readName (dropExport cs)
  match rest.dropWhile isSpace with
  | '=' :: rest =>
    let (value, rest) ← readValue rest
    return (name, some value, ← endLine rest)
  | rest => return (name, none, ← endLine rest)

/-- Reads a statement that starts on a line, and gives the text after it. -/
def readStatement (line : Nat) (cs : List Char) : Statement × List Char :=
  match cs.dropWhile isBlank with
  | [] => (.remark, [])
  | c :: more =>
    match readVariable (c :: more) with
    | .ok (some name, value, rest) => (.variable name value, rest)
    | .ok (none, _, rest) => (.remark, rest)
    | .error unread => (.unreadable line, (unread.dropWhile (· ≠ '\n')).drop 1)

/-- Reads all statements from a line on. Each of them takes up some of the text. -/
def statementsFrom (line : Nat) (cs : List Char) : List Statement :=
  let (statement, rest) := readStatement line cs
  if _h : rest.length < cs.length then
    let lines := (cs.take (cs.length - rest.length)).count '\n'
    statement :: statementsFrom (line + lines) rest
  else []
termination_by cs.length

/-- The text without the mark that may be in front of it. -/
def dropMark : List Char → List Char
  | '\ufeff' :: rest => rest
  | cs => cs

/-- The statements of a text, of which every line ends in a plain line feed. -/
def statements (text : List Char) : List Statement := statementsFrom 1 (dropMark text)

namespace Statement

/-- The variable of a statement. -/
def entry? : Statement → Option (String × Option String)
  | .variable name value => some (name, value)
  | .remark | .unreadable _ => none

/-- The line of a statement that could not be read. -/
def line? : Statement → Option Nat
  | .unreadable line => some line
  | .remark | .variable .. => none

end Statement

end Dicebox.Dotenv
