import Dicebox.Run

/-!
# Messages on the console

On the command line a message is printed on a line of its own, an ephemeral one with a note in
front. Output that is not shown on a terminal has no use for the terminal's control sequences, so
they are taken out, and every line ends in a plain line feed.
-/

set_option autoImplicit false

namespace Dicebox.Console

/-- The line of a message. -/
def line (m : Message) : String :=
  (if m.ephemeral then "(ephemeral) " else "") ++ m.content ++ "\n"

/-- Whether the code of a character is within bounds. -/
def isWithin (first last : Char) (c : Char) : Bool := first.toNat ≤ c.toNat && c.toNat ≤ last.toNat

/-- The parameters of a control sequence: digits and some punctuation. -/
def isParameter (c : Char) : Bool := isWithin '0' '?' c

/-- The characters that may come between the parameters and the end. -/
def isIntermediate (c : Char) : Bool := isWithin ' ' '/' c

/-- The characters that end a control sequence. -/
def isFinal (c : Char) : Bool := isWithin '@' '~' c

/-- The text after a control sequence that starts with the given character, if one does: an escape,
an opening bracket, parameters, intermediates, and a final character. -/
def afterSequence? (c : Char) (rest : List Char) : Option (List Char) :=
  match c, rest with
  | '\x1b', '[' :: inside =>
    match (inside.dropWhile isParameter).dropWhile isIntermediate with
    | last :: after => if isFinal last then some after else none
    | [] => none
  | _, _ => none

theorem length_afterSequence? {c : Char} {rest after : List Char}
    (h : afterSequence? c rest = some after) : after.length < rest.length := by
  unfold afterSequence? at h
  split at h
  · next inside =>
    have hp := (List.dropWhile_sublist isParameter (l := inside)).length_le
    have hi := (List.dropWhile_sublist isIntermediate
      (l := inside.dropWhile isParameter)).length_le
    split at h
    · next last more hc =>
      split at h
      · simp only [Option.some.injEq] at h
        subst h
        rw [hc] at hi
        simp only [List.length_cons] at hi ⊢
        omega
      · simp at h
    · simp at h
  · simp at h

/-- The text without control sequences, after what has been kept of it so far, last character
first. -/
def dropSequencesAfter (kept : List Char) : List Char → List Char
  | [] => kept.reverse
  | c :: rest =>
    match _h : afterSequence? c rest with
    | some after => dropSequencesAfter kept after
    | none => dropSequencesAfter (c :: kept) rest
termination_by cs => cs.length
decreasing_by
  · have := length_afterSequence? _h
    simp only [List.length_cons]
    omega
  · simp

/-- The text without control sequences. -/
def dropSequences (cs : List Char) : List Char := dropSequencesAfter [] cs

/-- A character after what has been kept of a text, last character first: a line feed replaces the
carriage return before it. -/
def keepPlain (kept : List Char) (c : Char) : List Char :=
  match c, kept with
  | '\n', '\r' :: others => '\n' :: others
  | _, _ => c :: kept

/-- The text with plain line feeds. -/
def plainLineEnds (cs : List Char) : List Char := (cs.foldl keepPlain []).reverse

/-- Messages as they are printed. -/
def print (messages : List Message) : String :=
  String.ofList (plainLineEnds (dropSequences (String.join (messages.map line)).toList))

end Dicebox.Console
