import Dicebox.Command.Registry
import Dicebox.CommandLine.Arguments
import Dicebox.CommandLine.Shell
import Dicebox.Text.ShellWords

/-!
# How a command line could go on

A shell can ask how an unfinished command line could go on. It does so by variables of the
environment: one says which shell asks, the others hold the line and the position in it. It can also
ask for the script by which it asks. The first of these variables is called after the program, and
here the program goes by the name of its group of commands (`requestVariable`).

What is offered are the names of commands, and after a command its options, once the word has been
begun that they would finish. Options that were given already are not offered again, and neither are
values (`offers`). Each shell wants to be told in a form of its own (`line`).
-/

set_option autoImplicit false

namespace Dicebox.CommandLine.Completion

/-! ## Requests -/

/-- What is asked. -/
inductive Request
  /-- How the line could go on. -/
  | complete (shell : Shell)
  /-- The script by which a shell asks. -/
  | script (shell : Shell)
  | unknown
  deriving Repr, DecidableEq

/-- The variable that says what is asked.

It is made of the name that the program goes by, and there are two of them. Whoever runs the group
of commands from a program of their own runs it by its name, `root`; that is the name here, in the
scripts of `Shell` as well. Started as a script by itself, it goes by the name of the file, and it
is the variable of that name which a shell has to set: this one is not looked at then. -/
def requestVariable : String := "_ROOT_COMPLETE"

/-- A text before and after its first underscore. -/
def splitUnderscore (s : String) : String × String :=
  let cs := s.toList
  (String.ofList (cs.takeWhile (· ≠ '_')), String.ofList ((cs.dropWhile (· ≠ '_')).drop 1))

/-- What a text asks. -/
def requestOf (text : String) : Request :=
  let (shell, what) := splitUnderscore text
  match Shell.ofName? shell, what with
  | some shell, "complete" => .complete shell
  | some shell, "source" => .script shell
  | _, _ => .unknown

/-- What is asked in a place, if anything is. -/
def request? (p : Place) : Option Request :=
  match p.setTo? requestVariable with
  | none | some "" => none
  | some text => some (requestOf text)

/-! ## The line -/

/-- A line that goes on: its finished words after the name of the program, and the word that is to
be finished. -/
structure Unfinished where
  words : List String
  word : String
  deriving Repr, DecidableEq

/-- A variable that has to be there. -/
def variableOf (p : Place) (name : String) : Except Fault String :=
  match p.setTo? name with
  | some value => .ok value
  | none => .error (.missingVariable name)

/-- A position in so many words, which is counted from the end if it is below zero. -/
def positionOf (count : Nat) (i : Int) : Int := if i < 0 then i + count else i

/-- The line up to a position, of which the words and the position are given. -/
def unfinishedAt (words : List String) (position : Int) : Unfinished :=
  let i := positionOf words.length position
  { words := (words.take i.toNat).drop 1
    word := if 0 ≤ i then words[i.toNat]?.getD "" else "" }

/-- The first word of a line. A line may be empty, but one that is not has to have a word. -/
def firstWord (line : String) : Except Fault String :=
  if line = "" then .ok ""
  else
    match (Text.ShellWords.ofLine line).all with
    | word :: _ => .ok word
    | [] => .error (.noWords line)

/-- The line in a place. -/
def unfinishedOf (p : Place) (shell : Shell) : Except Fault Unfinished := do
  let words := (Text.ShellWords.ofLine (← variableOf p "COMP_WORDS")).all
  let position ← variableOf p "COMP_CWORD"
  match shell with
  | .bash | .zsh | .powershell =>
    match Text.readLoose position with
    | .ok i => return unfinishedAt words i
    | .error why => .error (.notInteger (.numeral why))
  | .fish =>
    let word ← firstWord position
    let words := words.drop 1
    return { words := if word != "" && words.getLast? == some word then words.dropLast else words
             word }

/-! ## What is offered -/

/-- A way for a line to go on, with an explanation. -/
structure Offer where
  text : String
  help : String
  deriving Repr, DecidableEq

/-- The explanation of the request for help. -/
def helpHelp : String := "Show this message and exit."

/-- The words of an explanation up to the end of its first sentence, unless there is not so much
room for them, before which some room is used up. -/
def firstSentence (room used : Nat) : List String → Option (List String)
  | [] => some []
  | word :: rest =>
    let used := used + word.length
    if room < used then none
    else if word.toList.getLast? = some '.' then some [word]
    else if used = room ∧ !rest.isEmpty then none
    else (firstSentence room (used + 1) rest).map (word :: ·)

/-- As many words as there is room for, after some used up room. -/
def fitting (room used : Nat) : List String → List String
  | [] => []
  | word :: rest =>
    if room < used + word.length then [] else word :: fitting room (used + word.length + 1) rest

/-- The most characters of an explanation in brief. -/
def briefRoom : Nat := 45

/-- An explanation in brief: its first sentence, or as much of it as there is room for. -/
def brief (help : String) : String :=
  let words := (help.splitOn " ").filter (· ≠ "")
  match firstSentence briefRoom 0 words with
  | some words => String.intercalate " " words
  | none => String.intercalate " " (fitting (briefRoom - 3) 0 words) ++ "..."

/-- The commands, by name. -/
def commands : List Command :=
  Registry.builtIn.all.mergeSort fun a b => decide (a.name.display ≤ b.name.display)

/-- The command after the words before it, and the words after it. -/
def commandOf : List String → Option (Command × List String)
  | [] => none
  | word :: rest =>
    if word = "--" then
      match rest with
      | [] => none
      | name :: rest => (Registry.builtIn.find? (.text name)).map fun c => (c, rest)
    else if looksLikeOption word then if word = helpSpelling then commandOf rest else none
    else (Registry.builtIn.find? (.text word)).map fun c => (c, rest)

/-- The options of a command with their explanations, those that were given left out. -/
def optionOffers (c : Command) (sorted : Arguments) : List Offer :=
  let parameters := c.options.map Parameter.ofSpec
  let left := parameters.filter fun p => !(sorted.values.any fun v => v.1 == p.name)
  (left.map fun p => ⟨p.spelling, p.help⟩) ++
    (if sorted.help then [] else [⟨helpSpelling, helpHelp⟩])

/-- The offers that begin with a word. -/
def beginning (word : String) (offers : List Offer) : List Offer :=
  offers.filter fun o => word.toList.isPrefixOf o.text.toList

/-- Whether a word is the beginning of an option, and not that of a name. -/
def beginsOption (word : String) : Bool := word.toList.head?.any fun c => !c.isAlphanum

/-- Whether the last of some words is an option that still needs a value. -/
def awaitsValue (c : Command) (words : List String) : Bool :=
  match words.getLast? with
  | some word =>
    (c.options.map Parameter.ofSpec).any fun p => !p.isFlag && p.spelling == word
  | none => false

/-- The word that is to be finished, with the words before it: after an equals sign it is a value,
if it begins like an option. -/
def splitWord (u : Unfinished) : Unfinished :=
  if u.word = "=" then { u with word := "" }
  else if u.word.toList.head? = some '-' then
    match splitValue u.word with
    | (spelling, some value) => ⟨u.words ++ [spelling], value⟩
    | (_, none) => u
  else u

/-- How a line could go on. -/
def offers (u : Unfinished) : List Offer :=
  let v := splitWord u
  let optionsOf (c : Command) (rest : List String) : List Offer :=
    if beginsOption v.word then
      let sorted := sortArguments (c.options.map Parameter.ofSpec) (rest.map .text) {}
      beginning v.word (optionOffers c sorted.arguments)
    else []
  let begun := v.word.toList.head? = some '-' && !v.words.contains "--"
  match commandOf u.words with
  | some (c, rest) => if !begun && awaitsValue c v.words then [] else optionsOf c rest
  | none =>
    let names := commands.map fun c => ⟨c.name.display, brief c.description.display⟩
    let help := if beginsOption v.word && u.words.head? != some helpSpelling then
        [⟨helpSpelling, helpHelp⟩]
      else []
    beginning v.word (names ++ help)

/-! ## Answers -/

/-- An offer as a shell wants to be told. -/
def line (shell : Shell) (o : Offer) : String :=
  let kind := "plain"
  match shell with
  | .bash => kind ++ "," ++ o.text
  | .zsh | .powershell => kind ++ "\n" ++ o.text ++ "\n" ++ (if o.help = "" then "_" else o.help)
  | .fish => kind ++ "," ++ o.text ++ (if o.help = "" then "" else "\t" ++ o.help)

/-- What is answered to a request; nothing to one that is not known. -/
def answer (p : Place) : Request → Except Fault (Option String)
  | .unknown => .ok none
  | .script shell => .ok (some shell.script)
  | .complete shell => do
    let lines := (offers (← unfinishedOf p shell)).map (line shell)
    return some (String.intercalate "\n" lines ++ "\n")

end Dicebox.CommandLine.Completion
