import Dicebox.Settings.Directions
import Dicebox.Text.Identifier

/-!
# Flags — how arguments name settings

Each setting has a flag, spelled like its name, and more of them if directions say so (`Flag`).
Directions also say with which characters flags start, what their spellings begin with, and what
becomes of arguments that mean nothing. All that together is the `Rules` by which arguments are
read. A spelling cannot mean two things (`distinctFlags`).
-/

set_option autoImplicit false

namespace Dicebox.Arguments

/-- The spelling of a flag, the setting that it sets, and, if it takes no value, to which value. -/
structure Flag where
  spelling : String
  setting : Setting
  fixed : Option Bool := none
  deriving Repr, DecidableEq

/-- How arguments are read. -/
structure Rules where
  flags : List Flag
  /-- The spellings that ask for help. -/
  help : List String
  /-- The characters that flags start with. -/
  marks : List Char
  exact : Bool
  /-- Whether arguments that mean nothing are passed over. -/
  passesOver : Bool
  /-- Whether a mistake is told to whoever asked for the settings, and does not end everything. -/
  tellsMistakes : Bool
  nullText : Option String
  deriving Repr

/-- The name of the direction about what the spellings of flags begin with. -/
def frontName : String := "_cli_prefix"

/-- Whether a text is made of words with points between them. -/
def isDotted (s : String) : Bool :=
  s.toList.head? != some '.' && s.toList.getLast? != some '.' &&
    Text.isIdentifier (String.ofList (s.toList.filter (· ≠ '.')))

/-- What the spellings of flags begin with: words and a point. -/
def frontOf (given : List (String × Datum)) : Except Fault String :=
  match Directions.find? given frontName with
  | none | some (.text "") => .ok ""
  | some (.text front) =>
    if isDotted front then .ok (front ++ ".") else .error (.unusableDirection frontName)
  | some (.list []) | some (.table []) => .error (.unusableDirection frontName)
  | some d => .error (if d.isGiven then .notText frontName else .notDirection frontName)

/-- The name of the direction about the characters that flags start with. -/
def marksName : String := "_cli_flag_prefix_char"

/-- The characters that flags start with. -/
def marksOf (given : List (String × Datum)) : Except Fault String :=
  let name := marksName
  match Directions.find? given name with
  | none => .ok "-"
  | some (.text "") | some (.list []) => .error (.emptyDirection name)
  | some (.text marks) => .ok marks
  | some (.list _) => .error (.impossibleDirection name)
  | some _ => .error (.notDirection name)

/-- The other names under a key of the direction about short flags. -/
def shortNames (given : List (String × Datum)) (key : String) : Except Fault (List String) :=
  let name := "_cli_shortcuts"
  match Directions.find? given name with
  | some (.table entries) =>
    match entries.lookup key with
    | none => .ok []
    | some (.text short) => .ok [short]
    | some d => do
      (← d.items).mapM fun
        | .text short => .ok short
        | _ => .error (.notDirection name)
  | none => .ok []
  | some d => if d.isGiven then .error (.notTable name) else .ok []

/-- The spelling of a flag: its name after one mark if it is a single character, and after two
otherwise. -/
def spellingOf (mark name : String) : String :=
  if name.length = 1 then mark ++ name else mark ++ mark ++ name

/-- A name with dashes for underscores. -/
def dashed (name : String) : String :=
  String.ofList (name.toList.map fun c => if c = '_' then '-' else c)

/-- Whether a setting is one of the two truth values. -/
def isSwitch : Setting → Bool
  | .loggingEnabled => true
  | _ => false

/-- The flags without values that set a truth value to either. Only one with two dashes in front has
an opposite. -/
def dualFlags (s : Setting) (spelling : String) : List Flag :=
  ⟨spelling, s, some true⟩ ::
    match spelling.toList with
    | '-' :: '-' :: name => [⟨"--no-" ++ String.ofList name, s, some false⟩]
    | _ => []

/-- The flag without a value that sets a truth value to what it is not by default. -/
def toggleFlag (mark : String) (s : Setting) (name : String) : Flag :=
  if s.default.isGiven then ⟨spellingOf mark ("no-" ++ name), s, some false⟩
  else ⟨spellingOf mark name, s, some true⟩

/-- The flags without values of a truth value, as directed. -/
def switchFlags (kind : Datum) (mark : String) (s : Setting) (name : String) : List Flag :=
  match kind with
  | .text "toggle" => [toggleFlag mark s name]
  | _ => dualFlags s (spellingOf mark name)

/-- The flags of a setting. -/
def flagsOf (given : List (String × Datum)) (front mark : String) (s : Setting) :
    Except Fault (List Flag) := do
  let spelled (name : String) : String :=
    if Directions.isSet given "_cli_kebab_case" then dashed name else name
  let name := spelled (front ++ s.name)
  let names := name :: (← shortNames given name).eraseDups.filter (· ≠ name)
  let kind := (Directions.find? given "_cli_implicit_flags").getD .null
  if isSwitch s && kind.isGiven then return names.flatMap (switchFlags kind mark s)
  else return names.map fun name => ⟨spellingOf mark name, s, none⟩

/-- The text that stands for null. Anything else that is given instead is never found. -/
def nullTextOf (given : List (String × Datum)) : Option String :=
  match Directions.find? given "_cli_parse_none_str" with
  | some (.text s) => some (if s = "" then plain else s)
  | some d => if d.isGiven then none else some plain
  | none => some plain
where
  plain : String :=
    match Directions.find? given "_cli_avoid_json" with
    | some (.bool true) => "None"
    | _ => "null"

/-- The request for help, after one mark or two. -/
def helpNames : List String := ["h", "help"]

/-- The spellings that ask for help. They start with a dash, if flags may start with it. -/
def helpSpellings (marks : String) : List String :=
  let mark := if marks.toList.contains '-' then "-" else String.ofList (marks.toList.take 1)
  helpNames.map (spellingOf mark)

/-- The first spelling that means two things. -/
def repeated? : List String → Option String
  | [] => none
  | spelling :: rest => if rest.contains spelling then some spelling else repeated? rest

/-- Flags that can be told apart from each other and from the request for help. -/
def distinctFlags (help : List String) (flags : List Flag) : Except Fault (List Flag) :=
  match repeated? (help ++ flags.map Flag.spelling) with
  | some spelling => .error (.ambiguousFlag spelling)
  | none => .ok flags

/-- The rules that are directed. -/
def rulesOf (given : List (String × Datum)) : Except Fault Rules := do
  let front ← frontOf given
  let marks ← marksOf given
  let help := helpSpellings marks
  let flags ← Setting.listed.mapM (flagsOf given front marks)
  return {
    flags := ← distinctFlags help flags.flatten
    help
    marks := marks.toList
    exact := Directions.isSet given "_case_sensitive"
    passesOver := Directions.isSet given "_cli_ignore_unknown_args"
    tellsMistakes := (Directions.find? given "_cli_exit_on_error").any fun d => !d.isGiven
    nullText := nullTextOf given }

end Dicebox.Arguments
