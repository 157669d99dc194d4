import Dicebox.Place
import Dicebox.Run
import Dicebox.Settings.Variables
import Dicebox.Text.Encoding
import Dicebox.Text.LineEnds

/-!
# Files with settings

Variables are read from the dotenv file of a place, unless directions name other files. One that is
not there is passed over, and one that is there has to be text in its encoding; what cannot be read
in it is told to the log (`readFiles`), and so is every file that is not there, if the environment
asks for it (`tell`).

Directories with secrets hold files whose names are those of variables, and whose texts are the
values (`secretLayer`). Every such path has to lead to a directory if it leads to anything.
-/

set_option autoImplicit false

namespace Dicebox.Directions

/-- The paths in a direction: one alone, or some in a list, or the keys of a table. -/
def paths (name : String) : Datum → Except Fault (List Datum)
  | .text path => .ok [.text path]
  | .list items => .ok items
  | .table entries => .ok (entries.map fun e => .text e.1)
  | _ => .error (.notPath name)

/-- The route of a path in a direction. -/
def routeOf (p : Place) (name : String) : Datum → Except Fault Place.Route
  | .text path => p.expand path
  | _ => .error (.notPath name)

/-! ## Variables -/

/-- The name of the direction about files with variables. -/
def filesName : String := "_env_file"

/-- The paths of the files with variables. Given as null, there are none. -/
def filesOf (given : List (String × Datum)) : Except Fault (List Datum) :=
  match given.lookup filesName with
  | none => .ok [.text Place.dotenvName]
  | some .null => .ok []
  | some d => paths filesName d

/-- The encoding of files with variables. Unless one is directed it is that of all files. -/
def encodingOf (given : List (String × Datum)) : Except Fault Text.Encoding :=
  let name := "_env_file_encoding"
  match find? given name with
  | none => .ok .utf8
  | some (.text encoding) =>
    if encoding.toList.contains '\x00' then .error (.impossibleDirection name)
    else
      match Text.Encoding.ofName? encoding with
      | some e => .ok e
      | none => .error (.unknownEncoding encoding)
  | some _ => .error (.notDirection name)

/-- The most that can be counted to. -/
def longestCount : Int := 0x7fffffffffffffff

/-- A file that is not there may be searched in so many directories above, which has to be a number.
If the search starts at the working directory, it has to be one that can be counted to. No file is
kept in the directories above. -/
def checkSearch (given : List (String × Datum)) (route : Place.Route) : Except Fault Unit :=
  let name := "_env_file_depth"
  match find? given name with
  | none | some (.bool _) => .ok ()
  | some (.int n) =>
    if route.absolute ∨ n ≤ longestCount then .ok () else .error (.impossibleDirection name)
  | some (.float x) =>
    if !route.absolute && (Number.Double.finite .zero).lt x then
      .error (.impossibleDirection name)
    else .ok ()
  | some _ => .error (.notDirection name)

/-- The variable of the environment that asks for the search of settings to be told. -/
def tellingVariable : String := "PYDANTIC_SETTINGS_DEBUG"

/-- The words that switch telling on, in lower case. -/
def tellingWords : List String := ["1", "true", "yes"]

/-- Whether the search of settings is told in a place. -/
def isTold (p : Place) : Bool :=
  (p.setTo? tellingVariable).any fun word => tellingWords.contains (Text.lower word)

/-- Tells something about the search of settings, if the environment of a place asks for it. -/
def tell (p : Place) (event : String) : Run Unit :=
  if isTold p then .emit [.logged (.debug event [])] else pure ()

/-- The record of something in a dotenv file that could not be read. -/
def unreadableRecord (line : Nat) : Log.Record :=
  .warning ("python-dotenv could not parse statement starting at line " ++ toString line) []

/-- The fault of a file that is no text. -/
def decodingFault (path : String) : Text.DecodingError → Fault
  | .undecodable => .undecodable path
  | .unmarked | .unreadable => .unmarked path

/-- Reads the variables in the text of a file. Of a variable that is written more than once the last
value counts. -/
def readText (given : List (String × Datum)) (path text : String) :
    Run (List (String × Option String)) := do
  let encoding ← .ofExcept (encodingOf given)
  let chars ← .ofExcept ((encoding.decode text).mapError (decodingFault path))
  let statements := Dotenv.statements (Text.unifyLineEnds chars)
  .emit ((statements.filterMap Dotenv.Statement.line?).map fun n => .logged (unreadableRecord n))
  return (OrderedMap.ofList (statements.filterMap Dotenv.Statement.entry?)).entries

/-- Reads the variables of a file. -/
def readFile (p : Place) (given : List (String × Datum)) (path : Datum) :
    Run (List (String × Option String)) := do
  let route ← .ofExcept (routeOf p filesName path)
  match ← .ofExcept (p.lookUp route) with
  | .file text => readText given route.text text
  | .nothing | .directory _ | .device =>
    .ofExcept (checkSearch given route)
    tell p ("Env file not found, skipping: " ++ route.text)
    return []

/-- Reads the variables of all files. -/
def readFiles (p : Place) (given : List (String × Datum)) :
    Run (List (List (String × Option String))) := do
  let paths ← .ofExcept (filesOf given)
  paths.mapM (readFile p given)

/-! ## Secrets -/

/-- The name of the direction about directories with secrets. -/
def secretsName : String := "_secrets_dir"

/-- The files of a directory with secrets, which need not be there. -/
def secretsIn : Place.Found → Except Fault (List (String × String))
  | .nothing => .ok []
  | .directory files => .ok files
  | .file _ | .device => .error (.unusableDirection secretsName)

/-- The files with secrets, those of the last directory first. -/
def secretsOf (p : Place) (given : List (String × Datum)) :
    Except Fault (List (String × String)) := do
  match find? given secretsName with
  | none => return []
  | some d =>
    let routes ← (← paths secretsName d).mapM (routeOf p secretsName)
    let found ← routes.mapM p.lookUp
    return (← found.mapM secretsIn).reverse.flatten

/-- The value in the text of a file, without the blanks around it. -/
def secretValue (text : String) : String :=
  let cs := (Text.unifyLineEnds text.toList).dropWhile Text.blank.contains
  String.ofList (cs.reverse.dropWhile Text.blank.contains).reverse

/-- The settings that files with secrets define. -/
def secretLayer (title : String) (d : Directions) (files : List (String × String)) : Layer :=
  .ofSettings title Setting.listed fun s =>
    (files.find? fun file => d.fold file.1 == d.nameOf s).map fun file => .text (secretValue file.2)

end Dicebox.Directions
