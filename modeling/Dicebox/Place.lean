import Dicebox.Datum.Items
import Dicebox.OrderedMap
import Dicebox.Place.Config
import Dicebox.Place.Dotenv
import Dicebox.Place.Landmark

/-!
# `Place` — where a program finds itself

A place is a working directory and an environment. In the directory there may be a configuration
file and a dotenv file, and nothing else; the environment is a list of variables.

A path from the place leads to one of these files, to a directory, or to nothing
(`Place.lookUp`). It may start at the home of a user, which the environment may name
(`Place.expand`).

`Place.ofData` makes a place of data. A file can only be made of a table, and a variable only of two
texts that the system takes for a name and a value.
-/

set_option autoImplicit false

namespace Dicebox

/-- The content of a configuration file and the text of a dotenv file, if there are such files, and
the environment. -/
structure Place where
  configFile : Option (List (String × Datum)) := none
  dotenv : Option String := none
  environment : List (String × String) := []
  deriving Inhabited

namespace Place

/-- The name of the dotenv file. -/
def dotenvName : String := ".env"

/-- The name of the configuration file. -/
def configName : String := "config.toml"

/-- The files of the working directory, with their texts. -/
def files (p : Place) : List (String × String) :=
  (p.configFile.elim [] fun content => [(configName, Config.text content)]) ++
    (p.dotenv.elim [] fun text => [(dotenvName, text)])

/-- The value of a variable of the environment. -/
def setTo? (p : Place) (name : String) : Option String := p.environment.lookup name

/-! ## Paths -/

/-- A path without the parts that lead nowhere. -/
structure Route where
  absolute : Bool
  steps : List String
  deriving Repr, DecidableEq, Inhabited

namespace Route

def ofPath (path : String) : Route :=
  ⟨Location.isAbsolute path, (Location.parts path).filter fun s => s ≠ "" ∧ s ≠ "."⟩

/-- The route as a path. One that leads nowhere is a point. -/
def text (r : Route) : String :=
  if !r.absolute && r.steps.isEmpty then "."
  else (if r.absolute then "/" else "") ++ String.intercalate "/" r.steps

end Route

/-- The homes of users on the machine of the landmarks, where whoever runs the program is `root`. The
accounts of its services have homes as well, but are not listed, and a path that starts at one of
them is refused as one without a home. -/
def knownHomes : List (String × String) := [("", "/root"), ("root", "/root")]

/-- The home of a user; the one without a name is whoever runs the program. A variable may say where
that is. -/
def home? (p : Place) (user : String) : Option String :=
  match if user = "" then p.setTo? "HOME" else none with
  | some path =>
    if path.toList.head? = some '~' then none else some (if path = "" then "/" else path)
  | none => knownHomes.lookup user

/-- The route of a path, of which the first step may name a user's home by a tilde. -/
def expand (p : Place) (path : String) : Except Fault Route :=
  let route := Route.ofPath path
  match route.absolute, route.steps with
  | false, step :: rest =>
    match step.toList with
    | '~' :: user =>
      match p.home? (String.ofList user) with
      | some home =>
        let start := Route.ofPath home
        .ok { start with steps := start.steps ++ rest }
      | none => .error (.homeless step)
    | _ => .ok route
  | _, _ => .ok route

/-! ## What paths lead to -/

/-- What a path leads to. -/
inductive Found
  | nothing
  /-- A directory, with its files and their texts, as far as they can be known. -/
  | directory (files : List (String × String))
  /-- A file with its text, if that is known. -/
  | file (text : String)
  /-- Something that is neither. -/
  | device
  deriving Repr, DecidableEq

/-- What is at a location. -/
def foundAt (p : Place) (l : Location) : Found :=
  match l.landmark?, l.down with
  | some .directory, _ => .directory (if l = {} then p.files else [])
  | some .file, _ => .file ""
  | some .device, _ => .device
  | none, [name] => if l.isInside then (p.files.lookup name).elim .nothing .file else .nothing
  | none, _ => .nothing

/-- Follows steps from a location on. All but the last one have to lead to directories. -/
def follow (p : Place) (l : Location) : List String → Except Fault Found
  | [] => .ok (p.foundAt l)
  | step :: steps =>
    match p.foundAt l with
    | .directory _ =>
      if Location.longestPart < step.utf8ByteSize then .error (.pathTooLong step)
      else p.follow (l.step step) steps
    | .nothing | .file _ | .device => .ok .nothing

/-- What a route leads to. With a zero character it leads to nothing. -/
def lookUp (p : Place) (r : Route) : Except Fault Found :=
  let path := r.text
  if path.toList.contains '\x00' then .ok .nothing
  else if Location.longestPath < path.utf8ByteSize then .error (.pathTooLong path)
  else p.follow (if r.absolute then .root else {}) r.steps

/-! ## Places made of data -/

/-- The configuration file that a datum makes. -/
def configOf : Datum → Except Fault (Option (List (String × Datum)))
  | .null => .ok none
  | .table entries =>
    if Config.isWritable (.table entries) then .ok (some entries)
    else .error (.unwritable "configuration")
  | _ => .error (.notTable "configuration")

/-- The dotenv file that a datum makes, with the entries of a table as its variables. -/
def dotenvOf : Datum → Except Fault (Option String)
  | .null => .ok none
  | .table entries => do
    return some (Dotenv.write (← entries.mapM fun (name, d) =>
      match d with
      | .text value => .ok (name, value)
      | _ => .error (.notText name)))
  | _ => .error (.notTable "dotenv")

/-- A variable of the environment. -/
def variableOf (name value : Datum) : Except Fault (String × String) :=
  match name, value with
  | .text name, .text value =>
    if name.toList.contains '\x00' || value.toList.contains '\x00' || name.toList.contains '=' then
      .error (.brokenVariable name)
    else if name.isEmpty then .error .namelessVariable
    else .ok (name, value)
  | name, _ => .error (.notVariable name.display)

/-- The environment that a datum makes: the entries of a table, or pairs, or nothing, if the datum
does not count as given. Of a variable that is set more than once, the last value counts. -/
def environmentOf : Datum → Except Fault (List (String × String))
  | .table entries => do
    return (OrderedMap.ofList (← entries.mapM fun e => variableOf (.text e.1) e.2)).entries
  | d => do
    if !d.isGiven then return []
    let vars ← (← d.items).mapM fun d => do
      let (name, value) ← d.pair
      variableOf name value
    return (OrderedMap.ofList vars).entries

/-- The place that data make: a configuration, a dotenv file, and an environment, which comes
first. -/
def ofData (config dotenv environment : Datum) : Except Fault Place := do
  let environment ← environmentOf environment
  return { configFile := ← configOf config, dotenv := ← dotenvOf dotenv, environment }

end Place

end Dicebox
