import Dicebox.OrderedMap
import Dicebox.Settings.Directions

/-!
# Settings in variables

Both the environment and dotenv files are lists of variables. Their names are compared as the
directions say, and of several spellings of one name the last counts (`collect`). A variable may
also have no value, and then it is as if it was not there, but it still counts as the last.

A dotenv file may define settings in a second way. If names begin in some way as directed, then what
follows that beginning in the name of any other variable is taken for the name of a setting
(`addOther`).
-/

set_option autoImplicit false

namespace Dicebox

/-- Variables by the names under which they are compared. -/
abbrev Variables := OrderedMap String (Option String)

namespace Variables

/-- Variables written one after another, those that do not count left out. -/
def collect (d : Directions) (vars : List (String × Option String)) : Variables :=
  .ofList ((vars.filter fun v => d.sees v.2).map fun v => (d.fold v.1, v.2))

/-- Variables of several files, one file after another. -/
def collectAll (d : Directions) (files : List (List (String × Option String))) : Variables :=
  files.foldl (fun vars file => vars.insertAll (collect d file).entries) .empty

/-- What the variable of a setting holds. -/
def value? (d : Directions) (vars : Variables) (s : Setting) : Option Datum :=
  (vars.findD (d.nameOf s) none).map d.value

/-- The settings that variables define by their names. -/
def layer (title : String) (d : Directions) (vars : Variables) : Layer :=
  .ofSettings title Setting.listed (vars.value? d)

/-! ## Other variables -/

/-- A name without what it begins with, if it begins so. -/
def afterFront? (front name : String) : Option String :=
  if front.toList.isPrefixOf name.toList then
    some (String.ofList (name.toList.drop front.length))
  else none

/-- Whether a variable may define a setting in the second way: it is not the variable of a setting,
and neither its name nor its value stands in the way. -/
def isOther (d : Directions) (entries : OrderedMap String Datum) (name value : String) : Bool :=
  value != "" && !entries.contains name && (d.front == "" || (Setting.ofName? name).isNone) &&
    Setting.listed.all fun s => d.nameOf s != name

/-- What is defined after another variable of a dotenv file. -/
def addOther (d : Directions) (entries : OrderedMap String Datum) (name value : String) :
    OrderedMap String Datum :=
  if isOther d entries name value then
    match afterFront? (d.fold d.front) name with
    | some rest => entries.insert rest (.text value)
    | none => entries
  else entries

/-- What variables of dotenv files define, first by their names and then in the second way. -/
def dotenvEntries (d : Directions) (vars : Variables) : OrderedMap String Datum :=
  vars.entries.foldl (fun entries v => v.2.elim entries (addOther d entries v.1))
    (.ofList (layer "" d vars).entries)

/-- The settings that dotenv files define. -/
def dotenvLayer (title : String) (d : Directions) (vars : Variables) : Layer :=
  ⟨title, (dotenvEntries d vars).entries.filter fun e => (Setting.ofName? e.1).isSome⟩

end Variables

end Dicebox
