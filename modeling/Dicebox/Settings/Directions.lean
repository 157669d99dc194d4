import Dicebox.Datum.Items
import Dicebox.Settings.Layer
import Dicebox.Text.Lowercase

/-!
# Directions for the search of settings

Whoever gives values for settings may give directions along with them: which files are read for
variables, what the names of variables begin with, whether their case matters, and what stands for
null. A direction has a name of its own that begins with an underscore, in exactly this spelling.
Null is as good as no direction.

A direction that means nothing is only noticed by whoever wants to follow it, so there are several
rounds of this. `Directions.check` is about what is wrong before the search begins. Then files are
read (`Settings/Files`), and arguments (`Settings/Arguments`). What is left has to do with the names
and the values of variables, and `Directions.ofGiven` reads that.

Without directions case does not matter, and every variable holds its text: `ofGiven_nil`.
-/

set_option autoImplicit false

namespace Dicebox

/-- How variables are searched for settings. -/
structure Directions where
  /-- What the names of variables begin with, before the name of the setting. -/
  front : String := ""
  /-- Whether the variables of settings have names that begin so. If not, only other variables of a
  dotenv file do. -/
  frontOnNames : Bool := true
  /-- Whether the case of a variable's name matters. -/
  exact : Bool := false
  /-- The text that stands for null in a variable. -/
  nullText : Option String := none
  /-- Whether an empty variable counts as not being there. -/
  skipsEmpty : Bool := false
  deriving Repr, DecidableEq, Inhabited

namespace Directions

/-! ## Finding directions -/

/-- The direction of a name, if one is given. -/
def find? (given : List (String × Datum)) (name : String) : Option Datum :=
  match given.lookup name with
  | none | some .null => none
  | some d => some d

/-- The names of all directions. -/
def names : List String :=
  ["_case_sensitive", "_nested_model_default_partial_update", "_env_prefix", "_env_prefix_target",
    "_env_file", "_env_file_depth", "_env_file_encoding", "_env_ignore_empty",
    "_env_nested_delimiter", "_env_nested_max_split", "_env_parse_none_str", "_env_parse_enums",
    "_cli_prog_name", "_cli_parse_args", "_cli_settings_source", "_cli_parse_none_str",
    "_cli_hide_none_type", "_cli_avoid_json", "_cli_enforce_required",
    "_cli_use_class_docs_for_groups", "_cli_exit_on_error", "_cli_prefix",
    "_cli_flag_prefix_char", "_cli_implicit_flags", "_cli_ignore_unknown_args",
    "_cli_kebab_case", "_cli_shortcuts", "_secrets_dir", "_build_sources"]

/-- Whether a direction is given that counts as one. -/
def isSet (given : List (String × Datum)) (name : String) : Bool :=
  (find? given name).any Datum.isGiven

/-! ## Before the search -/

/-- A name that nobody can give anything under. -/
def forbiddenName : String := "__pydantic_self__"

def checkNames (given : List (String × Datum)) : Except Fault Unit :=
  if (given.lookup forbiddenName).isSome then .error (.notDirection forbiddenName) else .ok ()

/-- The parts of a name may be told apart up to some depth, which has to be a number. No setting has
a name with parts, so that it makes no difference otherwise. -/
def checkDepth (given : List (String × Datum)) : Except Fault Unit :=
  let name := "_env_nested_max_split"
  match find? given name with
  | none | some (.int _) | some (.bool _) | some (.float _) => .ok ()
  | some d => if d.isGiven then .error (.notDirection name) else .ok ()

/-- The name of the direction about what the names of variables begin with. -/
def frontName : String := "_env_prefix"

/-- Something without a length is refused as the beginning of a name at once. -/
def checkFront (given : List (String × Datum)) : Except Fault Unit :=
  match find? given frontName with
  | none | some (.text _) | some (.list _) | some (.table _) => .ok ()
  | some _ => .error (.notDirection frontName)

/-- What has to be right before anything is searched. -/
def check (given : List (String × Datum)) : Except Fault Unit := do
  checkDepth given
  checkFront given

/-! ## Names and values of variables -/

/-- Whether the names of the variables of settings begin as directed. -/
def frontOnNamesOf (given : List (String × Datum)) : Bool :=
  match find? given "_env_prefix_target" with
  | none | some (.text "variable") | some (.text "all") => true
  | some _ => false

/-- What the names of variables begin with. Anything but a text is noticed when the first name is
put together with it, or compared with it. -/
def frontOf (given : List (String × Datum)) : Except Fault String :=
  match find? given frontName with
  | none => .ok ""
  | some (.text front) => .ok front
  | some _ =>
    .error (if frontOnNamesOf given then .unusableDirection frontName else .notText frontName)

/-- The text that stands for null. Anything else is never found in a variable. -/
def nullTextOf (given : List (String × Datum)) : Option String :=
  match find? given "_env_parse_none_str" with
  | some (.text s) => some s
  | _ => none

/-- The directions among some given values. -/
def ofGiven (given : List (String × Datum)) : Except Fault Directions := do
  return {
    front := ← frontOf given
    frontOnNames := frontOnNamesOf given
    exact := isSet given "_case_sensitive"
    nullText := nullTextOf given
    skipsEmpty := isSet given "_env_ignore_empty" }

@[simp] theorem ofGiven_nil : ofGiven [] = .ok {} := rfl

/-- The name of a variable as it is compared with others. -/
def fold (d : Directions) (name : String) : String := if d.exact then name else Text.lower name

/-- The name of the variable of a setting. -/
def nameOf (d : Directions) (s : Setting) : String :=
  d.fold ((if d.frontOnNames then d.front else "") ++ s.name)

/-- Whether a variable is there at all. -/
def sees (d : Directions) (value : Option String) : Bool := !(d.skipsEmpty && value == some "")

/-- What a variable holds. -/
def value (d : Directions) (text : String) : Datum :=
  if d.nullText = some text then .null else .text text

/-- Without directions, all variables count and hold their text. -/
theorem value_default (text : String) : ({} : Directions).value text = .text text := rfl

end Directions

end Dicebox
