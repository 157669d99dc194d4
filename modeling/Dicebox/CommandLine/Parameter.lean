import Dicebox.CommandLine.OptionNames
import Dicebox.Text.Dedent
import Dicebox.Text.Identifier
import Dicebox.Text.Lowercase

/-!
# Parameters of the command line

Each option of a command becomes a parameter of the command line. Its spelling is the name of the
option with dashes for underscores; `Parameter.nameOf` is how a spelling is turned back into a name.
An option that is exactly a boolean becomes a flag. Any other takes a value, of the type that
`ValueType.kind` gives: that of the first member of a union that is not the type of null alone, and
a text unless that is an integer or a real number.

A slash in a spelling separates it from a second one, which switches a flag off again.

Not every option can become a parameter. Only a flag can be switched off, and by a spelling other
than its own, the name of the parameter has to be an identifier, and a description has to be a text
(`Parameter.ofSpec?`). All that is said about the names of options comes before
(`Parameter.ofSpecs`).
-/

set_option autoImplicit false

namespace Dicebox

/-- The type of a value on the command line. -/
inductive ParameterKind
  | text
  | integer
  | real
  | boolean
  deriving Repr, DecidableEq, Inhabited

namespace ParameterKind

def name : ParameterKind → String
  | .text => "text"
  | .integer => "integer"
  | .real => "float"
  | .boolean => "boolean"

end ParameterKind

namespace ValueType

mutual

/-- The type that a value on the command line has. -/
def kind : ValueType → ParameterKind
  | .text => .text
  | .integer => .integer
  | .real => .real
  | .boolean | .nothing | .other => .text
  | .union members => firstKind members

/-- The type of the first member that is not the type of null alone. -/
def firstKind : List ValueType → ParameterKind
  | [] => .text
  | .nothing :: rest => firstKind rest
  | t :: _ => t.kind

end

/-- Whether values are exactly the two truth values. -/
def isBoolean : ValueType → Bool
  | .boolean => true
  | _ => false

end ValueType

/-- A parameter of the command line. -/
structure Parameter where
  name : String
  spelling : String
  kind : ParameterKind
  isFlag : Bool
  required : Bool
  default : Datum
  /-- Whether help shows the default; flags have no say in it. -/
  showDefault : Option Bool
  help : String
  deriving Inhabited

namespace Parameter

/-- The spelling of an option on the command line. -/
def spellingOf (name : String) : String :=
  String.ofList ('-' :: '-' :: name.toList.map fun c => if c = '_' then '-' else c)

/-- A spelling and the second one after its first slash, without the blanks around that. Where there
is no slash, the second one is empty. -/
def splitSlash (spelling : String) : String × String :=
  let cs := spelling.toList
  match cs.dropWhile (· ≠ '/') with
  | [] => (spelling, "")
  | _ :: second =>
    let first := ((cs.takeWhile (· ≠ '/')).reverse.dropWhile Text.blank.contains).reverse
    (String.ofList first, String.ofList (second.dropWhile Text.blank.contains))

/-- A spelling without a slash is left as it is. -/
theorem splitSlash_of_not_mem {spelling : String} (h : '/' ∉ spelling.toList) :
    splitSlash spelling = (spelling, "") := by
  have dropWhile_eq_nil : ∀ cs : List Char, '/' ∉ cs → cs.dropWhile (· ≠ '/') = [] := by
    intro cs hcs
    induction cs with
    | nil => rfl
    | cons c cs ih =>
      simp only [List.mem_cons, not_or] at hcs
      have hc : decide (c ≠ '/') = true := decide_eq_true (Ne.symm hcs.1)
      rw [List.dropWhile_cons, hc, if_pos rfl]
      exact ih hcs.2
  simp only [splitSlash, dropWhile_eq_nil _ h]

/-- The name that a spelling stands for: without the two dashes in front, in lower case, and with
underscores for dashes. -/
def nameOf (spelling : String) : String :=
  Text.lower (String.ofList ((spelling.toList.drop 2).map fun c => if c = '-' then '_' else c))

/-- The description of an option at the left margin; one that is not there is empty. -/
def helpOf : Datum → String
  | .text s => Text.dedent s
  | _ => ""

/-- The parameter of an option. -/
def ofSpec (o : OptionSpec) : Parameter :=
  let spelling := (splitSlash (spellingOf o.name)).1
  let default := o.default.getD .null
  if o.type.isBoolean then
    { name := nameOf spelling, spelling, kind := .boolean, isFlag := true, required := false
      default := .bool default.isGiven, showDefault := none, help := helpOf o.description }
  else
    { name := nameOf spelling, spelling, kind := o.type.kind, isFlag := false
      required := o.default.isNone, default
      showDefault := some (match default with
        | .null => false
        | _ => true)
      help := helpOf o.description }

/-! ## Options that are no parameters -/

/-- Whether a description can be shown: a text, or nothing. -/
def isDescription : Datum → Bool
  | .text _ => true
  | d => !d.isGiven

/-- The parameter of an option, if it can be one. -/
def ofSpec? (o : OptionSpec) : Except Fault Parameter :=
  let p := ofSpec o
  let second := (splitSlash (spellingOf o.name)).2
  if second = p.spelling then .error (.contraryOption o.name)
  else if !Text.isIdentifier p.name then .error (.namelessOption o.name)
  else if !isDescription o.description then .error (.notText "description")
  else if !second.isEmpty && !p.isFlag then .error (.needlessOpposite o.name)
  else .ok p

/-- The parameters of some declared options. -/
def ofSpecs (declarations : List OptionSpec) : Except Fault (List Parameter) := do
  (← OptionSpec.declared declarations).mapM ofSpec?

end Parameter

end Dicebox
