import Dicebox.CommandLine.Parameter
import Dicebox.Datum.Arithmetic
import Dicebox.Datum.Items
import Dicebox.Text.RealNumeral

/-!
# Reading a command line

The arguments after a command are its options, spelled out, in any order. A flag stands alone. Any
other option takes a value, either after an equals sign or as the next argument, whatever that looks
like. Two dashes end the options. Of an option that is given more than once the last value counts.

Nothing else may follow a command. A request for help is heard before values are looked at, but
after the options themselves have been understood. Where an option is spelled like that request, it
is the option that is meant.

Arguments are texts. Whoever hands over a command line as data may put something else in their
place: that will do for a value, but where an option is looked for it ends the program (`Stop`).
-/

set_option autoImplicit false

namespace Dicebox.CommandLine

/-- Why a command line is not understood. -/
inductive UsageError
  | noCommand
  | unknownCommand (name : String)
  | unknownOption (spelling : String)
  | missingValue (spelling : String)
  /-- A value for a flag. -/
  | needlessValue (spelling : String)
  | extraArgument (argument : String)
  | badInteger (value : String)
  | badReal (value : String)
  | missingOption (spelling : String)
  deriving Repr, DecidableEq

/-- Why a command does not run. -/
inductive Stop
  | misunderstood (why : UsageError)
  | broken (fault : Fault)

/-- The arguments of a command, sorted: options with their values in the order in which they were
given, whether help was asked for, and what is left. A flag has no value. -/
structure Arguments where
  values : List (String × Option Datum) := []
  help : Bool := false
  extra : List Datum := []
  deriving Inhabited

/-- The spelling of the request for help. -/
def helpSpelling : String := "--help"

/-- An option and the value after its first equals sign, if there is one. -/
def splitValue (argument : String) : String × Option String :=
  let cs := argument.toList
  let spelling := String.ofList (cs.takeWhile (· ≠ '='))
  match cs.dropWhile (· ≠ '=') with
  | '=' :: value => (spelling, some (String.ofList value))
  | _ => (spelling, none)

/-- Whether an argument is meant as an option: a dash and something after it. -/
def looksLikeOption (argument : String) : Bool :=
  match argument.toList with
  | '-' :: _ :: _ => true
  | _ => false

namespace Arguments

/-- The arguments with one more value of an option. -/
def addValue (a : Arguments) (name : String) (value : Option Datum) : Arguments :=
  { a with values := a.values ++ [(name, value)] }

/-- The arguments with some more that belong to no option. -/
def addExtra (a : Arguments) (extra : List Datum) : Arguments :=
  { a with extra := a.extra ++ extra }

end Arguments

/-- How far the arguments of a command could be sorted, and what stopped that. -/
structure Sorted where
  arguments : Arguments
  stop : Option Stop := none

namespace Sorted

def misunderstood (a : Arguments) (why : UsageError) : Sorted := ⟨a, some (.misunderstood why)⟩

end Sorted

/-- Sorts the arguments of a command with the given parameters. -/
def sortArguments (parameters : List Parameter) : List Datum → Arguments → Sorted
  | [], done => ⟨done, none⟩
  | .text argument :: rest, done =>
    if argument = "--" then ⟨done.addExtra rest, none⟩
    else if !looksLikeOption argument then
      sortArguments parameters rest (done.addExtra [.text argument])
    else
      let (spelling, value) := splitValue argument
      match parameters.find? (·.spelling == spelling) with
      | none =>
        if spelling = helpSpelling then
          if value.isSome then .misunderstood done (.needlessValue spelling)
          else sortArguments parameters rest { done with help := true }
        else .misunderstood done (.unknownOption spelling)
      | some p =>
        if p.isFlag then
          if value.isSome then .misunderstood done (.needlessValue spelling)
          else sortArguments parameters rest (done.addValue p.name none)
        else
          match value, rest with
          | some v, rest => sortArguments parameters rest (done.addValue p.name (some (.text v)))
          | none, v :: rest => sortArguments parameters rest (done.addValue p.name (some v))
          | none, [] => .misunderstood done (.missingValue spelling)
  | d :: _, done => ⟨done, some (.broken (.notArgument d.kind))⟩

/-- A value as an integer. -/
def convertInteger (value : Datum) : Except Stop Datum :=
  match value, value.toInteger with
  | .null, _ => .ok .null
  | _, .ok n => .ok (.int n)
  | _, .error (.numeral _) | _, .error .undefined =>
    .error (.misunderstood (.badInteger value.display))
  | _, .error why => .error (.broken (.notInteger why))

/-- A value as a real number. -/
def convertReal : Datum → Except Stop Datum
  | .null => .ok .null
  | .text s =>
    match Text.readReal? s with
    | some x => .ok (.float x)
    | none => .error (.misunderstood (.badReal s))
  | d =>
    match d.numeric? with
    | some x => (x.toDouble.map Datum.float).mapError .broken
    | none => .error (.broken (.notArgument d.kind))

/-- A value as a datum of the parameter's type. A flag is never given another value than its own. -/
def convert (kind : ParameterKind) (value : Datum) : Except Stop Datum :=
  match kind, value with
  | .boolean, value => .ok value
  | .integer, value => convertInteger value
  | .real, value => convertReal value
  | .text, .null => .ok .null
  | .text, value =>
    match value.write? with
    | some text => .ok (.text text)
    | none => .error (.broken .numeralTooLong)

/-- What a parameter is set to: its last value, or its default, which is converted as well. -/
def valueOf (p : Parameter) (values : List (String × Option Datum)) : Except Stop Datum :=
  match values.reverse.lookup p.name with
  | some (some value) => convert p.kind value
  | some none => .ok (.bool true)
  | none =>
    if p.required then .error (.misunderstood (.missingOption p.spelling))
    else convert p.kind p.default

/-- The table of options that a command is given: all of its parameters, by name. -/
def optionTable (parameters : List Parameter) (values : List (String × Option Datum)) :
    Except Stop (List (String × Datum)) :=
  parameters.mapM fun p => do return (p.name, ← valueOf p values)

end Dicebox.CommandLine
