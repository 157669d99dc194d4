import Dicebox.CommandLine.Run

/-!
# What the command line says about itself

The help lists the commands with their options, and each way to misuse the command line has a
sentence that explains it.
-/

set_option autoImplicit false

namespace Dicebox.CommandLine

/-- The line of an option in the help. -/
def parameterHelp (p : Parameter) : String :=
  let value := if p.isFlag then "" else " " ++ p.kind.name.toUpper
  let default := match p.showDefault with
    | some true => " (default: " ++ p.default.display ++ ")"
    | _ => ""
  "    " ++ p.spelling ++ value ++ "  " ++ p.help ++ default

/-- The lines of a command in the help. -/
def commandHelp (c : Command) : List String :=
  ("  " ++ c.name.display ++ "  " ++ c.description.display) ::
    c.options.map fun o => parameterHelp (Parameter.ofSpec o)

/-- The help. -/
def help : String :=
  String.intercalate "\n"
    (["Roll dice from notation like 3d10+2.", "", "Commands:"] ++
      Registry.builtIn.all.flatMap commandHelp) ++ "\n"

namespace UsageError

/-- What is wrong with a command line. -/
def message : UsageError → String
  | .noCommand => "Missing command."
  | .unknownCommand name => "No such command: " ++ name
  | .unknownOption spelling => "No such option: " ++ spelling
  | .missingValue spelling => "Option " ++ spelling ++ " requires a value."
  | .needlessValue spelling => "Option " ++ spelling ++ " does not take a value."
  | .extraArgument argument => "Unexpected argument: " ++ argument
  | .badInteger value => "Not an integer: " ++ value
  | .badReal value => "Not a number: " ++ value
  | .missingOption spelling => "Missing option: " ++ spelling

end UsageError

/-- The warning that a place has no configuration. -/
def configurationWarning : String :=
  "WARNING: Could not find 'config.toml' or '.env' in the current directory.\n" ++
    "Continuing with default settings."

end Dicebox.CommandLine
