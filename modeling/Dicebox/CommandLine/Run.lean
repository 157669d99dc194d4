import Dicebox.Command.Registry
import Dicebox.CommandLine.Completion
import Dicebox.CommandLine.Console
import Dicebox.Log.Setup

/-!
# The command line

A command line names a command and gives its options. It ends in one of five ways: it is not
understood, it asks for help, the program breaks off, a shell is told how a line could go on, or the
command runs, with the settings of the place. The exit code tells these apart, and whether the
command ran to its end.

What is to be made ready with the settings before the command, such as the log, is left to whoever
runs the line (`Preparation`).
-/

set_option autoImplicit false

namespace Dicebox.CommandLine

/-- How a command line ends. -/
inductive Ending
  | misunderstood (why : UsageError)
  | help
  | broken (fault : Fault)
  /-- A shell asked how a line could go on, and was told, unless it cannot be. -/
  | completed (output : Option String)
  /-- A command ran; whether a warning was due that the place has no configuration. -/
  | ran (warned : Bool) (run : Run Unit)

namespace Ending

/-- The ending of a command line that is stopped before its command runs. -/
def ofStop : Stop → Ending
  | .misunderstood why => .misunderstood why
  | .broken fault => .broken fault

/-- The exit code. -/
def exitCode : Ending → Nat
  | .misunderstood _ => 2
  | .help => 0
  | .broken _ => 1
  | .completed output => if output.isSome then 0 else 1
  | .ran _ run =>
    match run.result with
    | .ok _ => 0
    | .error _ => 1

def warned : Ending → Bool
  | .ran warned _ => warned
  | .misunderstood _ | .help | .broken _ | .completed _ => false

/-- The events of the command. -/
def events : Ending → List Event
  | .ran _ run => run.events
  | .misunderstood _ | .help | .broken _ | .completed _ => []

/-- What is printed. -/
def output : Ending → String
  | .completed output => output.getD ""
  | e => Console.print (e.events.filterMap Event.message?)

/-- The fault that the command ended with. -/
def fault? : Ending → Option Fault
  | .ran _ run =>
    match run.result with
    | .ok _ => none
    | .error fault => some fault
  | .broken fault => some fault
  | .misunderstood _ | .help | .completed _ => none

end Ending

/-- What is made ready with the settings before a command, which may fail. -/
abbrev Preparation := Attributes → Except Fault Unit

/-- Nothing is made ready. -/
def Preparation.none : Preparation := fun _ => .ok ()

/-- The log is set up. -/
def Preparation.log : Preparation := fun settings => do
  let _ ← Log.setUp (some settings)

/-- Runs a command with a table of options: settings first, and what is made ready with them, then
the options, then the command. -/
def runCommand (prepare : Preparation) (command : Command) (options : List (String × Datum))
    (place : Place) (entropy : Int) : Run Unit := do
  let settings ← Settings.load place []
  .ofExcept (prepare settings.attributes)
  let _ ← command.invoke
    { options := .table options, settings := some settings.attributes, place
      userId := .text "cli", entropy }
  return

/-- Whether a place has no configuration of its own. -/
def lacksConfiguration (place : Place) : Bool := place.configFile.isNone && place.dotenv.isNone

/-- Runs a command with the arguments after its name. -/
def runWith (prepare : Preparation) (command : Command) (arguments : List Datum) (place : Place)
    (entropy : Int) : Ending :=
  let parameters := command.options.map Parameter.ofSpec
  let sorted := sortArguments parameters arguments {}
  match sorted.stop with
  | some stop => .ofStop stop
  | none =>
    if sorted.arguments.help then .help
    else
      match optionTable parameters sorted.arguments.values, sorted.arguments.extra with
      | .error stop, _ => .ofStop stop
      | .ok _, extra :: _ => .misunderstood (.extraArgument extra.display)
      | .ok options, [] =>
        .ran (lacksConfiguration place) (runCommand prepare command options place entropy)

/-- Finds the command that a command line names, and runs it. -/
def runNamed (prepare : Preparation) (name : String) (arguments : List Datum) (place : Place)
    (entropy : Int) : Ending :=
  match Registry.builtIn.find? (.text name) with
  | none => .misunderstood (.unknownCommand name)
  | some command => runWith prepare command arguments place entropy

/-- Runs the arguments of a command line. Before the command only a request for help is understood.
Two dashes make a command's name of the next argument; if that looks like an option, it is taken for
one after all. -/
def runArguments (prepare : Preparation) (place : Place) (entropy : Int) :
    List Datum → (help : Bool) → Ending
  | [], help => if help then .help else .misunderstood .noCommand
  | .text argument :: rest, help =>
    if argument = "--" then
      if help then .help
      else match rest with
        | [] => .misunderstood .noCommand
        | name :: arguments =>
          if looksLikeOption name.display && name.display ≠ "--" then
            runArguments prepare place entropy rest false
          else runNamed prepare name.display arguments place entropy
    else if looksLikeOption argument then
      if argument = helpSpelling then runArguments prepare place entropy rest true
      else .misunderstood (.unknownOption argument)
    else if help then .help
    else runNamed prepare argument rest place entropy
  | d :: _, _ => .broken (.notArgument d.kind)

/-- Runs a command line, unless a shell only asks how a line could go on. -/
def run (prepare : Preparation) (place : Place) (entropy : Int) (arguments : List Datum) : Ending :=
  match Completion.request? place with
  | some request =>
    match Completion.answer place request with
    | .ok output => .completed output
    | .error fault => .broken fault
  | none => runArguments prepare place entropy arguments false

/-! ## Command lines as data -/

/-- The arguments in a datum: what it holds, or the words of a text. -/
def argumentsOf : Datum → Except Fault (List Datum)
  | .text line =>
    let split := Text.ShellWords.ofLine line
    if split.unfinished.isSome then .error (.unfinishedWord line) else .ok (split.words.map .text)
  | d => d.items

/-- Whether a text holds another one. -/
def holdsText (part : List Char) : List Char → Bool
  | [] => part.isEmpty
  | c :: rest => part.isPrefixOf (c :: rest) || holdsText part rest

/-- Whether help is asked for anywhere in a datum with arguments. -/
def mentionsHelp : Datum → Bool
  | .text line => holdsText helpSpelling.toList line.toList
  | .list items => items.any fun d => d.same (.text helpSpelling)
  | .table entries => (entries.lookup helpSpelling).isSome
  | _ => false

end Dicebox.CommandLine
