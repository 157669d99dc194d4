import Dicebox.Command.Handlers
import Dicebox.Name
import Dicebox.Settings.Load

/-!
# Commands and their registry

A command has a name, a description, options and something that it does. The registry holds commands
by name; registering a name again replaces the command and keeps its place. The two built-in
commands are each registered by a module of its own. Loading imports these modules, and a module
that has been imported before is not run again, not even if its command has been replaced.

Whoever asks for all commands is given a mapping, and may change it. So `InUse` says which mapping is
the registry's own and which ones were given out, each by its address.

`Command.invoke` runs a command as a person does: it reads the options, then finds settings, either
those handed in or those of the place, and only then acts.
-/

set_option autoImplicit false

namespace Dicebox

/-- What a command does. -/
inductive Action
  | roll
  | randomness
  | idle
  deriving Repr, DecidableEq, Inhabited

/-- A command. -/
structure Command where
  name : Name
  description : Datum
  options : List OptionSpec
  action : Action
  deriving Inhabited

namespace Command

def randomness : Command :=
  ⟨.text "randomness", .text "Check how evenly the dice roller spreads its results.",
    RandomnessOptions.specs, .randomness⟩

def roll : Command :=
  ⟨.text "roll", .text "Roll dice (e.g., 3d10+2).", RollOptions.specs, .roll⟩

/-! ## Invoking -/

/-- Who gives a command, with which options, and where. Without settings of its own the command
takes those of the place. `entropy` seeds the source of a throw that is not seeded otherwise. -/
structure Invocation where
  options : Datum
  settings : Option Attributes
  place : Place
  userId : Datum
  entropy : Int

/-- Reads the options of a command. They have to be given by name. -/
def readOptions (action : Action) (given : Datum) : Except Fault OptionValues :=
  match action, given with
  | .roll, .table given => (RollOptions.read given).map .roll
  | .randomness, .table given => (RandomnessOptions.read given).map .randomness
  | .idle, .table _ => .ok .none
  | _, _ => .error (.invalid [("", .notTable)])

/-- The settings that a command works with. -/
def settingsOf (inv : Invocation) : Run Attributes :=
  match inv.settings with
  | some settings => return settings
  | none => do return (← Settings.load inv.place []).attributes

/-- What a command does once its options have been read. -/
def act (inv : Invocation) : OptionValues → Run Unit
  | .roll o => do
    let settings ← settingsOf inv
    Dicebox.roll o settings inv.userId (.seeded inv.entropy)
  | .randomness o => do
    let settings ← settingsOf inv
    Dicebox.randomness o settings (.seeded inv.entropy)
  | .none => pure ()

/-- Runs a command; the value is the options that it was run with. -/
def invoke (command : Command) (inv : Invocation) : Run OptionValues := do
  let values ← .ofExcept (readOptions command.action inv.options)
  act inv values
  return values

end Command

/-! ## The registry -/

/-- The modules that register commands. -/
inductive CommandModule
  | randomness
  | roll
  deriving Repr, DecidableEq, Inhabited

namespace CommandModule

/-- All modules, in the order in which they are found. -/
def all : List CommandModule := [.randomness, .roll]

/-- The command that a module registers when it is run. -/
def command : CommandModule → Command
  | .randomness => .randomness
  | .roll => .roll

end CommandModule

/-- Commands by name. -/
abbrev Mapping := OrderedMap Name Command

/-- The commands that have been registered, and the modules that have been run. -/
structure Registry where
  commands : Mapping := .empty
  imported : List CommandModule := []
  deriving Inhabited

namespace Registry

/-- Registers a command under its name. -/
def register (r : Registry) (command : Command) : Registry :=
  { r with commands := r.commands.insert command.name command }

/-- Imports a module. It is run unless it has been imported before. -/
def importModule (r : Registry) (m : CommandModule) : Registry :=
  if m ∈ r.imported then r else { r.register m.command with imported := r.imported ++ [m] }

/-- Imports all modules. -/
def load (r : Registry) : Registry := CommandModule.all.foldl importModule r

/-- The registry with the built-in commands. -/
def builtIn : Registry := ({} : Registry).load

/-- The command of a name. -/
def find? (r : Registry) (name : Name) : Option Command := r.commands.find? name

/-- The options of a command, which has to be there. -/
def optionsOf (r : Registry) (name : Name) : Except Fault (List OptionSpec) :=
  match r.find? name with
  | some command => .ok command.options
  | none => .error (.unknownCommand name.datum)

/-- All commands, in the order of their first registration. -/
def all (r : Registry) : List Command := r.commands.entries.map Prod.snd

/-- A registry together with the mappings that it has given out. All of them are in a memory, where
anyone who has the address of a mapping can change it. A mapping holds commands, which do not
change. -/
structure InUse where
  memory : List Mapping
  imported : List CommandModule
  /-- The addresses that were given out, oldest first. -/
  given : List Nat := []
  deriving Inhabited

namespace InUse

/-- The address of the registry's own mapping. -/
def own : Nat := 0

/-- Built-in commands and nothing given out. -/
def start : InUse := { memory := [builtIn.commands], imported := builtIn.imported }

/-- What the registry finds in its own mapping. -/
def registry (u : InUse) : Registry :=
  { commands := u.memory.getD own .empty, imported := u.imported }

/-- Writes to the registry's own mapping. -/
def update (u : InUse) (r : Registry) : InUse :=
  { u with memory := u.memory.set own r.commands, imported := r.imported }

/-- Gives out a copy of the registry's own mapping. -/
def giveOut (u : InUse) : InUse :=
  { u with
    memory := u.memory ++ [u.registry.commands]
    given := u.given ++ [u.memory.length] }

/-- Changes a mapping that was given out. -/
def change (u : InUse) (index : Nat) (f : Mapping → Mapping) : InUse :=
  match u.given[index]? with
  | some address => { u with memory := u.memory.modify address f }
  | none => u

end InUse

/-- Something done to a registry, or to a mapping that it has given out. -/
inductive Step
  | enter (command : Command)
  | find (name : Name)
  /-- Asks for all commands. -/
  | all
  | load
  /-- Changes one of the mappings that were given out. -/
  | changeCopy (index : Nat) (f : Mapping → Mapping)
  /-- Asks for all commands, empties the mapping and asks again, how many commands there are. -/
  | clearCopy
  deriving Inhabited

/-- Registers a command that has no options and does nothing. -/
def Step.register (name : Name) (description : Datum) : Step :=
  .enter ⟨name, description, [], .idle⟩

/-- What a command looks like from outside: its name, description and options by name. -/
structure Listing where
  name : Name
  description : Datum
  options : List String
  deriving Inhabited

/-- The answer to a step. -/
inductive Answer
  | done
  | found (listing : Option Listing)
  | listed (listings : List Listing)
  | size (n : Nat)
  deriving Inhabited

/-- The listing of a command. -/
def listing (c : Command) : Listing :=
  ⟨c.name, c.description, (c.options.map OptionSpec.name).mergeSort (fun a b => decide (a ≤ b))⟩

/-- Performs a step. -/
def perform (u : InUse) : Step → Answer × InUse
  | .enter command => (.done, u.update (u.registry.register command))
  | .find name => (.found ((u.registry.find? name).map listing), u)
  | .all => (.listed (u.registry.all.map listing), u.giveOut)
  | .load => (.done, u.update u.registry.load)
  | .changeCopy index f => (.done, u.change index f)
  | .clearCopy =>
    let cleared := u.giveOut.change u.given.length fun _ => .empty
    (.size cleared.registry.all.length, cleared.giveOut)

/-- Performs steps one after another. -/
def performAll : List Step → InUse → List Answer × InUse
  | [], u => ([], u)
  | step :: steps, u =>
    let (answer, u) := perform u step
    let (answers, u) := performAll steps u
    (answer :: answers, u)

end Registry

end Dicebox
