import Dicebox.Settings.Reading

/-!
# Options of a command

A command declares its options: a name, a type, perhaps a default, and a description. Types are
those of `ValueType`. Where a command is given by a person, its options arrive as a table and are
read by name; others are ignored.
-/

set_option autoImplicit false

namespace Dicebox

/-! ## Types -/

/-- The type of an option. A union lists the types that a value may have. -/
inductive ValueType
  | text
  | integer
  | real
  | boolean
  /-- The type of null alone. -/
  | nothing
  /-- Any other type. -/
  | other
  | union (members : List ValueType)
  deriving Repr, Inhabited, BEq

namespace ValueType

/-- A type whose values may also be null. -/
def orNothing (t : ValueType) : ValueType := .union [t, .nothing]

end ValueType

/-- The declaration of an option. One without a default is required. -/
structure OptionSpec where
  name : String
  type : ValueType
  default : Option Datum
  description : Datum
  deriving Inhabited

/-! ## The options of the two commands -/

/-- Options of the command that rolls dice. -/
structure RollOptions where
  expr : String
  verbose : Bool
  deriving Repr, DecidableEq

/-- Options of the command that makes a report. -/
structure RandomnessOptions where
  expr : Option String
  seed : Option Int
  deriving Repr, DecidableEq

namespace RollOptions

def specs : List OptionSpec :=
  [⟨"expr", .text, some (.text "1d20"), .text "Dice expression, e.g. 3d10+2"⟩,
    ⟨"verbose", .boolean, some (.bool false), .text "Also show every step of the throw"⟩]

/-- Reads the options from a table. -/
def read (given : List (String × Datum)) : Except Fault RollOptions :=
  let expr := (given.lookup "expr").elim (.ok "1d20") Reading.text
  let verbose := (given.lookup "verbose").elim (.ok false) Reading.boolean
  Reading.collect [Reading.complaint? "expr" expr, Reading.complaint? "verbose" verbose] do
    return { expr := ← expr, verbose := ← verbose }

end RollOptions

namespace RandomnessOptions

def specs : List OptionSpec :=
  [⟨"expr", ValueType.text.orNothing, some .null, .text "Throw to tabulate, e.g. 10000d10"⟩,
    ⟨"seed", ValueType.integer.orNothing, some .null, .text "Seed for a reproducible report"⟩]

/-- Reads the options from a table. -/
def read (given : List (String × Datum)) : Except Fault RandomnessOptions :=
  let expr := (given.lookup "expr").elim (.ok none) (Reading.optional Reading.text)
  let seed := (given.lookup "seed").elim (.ok none) (Reading.optional Reading.integer)
  Reading.collect [Reading.complaint? "expr" expr, Reading.complaint? "seed" seed] do
    return { expr := ← expr, seed := ← seed }

end RandomnessOptions

/-- The options of a command that has been read. -/
inductive OptionValues
  | roll (o : RollOptions)
  | randomness (o : RandomnessOptions)
  | none
  deriving Repr, DecidableEq

namespace OptionValues

/-- The options as a table. -/
def entries : OptionValues → List (String × Datum)
  | .roll o => [("expr", .text o.expr), ("verbose", .bool o.verbose)]
  | .randomness o =>
    [("expr", o.expr.elim .null .text), ("seed", o.seed.elim .null .int)]
  | .none => []

end OptionValues

end Dicebox
