import Dicebox.Datum.Integer

/-!
# Faults — everything that can go wrong, by its cause

Two layers. A `DiceError` is a mistake in what was asked for, made by whoever wrote the throw: it
has a kind, a message in plain words, and the offending value. A `Fault` is any reason for which an
operation has no answer; a dice error is one of them, the others are mistakes of the surroundings
(a source that runs dry, a settings value that is no number, a configuration that is no table).

The commands answer a dice error with a message and let every other fault through, so the
distinction is one that users see.
-/

set_option autoImplicit false

namespace Dicebox

/-! ## Mistakes in a throw -/

/-- What a limit bounds. A limit on anything else is called what its maker calls it. -/
inductive Quantity
  | dice
  | sides
  | modifier
  | other (name : Datum)
  deriving Inhabited

namespace Quantity

def name : Quantity → Datum
  | .dice => .text "dice"
  | .sides => .text "sides"
  | .modifier => .text "modifier"
  | .other name => name

def ofName : Datum → Quantity
  | .text "dice" => .dice
  | .text "sides" => .sides
  | .text "modifier" => .modifier
  | name => .other name

/-- How a message says that there is too much of a quantity. -/
def excess : Quantity → String
  | .modifier => "Modifier too large"
  | quantity => "Too many " ++ quantity.name.display

end Quantity

/-- The longest text for an amount that a message quotes in full. -/
def longestShown : Nat := 20

/-- An amount above a limit as a message shows it. It is a number, or the digits of one where there
were too many to be worth converting; of a long text only the length is told. -/
def displayAmount : Datum → String
  | .text digits =>
    if longestShown < digits.length then toString digits.length ++ "-digit number" else digits
  | amount => amount.display

/-- What is wrong with a throw beyond its grammar. -/
inductive Objection
  | notText
  | noDice
  | noSides
  | negativeModifier
  | unsignedModifier
  | remark (given : Datum)
  deriving Inhabited

namespace Objection

def reason : Objection → Datum
  | .notText => .text "expected a string"
  | .noDice => .text "die count must be at least 1"
  | .noSides => .text "sides must be at least 1"
  | .negativeModifier => .text "modifier value must be non-negative"
  | .unsignedModifier => .text "modifier value without a sign"
  | .remark given => given

end Objection

/-- A mistake in what was asked to be thrown. -/
inductive DiceError
  /-- Not a throw: the text as it was given, and an objection if its grammar was right. -/
  | invalidNotation (given : Datum) (objection : Option Objection)
  /-- A die with this many sides cannot be rolled. -/
  | invalidSides (sides : Datum)
  /-- More than the configured limit. -/
  | limitExceeded (quantity : Quantity) (found limit : Datum)
  /-- A mistake described in words only. -/
  | other (message : Datum)
  deriving Inhabited

namespace DiceError

/-- The kinds of mistake, as counters and log records name them. -/
def kind : DiceError → String
  | .invalidNotation .. => "invalid_notation"
  | .invalidSides .. => "invalid_sides"
  | .limitExceeded .. => "limit_exceeded"
  | .other .. => "dice_error"

/-- What the mistake says: words, unless its maker said something else. A reason that does not count
as given is left out. -/
def statement : DiceError → Datum
  | .invalidNotation given objection =>
    let refusal := given.display ++
      " did not validate as a valid string for throwing, try something like \"3d10+2\""
    match objection.map Objection.reason with
    | none => .text refusal
    | some reason =>
      .text (if reason.isGiven then refusal ++ " (" ++ reason.display ++ ")" else refusal)
  | .invalidSides sides =>
    .text ("Invalid number of sides given to roll: (" ++ sides.kind ++ ") \"" ++ sides.display ++
      "\"")
  | .limitExceeded quantity found limit =>
    .text (quantity.excess ++ ": " ++ displayAmount found ++ " (max " ++ limit.display ++ ")")
  | .other message => message

/-- The mistake in words. -/
def message (e : DiceError) : String := e.statement.display

end DiceError

/-! ## Refused settings and options -/

/-- Why the value of a setting or of a command option is refused. -/
inductive Complaint
  | notText
  | notInteger
  | unreadableInteger
  | fractionalInteger
  | oversizedInteger
  | infiniteNumber
  | notBoolean
  | unreadableBoolean
  | belowMinimum
  /-- Something else where values are to be given by name. -/
  | notTable
  deriving Repr, DecidableEq

namespace Complaint

/-- The code under which a complaint is reported. -/
def code : Complaint → String
  | .notText => "string_type"
  | .notInteger => "int_type"
  | .unreadableInteger => "int_parsing"
  | .fractionalInteger => "int_from_float"
  | .oversizedInteger => "int_parsing_size"
  | .infiniteNumber => "finite_number"
  | .notBoolean => "bool_type"
  | .unreadableBoolean => "bool_parsing"
  | .belowMinimum => "greater_than_equal"
  | .notTable => "model_type"

end Complaint

/-! ## Faults -/

/-- Why an operation has no answer. -/
inductive Fault
  | dice (e : DiceError)
  /-- Values refused by the settings or by the options of a command, each with its name. -/
  | invalid (complaints : List (String × Complaint))
  /-- A modifier sign that is neither `+` nor `-`. -/
  | unknownSign (symbol : Datum)
  /-- A name that is not the name of a modifier sign. -/
  | unknownSignName (name : Datum)
  /-- A datum that was to be read as an integer. -/
  | notInteger (why : IntegerError)
  /-- A number with too many digits to be converted or written. -/
  | numeralTooLong
  /-- A number too large for a finite double. -/
  | beyondDoubles
  | divisionByZero
  /-- Two data of kinds that neither compare nor make a sum. -/
  | mismatch (kind other : String)
  /-- A number of dice that cannot be counted out one by one. -/
  | uncountable (kind : String)
  /-- A datum that cannot be looked up, because it holds others. -/
  | notKey (kind : String)
  /-- A datum from which no source of draws can be grown. -/
  | notSeed (kind : String)
  /-- A face that the die of a report does not have. -/
  | unknownFace (face : Int)
  /-- The largest of no counts. -/
  | noCounts
  /-- A histogram without bounds. -/
  | noBounds
  /-- A datum that holds no others, where others are expected. -/
  | notCollection (kind : String)
  /-- So many data where two are expected. -/
  | notPair (count : Nat)
  /-- A datum that is no table where values are to be given by name. -/
  | notFields (kind : String)
  /-- A value that has to be given by name and is not. -/
  | missingField (name : String)
  /-- A value under a name that nobody asked for. -/
  | unknownField (name : String)
  /-- A table in the place of bounds, which has no last entry. -/
  | boundsAreTable
  /-- A source of draws that has none left. -/
  | outOfDraws
  /-- A source of draws that nobody made. -/
  | unknownSource (name : Datum)
  /-- Nothing where a source of draws is needed. -/
  | noSource
  /-- A command that nobody registered. -/
  | unknownCommand (name : Datum)
  /-- A section of the configuration that is no table. -/
  | notTable (name : String)
  /-- A table that cannot be written to a file, because it holds null. -/
  | unwritable (name : String)
  /-- A value that has to be a text and is not. -/
  | notText (name : String)
  /-- A setting that is not there at all. -/
  | missingSetting (name : String)
  /-- A setting that has to be a path and is not. -/
  | notPath (name : String)
  /-- A setting that has to be a number and is not. -/
  | notAmount (name : String)
  /-- A directory where a file is to be written. -/
  | isDirectory (path : String)
  /-- A file where a directory is needed. -/
  | fileInTheWay (path : String)
  /-- A path that goes on behind a file. -/
  | behindFile (path : String)
  /-- A path with a zero character, which ends every path. -/
  | brokenPath (path : String)
  /-- A path, or a part of one, with more bytes than a path can have. -/
  | pathTooLong (path : String)
  /-- A path with more directories than can be made at once. -/
  | pathTooDeep (path : String)
  /-- A path from the home of somebody who has none. -/
  | homeless (user : String)
  /-- A variable of the environment that is no text, or has a name that is none. -/
  | notVariable (name : String)
  /-- A variable of the environment with a character that it cannot have. -/
  | brokenVariable (name : String)
  /-- A variable of the environment without a name. -/
  | namelessVariable
  /-- A variable of the environment that is needed and not there. -/
  | missingVariable (name : String)
  /-- The name of an encoding that nobody knows. -/
  | unknownEncoding (name : String)
  /-- A file that is no text in its encoding. -/
  | undecodable (path : String)
  /-- A file without the mark that its encoding needs. -/
  | unmarked (path : String)
  /-- A direction for the search of settings that is of the wrong kind. -/
  | notDirection (name : String)
  /-- A direction for the search of settings that is of the right kind and out of range. -/
  | impossibleDirection (name : String)
  /-- A direction for the search of settings that is empty where it must not be. -/
  | emptyDirection (name : String)
  /-- A direction for the search of settings that cannot be followed. -/
  | unusableDirection (name : String)
  /-- A direction for the search of settings that makes no pattern to look for. -/
  | brokenPattern (name : String)
  /-- Something on a command line that is no text where an option is looked for, or no number where
  one is. -/
  | notArgument (kind : String)
  /-- A line of which the last word is not finished. -/
  | unfinishedWord (line : String)
  /-- A line without words where one is needed. -/
  | noWords (line : String)
  /-- A flag that means two things. -/
  | ambiguousFlag (spelling : String)
  /-- Arguments with a mistake that ends everything. -/
  | refusedArguments
  /-- The name of something that is a text where a log level is expected. -/
  | levelIsText (name : String)
  /-- The name of something that is a table where a log level is expected. -/
  | levelIsTable (name : String)
  /-- An option whose name begins like a hidden one. -/
  | hiddenOption (name : String)
  /-- An option under the name of what a set of options is made of. -/
  | structuralOption (name : String)
  /-- An option under the name of what can be done with a set of options. -/
  | takenOption (name : String)
  /-- An option from whose spelling no name can be made. -/
  | namelessOption (name : String)
  /-- A flag that is switched on and off by the same spelling. -/
  | contraryOption (name : String)
  /-- A spelling for switching off what is no flag. -/
  | needlessOpposite (name : String)
  deriving Inhabited

namespace Fault

/-- A fault in words. -/
def message : Fault → String
  | .dice e => e.message
  | .invalid complaints =>
    "invalid values: " ++
      String.intercalate ", " (complaints.map fun c => c.1 ++ " (" ++ c.2.code ++ ")")
  | .unknownSign symbol => "unknown modifier sign: " ++ symbol.showQuoted
  | .unknownSignName name => "unknown name of a sign: " ++ name.showQuoted
  | .notInteger _ => "not an integer"
  | .numeralTooLong => "a number with too many digits"
  | .beyondDoubles => "a number too large to calculate with"
  | .divisionByZero => "division by zero"
  | .mismatch kind other => "neither compare nor add up: " ++ kind ++ " and " ++ other
  | .uncountable kind => "cannot be counted out: " ++ kind
  | .notKey kind => "cannot be looked up: " ++ kind
  | .notSeed kind => "not a seed: " ++ kind
  | .unknownFace face => "no such face: " ++ toString face
  | .noCounts => "no counts to compare"
  | .noBounds => "a histogram without bounds"
  | .notCollection kind => "holds nothing: " ++ kind
  | .notPair count => "not two of them: " ++ toString count
  | .notFields kind => "not a table of values: " ++ kind
  | .missingField name => "missing value: " ++ name
  | .unknownField name => "unknown value: " ++ name
  | .boundsAreTable => "a table of bounds without a last one"
  | .outOfDraws => "no draws left"
  | .unknownSource name => "unknown source: " ++ name.display
  | .noSource => "no source of draws"
  | .unknownCommand name => "unknown command: " ++ name.display
  | .notTable name => "not a table: " ++ name
  | .unwritable name => "cannot be written: " ++ name
  | .notText name => "not a text: " ++ name
  | .missingSetting name => "missing setting: " ++ name
  | .notPath name => "not a path: " ++ name
  | .notAmount name => "not a number: " ++ name
  | .homeless user => "no home: " ++ user
  | .notVariable name | .brokenVariable name => "not a variable: " ++ name
  | .namelessVariable => "a variable without a name"
  | .missingVariable name => "missing variable: " ++ name
  | .unknownEncoding name => "unknown encoding: " ++ name
  | .undecodable path | .unmarked path => "not a text: " ++ path
  | .notDirection name | .impossibleDirection name | .emptyDirection name
  | .unusableDirection name | .brokenPattern name => "not a direction: " ++ name
  | .notArgument kind => "not an argument: " ++ kind
  | .unfinishedWord line => "a line with an unfinished word: " ++ line
  | .noWords line => "a line without words: " ++ line
  | .ambiguousFlag spelling => "a flag with two meanings: " ++ spelling
  | .refusedArguments => "arguments that are not understood"
  | .isDirectory path => "a directory: " ++ path
  | .fileInTheWay path => "no directory: " ++ path
  | .behindFile path => "behind a file: " ++ path
  | .brokenPath path => "a path with a zero character: " ++ path
  | .pathTooLong path => "a path that is too long: " ++ path
  | .pathTooDeep path => "a path with too many directories: " ++ path
  | .levelIsText name | .levelIsTable name => "not a log level: " ++ name
  | .hiddenOption name => "an option with a hidden name: " ++ name
  | .structuralOption name | .takenOption name => "an option with a name that is taken: " ++ name
  | .namelessOption name => "an option without a name: " ++ name
  | .contraryOption name => "an option that is its own opposite: " ++ name
  | .needlessOpposite name => "an opposite of what is no flag: " ++ name

end Fault

end Dicebox
