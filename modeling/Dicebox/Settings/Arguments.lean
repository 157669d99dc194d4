import Dicebox.Settings.FlagCase

/-!
# Settings in arguments

Directions may bring along arguments as they are given to a program: `--env prod`, `--env=prod`.
They stand above every other source (`Arguments.layerOf`).

A flag takes a value, after an equals sign or as the next argument; unless that looks like a flag
itself, or as if it was meant to be one. With one mark in front, a flag may have its value, or more
flags, attached to it. Of a flag that is given more than once the last value counts. Other arguments
are refused once everything has been read, or passed over where this is directed.

Case does not matter in flags unless it matters in variables.
-/

set_option autoImplicit false

namespace Dicebox.Arguments

/-! ## Sorting arguments -/

/-- An argument as it is understood on its own. -/
inductive Part
  | flag (f : Flag) (value : Option String)
  /-- What looks like a flag and is none. -/
  | unknown
  /-- The request for help. A flag in the same argument may still await its value. -/
  | help (awaiting : Bool)
  | plain (text : String)
  /-- Two dashes, after which there are no more flags. -/
  | stop
  /-- A flag with something attached to it that it cannot have. -/
  | mistaken
  deriving Repr, DecidableEq

/-- Whether a text is a number below zero. -/
def isNegativeNumber (cs : List Char) : Bool :=
  match cs with
  | '-' :: digits =>
    let whole := digits.takeWhile Char.isDigit
    match digits.dropWhile Char.isDigit with
    | [] => !whole.isEmpty
    | '.' :: decimals => !decimals.isEmpty && decimals.all Char.isDigit
    | _ => false
  | _ => false

/-- A text up to the first equals sign, and after it. -/
def splitEquals (s : String) : String × Option String :=
  match s.toList.dropWhile (· ≠ '=') with
  | _ :: value => (String.ofList (s.toList.takeWhile (· ≠ '=')), some (String.ofList value))
  | [] => (s, none)

/-- The flag of a spelling. -/
def flag? (r : Rules) (spelling : String) : Option Flag := r.flags.find? (·.spelling == spelling)

/-- Whether a spelling means anything. -/
def isKnown (r : Rules) (spelling : String) : Bool :=
  r.help.contains spelling || (flag? r spelling).isSome

/-- What a known spelling means. -/
def meaning (r : Rules) (spelling : String) (value : Option String) : Part :=
  match flag? r spelling with
  | some f => .flag f value
  | none => .help false

/-- Whether a part is a flag that takes its value from the next argument. -/
def isAwaiting : Part → Bool
  | .flag ⟨_, _, none⟩ none => true
  | _ => false

/-- A part of an argument in front of others. -/
def inFront (part : Part) (parts : List Part) : List Part :=
  match part with
  | .help _ => .help (parts.any isAwaiting) :: parts
  | part => part :: parts

/-- Whether a known spelling takes a value. -/
def takesValue (r : Rules) (spelling : String) : Bool :=
  (flag? r spelling).any fun f => f.fixed.isNone

/-- A known spelling and its value, if it takes one. -/
def withValue? (r : Rules) (spelling value : String) : Option (List Part) :=
  if takesValue r spelling then some [meaning r spelling (some value)] else none

/-- A known spelling with one mark in front, and what is attached to it: its value, or, if it takes
none, another flag without the mark. -/
def withAttached? (r : Rules) (mark c : Char) : List Char → Option (List Part)
  | [] => withValue? r (spelled c) ""
  | d :: rest =>
    if takesValue r (spelled c) then withValue? r (spelled c) (String.ofList (d :: rest))
    else if r.marks.contains d then none
    else if isKnown r (spelled d) then
      let more := match rest with
        | [] => some [meaning r (spelled d) none]
        | '=' :: value => withValue? r (spelled d) (String.ofList value)
        | rest => withAttached? r mark d rest
      more.map (inFront (meaning r (spelled c) none))
    else some [meaning r (spelled c) none, .unknown]
where
  spelled (c : Char) : String := String.ofList [mark, c]

/-- What an argument is understood as that is more than a known spelling, if it begins with one. -/
def compound? (r : Rules) (argument : String) : Option (List Part) :=
  match splitEquals argument, argument.toList with
  | (spelling, some value), cs =>
    if isKnown r spelling then some ((withValue? r spelling value).getD [.mistaken]) else short? cs
  | (_, none), cs => short? cs
where
  short? : List Char → Option (List Part)
    | mark :: c :: attached =>
      if !r.marks.contains c && isKnown r (String.ofList [mark, c]) then
        some ((withAttached? r mark c attached).getD [.mistaken])
      else none
    | _ => none

/-- What an argument is understood as. -/
def partsOfOne (r : Rules) (argument : String) : List Part :=
  let cs := argument.toList
  if !(cs.head?.any r.marks.contains) then [.plain argument]
  else if isKnown r argument then [meaning r argument none]
  else if cs.length = 1 then [.plain argument]
  else
    match compound? r argument with
    | some parts => parts
    | none => if isNegativeNumber cs || cs.contains ' ' then [.plain argument] else [.unknown]

/-- What arguments are understood as. After two dashes nothing is a flag. -/
def partsOf (r : Rules) : List String → List Part
  | [] => []
  | argument :: rest =>
    if argument = "--" then .stop :: rest.map .plain
    else partsOfOne r argument ++ partsOf r rest

/-- Arguments with flags in any case. The mark of flags only has to make a pattern if there is an
argument to look at. -/
def foldFlags (r : Rules) (arguments : List String) : Except Fault (List String) :=
  if r.exact || arguments.isEmpty then .ok arguments
  else
    match Start.ofMark? r.marks with
    | some start => .ok (arguments.map (foldFlag start (r.help ++ r.flags.map Flag.spelling)))
    | none => .error (.brokenPattern marksName)

/-! ## Values -/

/-- A mistake in the arguments. -/
def mistake (r : Rules) : Fault :=
  if r.tellsMistakes then .unusableDirection "_cli_parse_args" else .refusedArguments

/-- The value of a flag. -/
def valueOf (r : Rules) (text : String) : Datum :=
  if r.nullText = some text then .null else .text text

/-- The values of flags, the last one first, after some that were read before. Arguments that mean
nothing are only a mistake once all others have been read. -/
def readParts (r : Rules) (done : List (String × Datum)) (strays : Bool) :
    List Part → Except Fault (List (String × Datum))
  | [] => if strays && !r.passesOver then .error (mistake r) else .ok done
  | .help false :: _ => .error .refusedArguments
  | .help true :: rest =>
    match rest.dropWhile fun part => !isAwaiting part with
    | _ :: .plain _ :: _ => .error .refusedArguments
    | _ => .error (mistake r)
  | .mistaken :: _ => .error (mistake r)
  | .unknown :: rest | .stop :: rest | .plain _ :: rest => readParts r done true rest
  | .flag ⟨_, setting, some b⟩ _ :: rest =>
    readParts r ((setting.name, .bool b) :: done) strays rest
  | .flag ⟨_, setting, none⟩ (some text) :: rest
  | .flag ⟨_, setting, none⟩ none :: .plain text :: rest =>
    readParts r ((setting.name, valueOf r text) :: done) strays rest
  | .flag ⟨_, _, none⟩ none :: _ => .error (mistake r)

/-- What arguments say about settings. -/
def read (r : Rules) (arguments : List String) : Except Fault (List (String × Datum)) := do
  readParts r [] false (partsOf r (← foldFlags r arguments))

/-! ## The layer -/

/-- The name of the direction that brings arguments. -/
def argumentsName : String := "_cli_parse_args"

/-- The arguments that a direction brings: those of a list, or, where it is switched on or off,
none. What does not count as given is an empty argument. -/
def argumentsOf : Datum → Except Fault (List String)
  | .list items => items.mapM fun
    | .text argument => .ok argument
    | d => if d.isGiven then .error (.notDirection argumentsName) else .ok ""
  | .bool _ => .ok []
  | .text _ | .table _ => .error (.unusableDirection argumentsName)
  | d => if d.isGiven then .error (.unusableDirection argumentsName) else .ok []

/-- The layer of the arguments, if directions say anything about them. -/
def layerOf (title : String) (given : List (String × Datum)) : Except Fault (Option Layer) :=
  match Directions.find? given argumentsName with
  | none => .ok none
  | some d => do
    let rules ← rulesOf given
    let entries ← read rules (← argumentsOf d)
    return some (.ofSettings title Setting.listed fun s => entries.lookup s.name)

end Dicebox.Arguments
