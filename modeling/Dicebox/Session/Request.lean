import Dicebox.Command.Registry
import Dicebox.CommandLine.Run
import Dicebox.CommandLine.TypeName
import Dicebox.Log.Setup
import Dicebox.Metrics
import Dicebox.Session.Sources
import Dicebox.Throw.Draft

/-!
# Requests and replies

Everything that can be asked of this library, as data, and what is answered. Most requests stand
alone. Those that throw dice may name a source that an earlier request has made, and all of them
keep the same books, so the answer to one can depend on those before it.
-/

set_option autoImplicit false

namespace Dicebox.Session

/-- The figures of a throw before they are checked, its sign given by name. -/
structure ThrowFigures where
  dieCount : Datum
  sides : Datum
  sign : Datum := .text "none"
  value : Datum := .int 0
  label : Datum := .text ""
  deriving Inhabited

namespace ThrowFigures

/-- The draft with these figures, if nothing is wrong with it. -/
def toDraft (f : ThrowFigures) : Except Fault Draft := do
  let sign ← Sign.ofName f.sign
  Draft.check ⟨f.dieCount, f.sides, sign, f.value, f.label⟩

end ThrowFigures

/-- Where the dice of a throw come from, and who watches. Without a source of its own the throw is
seeded, and without a seed it is left to chance, for which `entropy` stands in. -/
structure Circumstances where
  source : SourceChoice := .nothing
  seed : Datum := .null
  entropy : Int := 0
  watched : Bool := false
  /-- The separator for a rendered answer, if one is wanted. -/
  separator : Option Datum := none
  deriving Inhabited

/-- The settings that a log is set up with. -/
inductive LogSettings
  /-- None. -/
  | absent
  /-- Values for settings, all others being defaults. -/
  | given (values : List (String × Datum))
  /-- Exactly these attributes. -/
  | raw (attributes : Attributes)
  deriving Inhabited

/-- The figures of a report that is put together by hand. The time is given in quarters of a
millisecond. -/
structure ReportFigures where
  label : Datum := .text ""
  sides : Datum
  counts : List (Datum × Datum)
  totalRolls : Datum
  minCount : Datum
  maxCount : Datum
  difference : Datum
  elapsedQuarters : Datum
  deriving Inhabited

namespace ReportFigures

/-- The report with these figures. -/
def toReport (f : ReportFigures) : Except Fault Report := do
  let elapsed ← f.elapsedQuarters.divide (.int 4)
  return { label := f.label, sides := f.sides, counts := f.counts, totalRolls := f.totalRolls
           minCount := f.minCount, maxCount := f.maxCount, difference := f.difference, elapsed }

end ReportFigures

/-- A single thing asked of a session. -/
inductive Operation
  | parse (given limits : Datum)
  | normalize (given : Datum)
  | check (figures : ThrowFigures)
  | sign (symbol : Datum)
  | explain (e : DiceError)
  | renderMistake (expr : Datum) (e : DiceError) (separator : Datum)
  | separator (settings : Option Attributes)
  | limits (settings : Option Attributes)
  | evaluate (figures : ThrowFigures) (how : Circumstances)
  | throwText (given : Option Datum) (limits : Datum) (how : Circumstances)
  | report (given limits : Datum) (how : Circumstances)
  | examine (figures : ReportFigures) (separator : Option Datum)
  /-- The sides of one die after another, which are needed. -/
  | roll (sides : Option Datum) (source : SourceChoice) (entropy : Int)
  /-- The name is needed. -/
  | newSource (name : Option Datum) (source : SourceChoice) (entropy : Int)
  | increment (counter value : Datum)
  | counter (name : Datum)
  | counters
  | reset
  /-- Null for the bounds stands for the default ones. A histogram and a value are needed. -/
  | observe (histogram value : Option Datum) (bounds : Datum)
  | command (name : Datum) (invocation : Command.Invocation)
  | settings (place : Place) (given : List (String × Datum))
  | setUpLog (settings : LogSettings)
  | registry (steps : List Registry.Step)
  | parameters (options : List OptionSpec)
  | commandLine (arguments : Datum) (place : Place) (entropy : Int)
  /-- Something asked in a way that makes no sense. -/
  | refused (fault : Fault)
  deriving Inhabited

/-- What is asked of a session. -/
inductive Request
  | single (operation : Operation)
  /-- Several requests, one after another. -/
  | session (steps : List Request)
  /-- A request whose log records are kept. -/
  | logged (level file : Datum) (enabled : Datum) (action : Request)
  /-- What is no request at all. Whatever it is a part of has no answer. -/
  | broken (fault : Fault)
  deriving Inhabited

/-- Why a request is none. -/
def Request.fault? : Request → Option Fault
  | .broken fault => some fault
  | .single _ | .session _ | .logged .. => none

/-- A report with its statistics. -/
structure ReportSheet where
  report : Report
  percentages : Except Fault (List (Datum × Number.Double))
  maxDeviation : Except Fault Number.Double
  lines : Except Fault (List String)
  rendered : Option String

/-- Some lines as one text, if a separator is given for it. -/
def renderLines (separator : Option Datum) (lines : List String) : Except Fault (Option String) :=
  match separator with
  | none => .ok none
  | some separator => do return some (← joinLines separator lines)

namespace ReportSheet

/-- The sheet of a report. Any of the statistics may fail on its own, but rendering must not. That
a separator is no text is found out before there are any lines. -/
def of (r : Report) (separator : Option Datum) : Except Fault ReportSheet := do
  let rendered ← separator.mapM fun d => separatorText d >>= r.render
  return {
    report := r
    percentages := r.percentages
    maxDeviation := r.maxDeviation
    lines := r.lines
    rendered }

end ReportSheet

/-- What is answered when all goes well. -/
inductive Answer
  | done
  | throw (d : Draft)
  | text (s : String)
  | sign (s : Sign)
  | explanation (e : DiceError)
  | separator (d : Datum)
  | limits (l : Limits)
  | outcome (o : Draft.Thrown) (rendered : Option String)
  | report (sheet : ReportSheet)
  | rolls (results : List (Except Fault Int))
  | counter (value : Int)
  /-- The books themselves. -/
  | books
  | options (values : OptionValues)
  | notFound
  | settings (s : Settings)
  | logSetup (s : Log.Setup)
  | registry (answers : List Registry.Answer)
  | parameters (ps : List Parameter)
  | commandLine (exitCode : Nat) (warned : Bool) (output : Option String) (fault : Option Fault)

/-- A reply: an answer or a fault, with what the request is told besides. -/
inductive Reply
  | single (answer : Except Fault Answer) (steps : Option (List String))
      (sent : Option (List Message)) (counters : Option (OrderedMap Name Int))
  | session (results : List Reply)
  | logged (result : Reply) (records : Option (List Log.Record))
  deriving Inhabited

namespace Reply

/-- A reply without anything besides. -/
def plain (answer : Except Fault Answer) : Reply := .single answer none none none

end Reply

end Dicebox.Session
