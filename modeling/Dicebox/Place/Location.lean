import Dicebox.Fault

/-!
# Where a path leads

A path is followed from the working directory, part by part: a name leads down, two dots lead up,
one dot and an empty part lead nowhere, and a slash in front leads to the root. Where that ends is a
`Location`. The working directory is one of those for temporary files; it has no name of its own,
but the directories above it have (`Location.above`).

Parts and paths have a greatest length, in bytes, and cannot hold the zero character (`partFault?`).
-/

set_option autoImplicit false

namespace Dicebox

/-- A place in the file system: so many directories up from the working directory, and then down. -/
structure Location where
  up : Nat := 0
  down : List String := []
  deriving Repr, DecidableEq, Inhabited

namespace Location

/-- The names of the directories above the working directory, the nearest one first, without the
root. -/
def above : List String := ["tmp"]

/-- How far the working directory is below the root. Nothing is above the root. -/
def rootDistance : Nat := above.length + 1

def root : Location := ⟨rootDistance, []⟩

/-- Whether a name leads from a place one step back towards the working directory. -/
def leadsBack (l : Location) (name : String) : Bool :=
  l.down.isEmpty && 2 ≤ l.up && above[l.up - 2]? == some name

/-- The place that a part of a path leads to. -/
def step (l : Location) (part : String) : Location :=
  if part = "" ∨ part = "." then l
  else if part = ".." then
    if l.down.isEmpty then { l with up := min rootDistance (l.up + 1) }
    else { l with down := l.down.dropLast }
  else if l.leadsBack part then { l with up := l.up - 1 }
  else { l with down := l.down ++ [part] }

/-- The places on the way that some parts lead, each as far as its part. -/
def trail (l : Location) : List String → List Location
  | [] => []
  | part :: parts => l.step part :: trail (l.step part) parts

/-- Whether a path starts at the root. -/
def isAbsolute (path : String) : Bool := path.toList.head? == some '/'

/-- Where a path starts. -/
def start (path : String) : Location := if isAbsolute path then root else {}

/-- The parts of a path between its slashes. -/
def parts (path : String) : List String := path.splitOn "/"

/-- The place that a path leads to. -/
def ofPath (path : String) : Location := (parts path).foldl step (start path)

/-- A place as a path from the working directory. -/
def text (l : Location) : String :=
  match List.replicate l.up ".." ++ l.down with
  | [] => "."
  | steps => String.intercalate "/" steps

/-- Whether a place is in the working directory, at whatever depth. -/
def isInside (l : Location) : Bool := l.up == 0

/-- Whether a place is the working directory or above it. These are the directories that are always
there. -/
def isAbove (l : Location) : Bool := l.down.isEmpty

/-! ## What is no path -/

/-- The most bytes of a part of a path. -/
def longestPart : Nat := 255

/-- The most bytes of a path. -/
def longestPath : Nat := 4095

/-- What is wrong with a part of a path, the path being as long as given up to it. -/
def partFault? (length : Nat) (part : String) : Option Fault :=
  if part.toList.contains '\x00' then some (.brokenPath part)
  else if longestPart < part.utf8ByteSize ∨ longestPath < length then some (.pathTooLong part)
  else none

end Location

end Dicebox
