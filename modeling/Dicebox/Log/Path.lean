import Dicebox.Place.Landmark

/-!
# Where a log file is

The directories on the way to a log file are made if they are not there, so a path can lead to one
of them, where no file can be (`isDirectory`). They are made before the file, so what is wrong with
them is found first (`directoryFault?`, `fileFault?`).

Making a directory means making the one before it, unless that is there. This goes back as far as it
has to (`missing`), but not any number of directories (`depthFault?`). None can be made where there
is a file, and no path leads on from there (`wayFault?`).
-/

set_option autoImplicit false

namespace Dicebox.Log

open Location

/-- The places of the directories that are made for a file. -/
def directories (path : String) : List Location := trail (start path) (parts path).dropLast

/-- Whether the place of a file is that of a directory: one that is always there, or one that is
made for it. -/
def isDirectory (path : String) : Bool :=
  let l := Location.ofPath path
  l.landmark? == some .directory || (directories path).contains l

/-! ## How far back directories are missing -/

/-- How many directories are missing among some parts of a path, after some bytes of the path and at
a place. What is always there is not missing; a path that is too long leads to nothing. -/
def missingAfter (length : Nat) (l : Location) (found : Bool) : List String → Nat
  | [] => 0
  | part :: parts =>
    let length := length + part.utf8ByteSize
    let l := l.step part
    let found := found && l.landmark?.isSome && (partFault? length part).isNone
    (if part = "" ∨ found then 0 else 1) + missingAfter (length + 1) l found parts

/-- How many directories of a path are missing. -/
def missing (path : String) : Nat :=
  missingAfter 0 (start path) true (parts path).dropLast

/-- The most directories that can be made one before the other. -/
def deepestPath : Nat := 970

/-- Whether too many directories are missing. -/
def depthFault? (path : String) : Option Fault :=
  if deepestPath < missing path then some (.pathTooDeep path) else none

/-! ## What is wrong with a path -/

/-- Whether there is a file at a place, or something like a file. -/
def isFile (l : Location) : Bool := l.landmark? == some .file || l.landmark? == some .device

/-- The first thing wrong with the way that the parts of a path lead, after some bytes of the path
and at a place. -/
def wayFault? (before : Nat) (l : Location) : List String → Option Fault
  | [] => if isFile l then some (.fileInTheWay l.text) else none
  | part :: rest =>
    let length := before + part.utf8ByteSize
    if isFile l && !(part :: rest).all (· == "") then
      (partFault? length part).or (some (.behindFile l.text))
    else (partFault? length part).or (wayFault? (length + 1) (l.step part) rest)

/-- What is wrong with the directories of a file. -/
def directoryFault? (path : String) : Option Fault :=
  (depthFault? path).or (wayFault? 0 (start path) (parts path).dropLast)

/-- What is wrong with the file itself. -/
def fileFault? (path : String) : Option Fault :=
  let name := (parts path).getLast?.getD ""
  (partFault? (Location.ofPath path).text.utf8ByteSize name).or
    (if isDirectory path then some (.isDirectory path) else none)

end Dicebox.Log
