import Dicebox.Datum.Items
import Dicebox.Name
import Dicebox.Source.Seed

/-!
# Named sources

In a session a source of draws can be given a name and be used again and again; each use leaves it
where the next one finds it. Two names may stand for one source, so names and sources are kept
apart: a name leads to a place, and the source is what is there. A name can also stand for nothing,
and using it is like naming no source at all.
-/

set_option autoImplicit false

namespace Dicebox.Session

/-- Which source to draw from. -/
inductive SourceChoice
  /-- None in particular. -/
  | nothing
  /-- One of its own, seeded with a datum, or anyhow if the datum is null. -/
  | seeded (seed : Datum)
  | scripted (draws : List (Except Fault Draw))
  | named (name : Name)
  /-- None that could be made or found, and why. -/
  | senseless (fault : Fault)
  deriving Inhabited

namespace SourceChoice

/-- The choice by a name, which may be none. -/
def ofName (name : Datum) : SourceChoice :=
  match Name.of? name with
  | .ok name => .named name
  | .error fault => .senseless fault

/-- The choice of a script. -/
def ofScript (numerators : Datum) : SourceChoice :=
  match numerators.items with
  | .ok items => .scripted (items.map Draw.ofDatum)
  | .error fault => .senseless fault

/-- The choice that a datum describes: null is none, and a table gives a name, a script of
fractions, or a seed, of which the first that is there counts. -/
def ofDatum : Datum → SourceChoice
  | .null => .nothing
  | .table entries =>
    match entries.lookup "name", entries.lookup "fractions", entries.lookup "seed" with
    | some name, _, _ => ofName name
    | none, some numerators, _ => ofScript numerators
    | none, none, some seed => .seeded seed
    | none, none, none => .senseless (.missingField "seed")
  | d => .senseless (.notFields d.kind)

end SourceChoice

/-- What a choice comes to. -/
inductive Found
  | nothing
  /-- A source that nobody else uses. -/
  | fresh (source : Source)
  /-- A source of the session, and its place. -/
  | kept (place : Nat) (source : Source)
  deriving Inhabited

/-- The sources of a session and the names under which they are known. -/
structure Sources where
  names : OrderedMap Name (Option Nat) := .empty
  cells : Array Source := #[]
  deriving Inhabited

namespace Sources

/-- Leaves a source at a place. -/
def put (s : Sources) (i : Nat) (source : Source) : Sources :=
  { s with cells := s.cells.setIfInBounds i source }

/-- Gives a name to a new source. -/
def add (s : Sources) (name : Name) (source : Source) : Sources :=
  { names := s.names.insert name (some s.cells.size), cells := s.cells.push source }

/-- Gives a name to a place, or to nothing. -/
def point (s : Sources) (name : Name) (place : Option Nat) : Sources :=
  { s with names := s.names.insert name place }

/-- What a choice comes to. Unseeded sources are seeded with `entropy`. -/
def find (s : Sources) (choice : SourceChoice) (entropy : Int) : Except Fault Found :=
  match choice with
  | .nothing => .ok .nothing
  | .seeded seed => (Source.ofSeed seed entropy).map .fresh
  | .scripted draws => .ok (.fresh (.scripted draws))
  | .senseless fault => .error fault
  | .named name =>
    match s.names.find? name with
    | none => .error (.unknownSource name.datum)
    | some none => .ok .nothing
    | some (some i) =>
      match s.cells[i]? with
      | none => .error (.unknownSource name.datum)
      | some source => .ok (.kept i source)

/-- Makes a name for what a choice comes to. A choice by name makes a second name for the same
source. -/
def introduce (s : Sources) (name : Name) (choice : SourceChoice) (entropy : Int) :
    Except Fault Sources := do
  match ← s.find choice entropy with
  | .nothing => return s.point name none
  | .fresh source => return s.add name source
  | .kept i _ => return s.point name (some i)

/-- The sources after one that was found has been used. What remains of a source of the session is
left at its place. -/
def leave (s : Sources) (found : Found) (rest : Source) : Sources :=
  match found with
  | .kept i _ => s.put i rest
  | .fresh _ | .nothing => s

end Sources

namespace Found

/-- The source that was found. -/
def source? : Found → Option Source
  | .nothing => none
  | .fresh source | .kept _ source => some source

end Found

end Dicebox.Session
