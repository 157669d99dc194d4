import Dicebox.Number.Shortest
import Dicebox.Text.Numeral
import Dicebox.Text.Quoted

/-!
# `Datum` — a value of unknown kind

What a caller hands over as a notation, a side count or a settings value may be of any kind, and is
quoted back in messages when it is refused. A `Datum` is such a value. Three questions are asked
about one here: what it looks like in a message (`Datum.display`), what kind it is (`Datum.kind`),
and whether it counts as given at all (`Datum.isGiven`). Reading one as an integer is the business
of `Dicebox.Datum.Integer`, comparing two that of `Dicebox.Datum.Order`, and calculating with them
that of `Dicebox.Datum.Arithmetic`.
-/

set_option autoImplicit false

namespace Dicebox

open Number

/-- A value of any kind. A table keeps its entries in the order in which they were written. -/
inductive Datum
  | null
  | bool (b : Bool)
  | int (n : Int)
  | float (x : Double)
  | text (s : String)
  | list (items : List Datum)
  | table (entries : List (String × Datum))
  deriving Inhabited

namespace Datum

/-- The name of a datum's kind, as messages give it. -/
def kind : Datum → String
  | .null => "NoneType"
  | .bool _ => "bool"
  | .int _ => "int"
  | .float _ => "float"
  | .text _ => "str"
  | .list _ => "list"
  | .table _ => "dict"

/-- Whether a datum counts as given: neither null, nor false, nor zero, nor empty. -/
def isGiven : Datum → Bool
  | .null => false
  | .bool b => b
  | .int n => n != 0
  | .float (.finite x) => !x.isZero
  | .float (.infinite _) | .float (.undefined _) => true
  | .text s => !s.isEmpty
  | .list items => !items.isEmpty
  | .table entries => !entries.isEmpty

mutual

/-- A datum inside another one: like `display`, with quotes around texts. -/
def showQuoted : Datum → String
  | .null => "None"
  | .bool true => "True"
  | .bool false => "False"
  | .int n => toString n
  | .float x => x.toText
  | .text s => Text.quote s
  | .list items => "[" ++ String.intercalate ", " (showItems items) ++ "]"
  | .table entries => "\x7b" ++ String.intercalate ", " (showEntries entries) ++ "\x7d"

def showItems : List Datum → List String
  | [] => []
  | d :: rest => showQuoted d :: showItems rest

def showEntries : List (String × Datum) → List String
  | [] => []
  | (key, d) :: rest => (Text.quote key ++ ": " ++ showQuoted d) :: showEntries rest

end

/-- A datum as a message shows it: a text as it is, everything else in its written form. -/
def display : Datum → String
  | .text s => s
  | d => d.showQuoted

/-- A datum as a message shows it, unless it is a number too long to be written. -/
def write? : Datum → Option String
  | .int n => Text.write? n
  | d => some d.display

end Datum

end Dicebox
