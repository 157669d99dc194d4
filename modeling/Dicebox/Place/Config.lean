import Dicebox.Datum
import Dicebox.Text.Quoted

/-!
# The configuration file as text

A configuration is a table, and the file holds it in lines `key = value`. Texts stand between double
quotes, and tables within the table between braces. There is no way to write null
(`Config.isWritable`).
-/

set_option autoImplicit false

namespace Dicebox.Config

/-! ## Texts -/

/-- The characters that have a letter of their own after a backslash. -/
def letters : List (Char × Char) :=
  [('\\', '\\'), ('"', '"'), ('\n', 'n'), ('\r', 'r'), ('\t', 't'), ('\x08', 'b'), ('\x0c', 'f')]

/-- A character of a text. -/
def escape (c : Char) : List Char :=
  match letters.lookup c with
  | some letter => ['\\', letter]
  | none =>
    if c.toNat < 0x20 ∨ c.toNat = 0x7f then '\\' :: 'u' :: Text.hexDigits 4 c.toNat else [c]

/-- A text between double quotes. -/
def quote (s : String) : String := "\"" ++ String.ofList (s.toList.flatMap escape) ++ "\""

/-- A key, which only needs quotes if it is more than a plain word. -/
def key (s : String) : String :=
  if !s.isEmpty && s.toList.all (fun c => c.isAlphanum || c == '_' || c == '-') then s else quote s

/-! ## Values -/

mutual

/-- A value on a line. -/
def value : Datum → String
  | .null => "null"
  | .bool b => if b then "true" else "false"
  | .int n => toString n
  | .float x => x.toText
  | .text s => quote s
  | .list items => "[" ++ String.intercalate ", " (itemTexts items) ++ "]"
  | .table entries => "\x7b" ++ String.intercalate ", " (entryLines entries) ++ "\x7d"

def itemTexts : List Datum → List String
  | [] => []
  | d :: rest => value d :: itemTexts rest

def entryLines : List (String × Datum) → List String
  | [] => []
  | (name, d) :: rest => (key name ++ " = " ++ value d) :: entryLines rest

end

/-! ## Files -/

mutual

/-- Whether a value can be written. There is no way to write null. -/
def isWritable : Datum → Bool
  | .null => false
  | .list items => areWritable items
  | .table entries => areEntriesWritable entries
  | .bool _ | .int _ | .float _ | .text _ => true

def areWritable : List Datum → Bool
  | [] => true
  | d :: rest => isWritable d && areWritable rest

def areEntriesWritable : List (String × Datum) → Bool
  | [] => true
  | (_, d) :: rest => isWritable d && areEntriesWritable rest

end

/-- The text of the file that holds a configuration. -/
def text (content : List (String × Datum)) : String :=
  String.join ((entryLines content).map (· ++ "\n"))

end Dicebox.Config
