import Dicebox.Command.Options

/-!
# Names of types

The type of an option may be written down: `str`, `int`, `float`, `bool` and `None`, unions with a
bar (`int | None`), `Optional[…]` and `Union[…, …]`, and other types, with or without types in
brackets. Unions within unions are unfolded and a repeated member counts once; a union of a single
type is that type.
-/

set_option autoImplicit false

namespace Dicebox.ValueType

/-- The members of a type as a part of a union. -/
def members : ValueType → List ValueType
  | .union ms => ms
  | t => [t]

/-- The union of some types. -/
def unionOf (types : List ValueType) : ValueType :=
  match (types.flatMap members).eraseDups with
  | [t] => t
  | ms => .union ms

/-- The type of a plain name. -/
def ofName : String → ValueType
  | "str" => .text
  | "int" => .integer
  | "float" => .real
  | "bool" => .boolean
  | "None" | "NoneType" => .nothing
  | _ => .other

/-- The type of a name with types in brackets. -/
def ofApplied (name : String) (arguments : List ValueType) : ValueType :=
  match name with
  | "Optional" => unionOf (arguments ++ [.nothing])
  | "Union" => unionOf arguments
  | _ => .other

/-! ## Reading -/

/-- The characters of a name. -/
def isNameChar (c : Char) : Bool := !(c = '[' || c = ']' || c = ',' || c = '|' || c = ' ')

mutual

/-- Reads a type, its unions included, and gives the rest of the text. The number bounds the depth
of the reading. -/
def readType : Nat → List Char → ValueType × List Char
  | 0, cs => (.other, cs)
  | n + 1, cs =>
    let (first, rest) := readMember n cs
    match rest.dropWhile (· = ' ') with
    | '|' :: more =>
      let (others, rest) := readType n more
      (unionOf [first, others], rest)
    | rest => (first, rest)

/-- Reads a name and the types in brackets after it. -/
def readMember : Nat → List Char → ValueType × List Char
  | 0, cs => (.other, cs)
  | n + 1, cs =>
    let cs := cs.dropWhile (· = ' ')
    let name := String.ofList (cs.takeWhile isNameChar)
    match cs.dropWhile isNameChar with
    | '[' :: inside =>
      let (arguments, rest) := readArguments n inside
      (ofApplied name arguments, rest)
    | rest => (ofName name, rest)

/-- Reads types up to a closing bracket. -/
def readArguments : Nat → List Char → List ValueType × List Char
  | 0, cs => ([], cs)
  | n + 1, cs =>
    let (first, rest) := readType n cs
    match rest.dropWhile (· = ' ') with
    | ',' :: more =>
      let (others, rest) := readArguments n more
      (first :: others, rest)
    | ']' :: rest => ([first], rest)
    | rest => ([first], rest)

end

/-- The type that a text names. -/
def ofText (s : String) : ValueType :=
  (readType (3 * s.length + 3) s.toList).1

end Dicebox.ValueType
