import Dicebox.Fault

/-!
# Reading settings and options

A setting, or an option of a command, has a type, and is given as a datum that may come from a
configuration file, from the environment (where everything is text) or from a person. It is read
with some leniency, and every refusal has its own complaint.

* A **text** is only ever a text.
* An **integer** may also be a truth value, a float without decimals, or a text. Such a text may be
  surrounded by spacing, carry a sign, leading zeros, single underscores and a tail of zero
  decimals; what remains has to be a plain integer (`readPlain`). The leading zeros may even stand
  before a minus sign.
* A **boolean** may also be zero or one, or one of a dozen words, in any case.
-/

set_option autoImplicit false

namespace Dicebox.Reading

open Number

/-! ## Texts -/

def text : Datum → Except Complaint String
  | .text s => .ok s
  | _ => .error .notText

/-! ## Integers -/

/-- The digits after a minus sign, and whether there is one. -/
def splitMinus : List Char → Bool × List Char
  | '-' :: rest => (true, rest)
  | cs => (false, cs)

/-- Reads a plain integer: a minus sign or none, then zero alone, or digits that do not start with
one. A run of more than `Text.maxDigits` digits is refused for its length before anything that
follows is looked at. -/
def readPlain (cs : List Char) : Except Complaint Int :=
  let (negative, digits) := splitMinus cs
  match digits with
  | [] => .error .unreadableInteger
  | '0' :: rest => if rest.isEmpty then .ok 0 else .error .unreadableInteger
  | _ =>
    let run := digits.takeWhile Char.isDigit
    if Text.maxDigits < run.length then .error .oversizedInteger
    else if run.length < digits.length then .error .unreadableInteger
    else
      let n : Int := Nat.ofDigitChars 10 digits 0
      .ok (if negative then -n else n)

/-- The text after its leading zeros, which underscores may interrupt. A single zero is kept if
nothing else would be left before the end or the decimal point. `none` if the text starts neither
with a digit nor with a minus sign, or if the zeros lead to something else. -/
def dropLeadingZeros : List Char → Option (List Char)
  | '0' :: rest => go '0' rest
  | c :: rest => if c.isDigit ∨ c = '-' then some (c :: rest) else none
  | [] => none
where
  go (last : Char) : List Char → Option (List Char)
    | [] => some [last]
    | '.' :: rest => some (last :: '.' :: rest)
    | c :: rest =>
      if c = '0' ∨ c = '_' then go c rest
      else if c.isDigit ∨ c = '-' then some (c :: rest)
      else none

/-- The text without a decimal point that is followed by zeros only, by one at least. -/
def dropZeroDecimals (cs : List Char) : List Char :=
  match cs.dropWhile (· ≠ '.') with
  | '.' :: decimals =>
    if !decimals.isEmpty && decimals.all (· == '0') then cs.takeWhile (· ≠ '.') else cs
  | _ => cs

/-- Whether two underscores stand side by side. -/
def hasDoubleUnderscore : List Char → Bool
  | '_' :: '_' :: _ => true
  | _ :: rest => hasDoubleUnderscore rest
  | [] => false

/-- The text without its underscores, if they are single ones inside of it. -/
def dropUnderscores (cs : List Char) : List Char :=
  if cs.head? = some '_' ∨ cs.getLast? = some '_' ∨ hasDoubleUnderscore cs then cs
  else cs.filter (· ≠ '_')

/-- The text without a plus sign and without leading zeros. -/
def dropPlusAndZeros : List Char → Option (List Char)
  | '+' :: '-' :: _ => none
  | '+' :: rest => dropLeadingZeros rest
  | '-' :: rest => (dropLeadingZeros rest).map ('-' :: ·)
  | cs => dropLeadingZeros cs

/-- The plain integer in a text that may be written in a looser way. -/
def tidyInteger (cs : List Char) : Option (List Char) :=
  (dropPlusAndZeros (Text.trim cs)).map (dropUnderscores ∘ dropZeroDecimals)

/-- Reads an integer from a text, as a plain one first, and then as what it is when it has been
tidied. The length is a complaint of its own only about a text that needs no tidying. -/
def integerOfText (s : String) : Except Complaint Int :=
  match readPlain s.toList with
  | .error .unreadableInteger =>
    match (tidyInteger s.toList).map readPlain with
    | some (.ok n) => .ok n
    | _ => .error .unreadableInteger
  | result => result

/-- The first magnitude that 64 bits with a sign do not hold. -/
def wordBound : Nat := 0x8000000000000000

/-- Reads an integer from a float, which has to be whole and within 64 bits. -/
def integerOfFloat : Double → Except Complaint Int
  | .infinite _ | .undefined _ => .error .infiniteNumber
  | .finite x =>
    if x.num % x.den ≠ 0 then .error .fractionalInteger
    else if x.truncate.natAbs < wordBound then .ok x.truncate
    else .error .oversizedInteger

def integer : Datum → Except Complaint Int
  | .int n => .ok n
  | .bool b => .ok (if b then 1 else 0)
  | .float x => integerOfFloat x
  | .text s => integerOfText s
  | .null | .list _ | .table _ => .error .notInteger

/-- An integer that is not below a minimum. -/
def integerFrom (minimum : Int) (d : Datum) : Except Complaint Int := do
  let n ← integer d
  if n < minimum then .error .belowMinimum else .ok n

/-! ## Booleans -/

/-- The words for the two truth values, in lower case. -/
def booleanWords : List (String × Bool) :=
  [("0", false), ("off", false), ("f", false), ("false", false), ("n", false), ("no", false),
    ("1", true), ("on", true), ("t", true), ("true", true), ("y", true), ("yes", true)]

/-- Zero and one as truth values. -/
def booleanOfInteger (n : Int) : Except Complaint Bool :=
  if n = 0 then .ok false
  else if n = 1 then .ok true
  else .error .unreadableBoolean

def boolean : Datum → Except Complaint Bool
  | .bool b => .ok b
  | .int n =>
    if -(wordBound : Int) ≤ n ∧ n < wordBound then booleanOfInteger n else .error .notBoolean
  | .float x =>
    match integerOfFloat x with
    | .ok n => booleanOfInteger n
    | .error _ => .error .notBoolean
  | .text s =>
    match booleanWords.lookup (String.ofList (s.toList.map Char.toLower)) with
    | some b => .ok b
    | none => .error .unreadableBoolean
  | .null | .list _ | .table _ => .error .notBoolean

/-- A value that may also be left out by giving null. -/
def optional {α : Type} (read : Datum → Except Complaint α) : Datum → Except Complaint (Option α)
  | .null => .ok none
  | d => do return some (← read d)

/-! ## Several values at once -/

/-- The complaint about a value that was read, if there is one. -/
def complaint? {α : Type} (name : String) (result : Except Complaint α) :
    Option (String × Complaint) :=
  match result with
  | .ok _ => none
  | .error c => some (name, c)

/-- A value read from several others, or all complaints about them. -/
def collect {α : Type} (complaints : List (Option (String × Complaint)))
    (value : Except Complaint α) : Except Fault α :=
  value.mapError fun _ => .invalid (complaints.filterMap id)

end Dicebox.Reading
