import Dicebox.Number.Double
import Dicebox.Text.Numeral

/-!
# Real numbers as text

A real number may be written as loosely as an integer (`readLoose`): spacing around it, a sign,
digits of any script, single underscores between digits. A point may stand among the digits, at
their front or at their end, and an exponent of ten may follow. Three words are numbers as well, in
letters of either case: the infinite one, by two names, and the one that is none.

What is read is the double nearest to the number. There is no limit on the digits.
-/

set_option autoImplicit false

namespace Dicebox.Text

open Number

/-- Whether a character belongs to a run of digits. -/
def isRunChar (c : Char) : Bool := c = '_' || (decimalValue? c).isSome

/-- The digits of a run, of which there may be none. -/
def runDigits? (cs : List Char) : Option (List Nat) :=
  if cs.isEmpty then some [] else looseDigits? cs

/-- The exponent after the digits of a number; zero if nothing follows them. -/
def exponent? : List Char → Option Int
  | [] => some 0
  | mark :: cs =>
    if mark = 'e' || mark = 'E' then
      let (negative, digits) := splitSign cs
      (looseDigits? digits).map fun ds =>
        if negative then -(ofDigitValues ds : Int) else ofDigitValues ds
    else none

/-- Reads digits with a point among them, and an exponent. -/
def readPlaces? (negative : Bool) (cs : List Char) : Option Double := do
  let (whole, rest) := cs.span isRunChar
  let (places, rest) :=
    match rest with
    | '.' :: rest => rest.span isRunChar
    | rest => ([], rest)
  let wholeDigits ← runDigits? whole
  let placeDigits ← runDigits? places
  let exponent ← exponent? rest
  let digits := wholeDigits ++ placeDigits
  if digits.isEmpty then none
  else some (.ofDecimal negative (ofDigitValues digits) (exponent - (placeDigits.length : Nat)))

/-- Reads a real number. -/
def readReal? (s : String) : Option Double :=
  let (negative, body) := splitSign (trim s.toList)
  let word := String.ofList (body.map Char.toLower)
  if word = "inf" || word = "infinity" then some (.infinite negative)
  else if word = "nan" then some (.undefined negative)
  else readPlaces? negative body

end Dicebox.Text
