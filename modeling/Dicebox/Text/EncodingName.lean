/-!
# Names of encodings

Encodings are called by names, of which each has several. In a name case does not matter, nor does
it matter what stands between its letters and digits (`plainName`).
-/

set_option autoImplicit false

namespace Dicebox.Text.EncodingName

/-- Whether a character is a part of a name. -/
def isPart (c : Char) : Bool := c.isAlphanum || c == '.'

/-- A name in lower case, with single underscores for what stands between its parts. -/
def plain (name : String) : String :=
  let parts := (name.toList.map fun c => if isPart c then c.toLower else ' ').splitOn ' '
  String.intercalate "_" ((parts.filter (· ≠ [])).map String.ofList)

/-- A name with underscores for points. -/
def withoutPoints (name : String) : String :=
  String.ofList (name.toList.map fun c => if c = '.' then '_' else c)

/-- Whether a plain name is among the names of an encoding, of which the first is its own. In the
others a point may stand for an underscore. -/
def isAmong (names : List String) (name : String) : Bool :=
  names.contains name || names.tail.contains (withoutPoints name)

/-- An encoding has its own name. -/
theorem isAmong_cons (own : String) (others : List String) :
    isAmong (own :: others) own = true := by
  simp [isAmong]

end Dicebox.Text.EncodingName
