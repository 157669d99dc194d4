import Dicebox.Text.CodePage
import Dicebox.Text.Escaped
import Dicebox.Text.PairCode

/-!
# Encodings — bytes as text

Files hold bytes, and an `Encoding` says which text they are. Texts are always written in UTF-8, but
may be read in another encoding; then they come out different, or turn out not to be text at all
(`Encoding.decode`).

Encodings are called by names, of which each has several (`Encoding.ofName?`).

What is ASCII is read the same in most encodings. Some have marks that switch between sets of
characters, and of most of these only what they share with ASCII is known.
-/

set_option autoImplicit false

namespace Dicebox.Text

/-- A way to read bytes as text. -/
inductive Encoding
  | utf8
  /-- UTF-8 with a mark in front, which is no part of the text. -/
  | utf8Marked
  | ascii
  /-- A byte is the character with its code. -/
  | latin1
  | page (p : CodePage)
  | pairs (code : PairCode)
  /-- Characters by their codes and behind backslashes, in the full way or in the plain one. -/
  | escaped (full : Bool)
  /-- ASCII, with tildes that switch to pairs of bytes and back. -/
  | tildes
  /-- ASCII, with marks that switch to other characters. -/
  | switched
  /-- Labels in letters and digits. A line cannot be one. -/
  | label
  /-- What nothing can be read in. -/
  | undefined
  /-- ASCII, with all other text in letters and digits after a plus sign. -/
  | utf7
  /-- Units of two bytes, the last byte first or not. -/
  | utf16 (lastFirst : Bool)
  /-- Units of two bytes, their order being told by a mark in front. -/
  | utf16Marked
  /-- Units of four bytes. -/
  | utf32 (lastFirst : Bool)
  | utf32Marked
  deriving Repr, DecidableEq

/-- Why bytes are no text. -/
inductive DecodingError
  | undecodable
  /-- The mark in front is missing. -/
  | unmarked
  /-- Nothing of that kind is a text. -/
  | unreadable
  deriving Repr, DecidableEq

namespace Encoding

/-! ## Bytes that are characters -/

/-- The character of a byte in ASCII. -/
def asciiOf? (byte : UInt8) : Option Char :=
  if byte.toNat < 0x80 then some (Char.ofNat byte.toNat) else none

/-! ## Units of several bytes -/

/-- The number that some bytes are, the last one first or not. -/
def unitOf (lastFirst : Bool) (bytes : List UInt8) : Nat :=
  (if lastFirst then bytes.reverse else bytes).foldl (fun n b => n * 0x100 + b.toNat) 0

/-- The units of two bytes. -/
def units16? (lastFirst : Bool) : List UInt8 → Option (List Nat)
  | [] => some []
  | [_] => none
  | a :: b :: rest => do return unitOf lastFirst [a, b] :: (← units16? lastFirst rest)

/-- The units of four bytes. -/
def units32? (lastFirst : Bool) : List UInt8 → Option (List Nat)
  | [] => some []
  | a :: b :: c :: d :: rest => do
    return unitOf lastFirst [a, b, c, d] :: (← units32? lastFirst rest)
  | _ => none

/-- The character with a code. -/
def charOfCode? (code : Nat) : Option Char :=
  if code.isValidChar then some (Char.ofNat code) else none

/-- The characters of units of two bytes, some of which take two units. -/
def charsOfUnits? : List Nat → Option (List Char)
  | [] => some []
  | high :: low :: rest =>
    if 0xD800 ≤ high ∧ high < 0xDC00 ∧ 0xDC00 ≤ low ∧ low < 0xE000 then do
      let c := Char.ofNat (0x10000 + (high - 0xD800) * 0x400 + (low - 0xDC00))
      return c :: (← charsOfUnits? rest)
    else do return (← charOfCode? high) :: (← charsOfUnits? (low :: rest))
  | [unit] => do return [← charOfCode? unit]

/-! ## Text in letters and digits -/

/-- The digits of numbers to the base 64. -/
def digits64 : String := "ABCDEFGHIJKLMNOPQRSTUVWXYZabcdefghijklmnopqrstuvwxyz0123456789+/"

/-- The value of such a digit. -/
def digit64? (c : Char) : Option Nat := digits64.toList.idxOf? c

/-- The units of two bytes that some digits are. What is left over has to be less than a digit, and
zero. -/
def unitsOfDigits? (digits : List Nat) : Option (List Nat) :=
  let left := digits.length * 6 % 16
  let value := digits.foldl (fun n d => n * 64 + d) 0
  let count := digits.length * 6 / 16
  if left < 6 ∧ value >>> left <<< left = value then
    some ((List.range count).map fun i => (value >>> (left + 16 * (count - 1 - i))) % 0x10000)
  else none

/-- Some characters in front of others that may be missing. -/
def before (chars rest : Option (List Char)) : Option (List Char) := do
  return (← chars) ++ (← rest)

/-- The text that some characters are, of which `digits` have been read after a plus sign, the last
one first. A dash may end the digits, and right after the plus sign it is a plus sign. -/
def readShifted (digits : Option (List Nat)) : List Char → Option (List Char)
  | [] => digits.elim (some []) fun ds => (unitsOfDigits? ds.reverse).bind charsOfUnits?
  | c :: rest =>
    match digits with
    | none =>
      if 0x80 ≤ c.toNat then none
      else if c = '+' then readShifted (some []) rest
      else before (some [c]) (readShifted none rest)
    | some ds =>
      match digit64? c with
      | some d => readShifted (some (d :: ds)) rest
      | none =>
        if 0x80 ≤ c.toNat ∨ (ds = [] ∧ c ≠ '-') then none
        else
          let shifted := if ds = [] then some ['+']
            else (unitsOfDigits? ds.reverse).bind charsOfUnits?
          before shifted (before (some (if c = '-' then [] else [c])) (readShifted none rest))

/-! ## Tildes -/

/-- The text that some characters of ASCII are, where a tilde and a brace switch to pairs. -/
def readTildes (inPairs : Bool) : List Char → Option (List Char)
  | [] => some []
  | ['~'] => none
  | '~' :: c :: rest =>
    if c = '~' ∧ !inPairs then before (some ['~']) (readTildes false rest)
    else if c = '\x7b' ∧ !inPairs then readTildes true rest
    else if c = '\n' ∧ !inPairs then readTildes false rest
    else if c = '\x7d' ∧ inPairs then readTildes false rest
    else none
  | [c] => if inPairs then none else some [c]
  | c :: d :: rest =>
    if inPairs then
      let pair := PairCode.gb2312.pair? (c.toNat + 0x80) (d.toNat + 0x80)
      before (pair.map ([·])) (readTildes true rest)
    else before (some [c]) (readTildes false (d :: rest))

/-! ## Texts -/

/-- What some characters are as text, if there are any. -/
def ofOption (chars : Option (List Char)) : Except DecodingError (List Char) :=
  match chars with
  | some chars => .ok chars
  | none => .error .undecodable

/-- Characters that were read for want of a mark. None is missed where there are no bytes. -/
def missMark : Option (List Char) → Except DecodingError (List Char)
  | some [] => .ok []
  | some _ => .error .unmarked
  | none => .error .undecodable

/-- A text that was written in UTF-8, as it is read in an encoding. Its bytes never begin with a
mark for units of several bytes. -/
def decode (e : Encoding) (text : String) : Except DecodingError (List Char) :=
  let bytes := text.toUTF8.toList
  match e with
  | .utf8 => .ok text.toList
  | .utf8Marked =>
    match text.toList with
    | '\ufeff' :: rest => .ok rest
    | chars => .ok chars
  | .ascii => ofOption (bytes.mapM asciiOf?)
  | .latin1 => .ok (bytes.map fun b => Char.ofNat b.toNat)
  | .page p => ofOption (bytes.mapM p.char?)
  | .pairs code => ofOption (code.read? bytes)
  | .escaped full =>
    ofOption (Escaped.unescape? full (bytes.map fun b => Char.ofNat b.toNat))
  | .tildes => ofOption ((bytes.mapM asciiOf?).bind (readTildes false))
  | .switched => ofOption (bytes.mapM asciiOf?)
  | .label =>
    match bytes.mapM asciiOf? with
    | some [] => .ok []
    | some _ => .error .unreadable
    | none => .error .undecodable
  | .undefined => .error .unreadable
  | .utf7 => ofOption (readShifted none text.toList)
  | .utf16 lastFirst => ofOption ((units16? lastFirst bytes).bind charsOfUnits?)
  | .utf16Marked => missMark ((units16? true bytes).bind charsOfUnits?)
  | .utf32 lastFirst => ofOption ((units32? lastFirst bytes).bind (·.mapM charOfCode?))
  | .utf32Marked => missMark ((units32? true bytes).bind (·.mapM charOfCode?))

/-- What is written in UTF-8 is read in UTF-8. -/
theorem decode_utf8 (text : String) : utf8.decode text = .ok text.toList := rfl

/-! ## Names -/

/-- Encodings by their names, their own names first. -/
def names : List (Encoding × List String) :=
  [(utf8, ["utf_8", "u8", "utf", "utf8", "utf8_ucs2", "utf8_ucs4", "cp65001", "locale"]),
    (utf8Marked, ["utf_8_sig"]),
    (ascii, ["ascii", "646", "ansi_x3.4_1968", "ansi_x3_4_1968", "ansi_x3.4_1986", "cp367",
      "csascii", "ibm367", "iso646_us", "iso_646.irv_1991", "iso_ir_6", "us", "us_ascii"]),
    (latin1, ["latin_1", "8859", "cp819", "csisolatin1", "ibm819", "iso8859", "iso8859_1",
      "iso_8859_1", "iso_8859_1_1987", "iso_ir_100", "l1", "latin", "latin1"]),
    (latin1, ["charmap"]),
    (escaped true, ["unicode_escape"]),
    (escaped false, ["raw_unicode_escape"]),
    (tildes, ["hz", "hzgb", "hz_gb", "hz_gb_2312"]),
    (switched, ["iso2022_jp", "csiso2022jp", "iso2022jp", "iso_2022_jp"]),
    (switched, ["iso2022_jp_1", "iso2022jp_1", "iso_2022_jp_1"]),
    (switched, ["iso2022_jp_2", "iso2022jp_2", "iso_2022_jp_2"]),
    (switched, ["iso2022_jp_2004", "iso2022jp_2004", "iso_2022_jp_2004"]),
    (switched, ["iso2022_jp_3", "iso2022jp_3", "iso_2022_jp_3"]),
    (switched, ["iso2022_jp_ext", "iso2022jp_ext", "iso_2022_jp_ext"]),
    (switched, ["iso2022_kr", "csiso2022kr", "iso2022kr", "iso_2022_kr"]),
    (switched, ["idna"]),
    (label, ["punycode"]),
    (undefined, ["undefined"]),
    (utf7, ["utf_7", "u7", "unicode_1_1_utf_7", "utf7"]),
    (utf16 true, ["utf_16_le", "unicodelittleunmarked", "utf_16le"]),
    (utf16 false, ["utf_16_be", "unicodebigunmarked", "utf_16be"]),
    (utf16Marked, ["utf_16", "u16", "utf16"]),
    (utf32 true, ["utf_32_le", "utf_32le"]),
    (utf32 false, ["utf_32_be", "utf_32be"]),
    (utf32Marked, ["utf_32", "u32", "utf32"])]

/-- The encoding of a name. -/
def ofName? (name : String) : Option Encoding :=
  let name := EncodingName.plain name
  match names.find? fun e => EncodingName.isAmong e.2 name with
  | some (e, _) => some e
  | none => ((CodePage.ofName? name).map page).or ((PairCode.ofName? name).map pairs)

end Encoding

end Dicebox.Text
