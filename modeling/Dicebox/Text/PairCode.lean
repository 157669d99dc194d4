import Dicebox.Text.CharacterSet.Big5
import Dicebox.Text.CharacterSet.Gb2312
import Dicebox.Text.CharacterSet.JisX0208
import Dicebox.Text.CharacterSet.KsX1001
import Dicebox.Text.EncodingName

/-!
# Encodings with one byte or two for a character

In the encodings of East Asia a character of ASCII takes one byte, and most others take two. A
`PairCode` says which bytes stand alone (`single?`) and what the others are in pairs (`pair?`).

Each is made for a character set, and some go beyond it. Where they do so by giving the places that
are left, in order, to the characters that the set does not have, the tables are computed from the
set (`otherHan`, `otherHangul`); what else makers have added is listed. Bytes beyond these have
characters for private use, which are in order too.
-/

set_option autoImplicit false

namespace Dicebox.Text

/-- An encoding with one byte or two for a character. -/
inductive PairCode
  | gb2312
  | gbk
  | gb18030
  | eucKr
  /-- The Korean encoding of Windows. -/
  | windows949
  | johab
  | shiftJis
  /-- With a sign for the yen and a line above, where ASCII has a backslash and a tilde. -/
  | shiftJis2004
  /-- The Japanese encoding of Windows. -/
  | windows932
  | eucJp
  | big5
  /-- The Taiwanese encoding of Windows. -/
  | windows950
  deriving Repr, DecidableEq

namespace PairCode

open CharacterSet

/-! ## Second bytes

A second byte is counted among those that can be one. -/

/-- The place of a number in ranges that follow each other. -/
def placeIn? (ranges : List (Nat × Nat)) (b : Nat) : Option Nat :=
  match ranges with
  | [] => none
  | (first, last) :: rest =>
    if first ≤ b ∧ b ≤ last then some (b - first)
    else (placeIn? rest b).map (· + (last + 1 - first))

/-- The character of a set of 94 rows and columns, of which both start with the byte `A1`. -/
def inSquare? (s : CharacterSet) (a b : Nat) : Option Char :=
  if 0xA1 ≤ a ∧ 0xA1 ≤ b then s.char? (a - 0xA1) (b - 0xA1) else none

/-- A character for private use. -/
def privateChar (i : Nat) : Option Char := some (Char.ofNat (0xE000 + i))

/-! ## Chinese -/

/-- The Chinese characters of the first block for them that GB 2312 does not have, and those that
are put behind them. -/
def otherHan : Array Char :=
  gb2312Set.without 0x4E00 20902 ++ "郎凉秊裏隣兀嗀﨎﨏﨑﨓﨔礼﨟蘒﨡﨣﨤﨧﨨﨩".toList.toArray

/-- What else GBK adds, by its first pairs. -/
def gbkAdditions : List (Nat × Nat × String) :=
  [(0xA2, 0xA1, "ⅰⅱⅲⅳⅴⅵⅶⅷⅸⅹ"), (0xA6, 0xE0, "︵︶︹︺︿﹀︽︾﹁﹂﹃﹄"),
    (0xA6, 0xEE, "︻︼︷︸︱"), (0xA6, 0xF4, "︳︴"),
    (0xA8, 0x40,
      "ˊˋ˙–―‥‵℅℉↖↗↘↙∕∟∣≒≦≧⊿═║╒╓╔╕╖╗╘╙╚╛╜╝╞╟╠╡╢╣╤╥╦╧╨╩╪╫╬╭╮╯╰╱╲╳▁▂▃▄▅▆▇"),
    (0xA8, 0x80, "█▉▊▋▌▍▎▏▓▔▕▼▽◢◣◤◥☉⊕〒〝〞"), (0xA8, 0xBB, "ɑ"), (0xA8, 0xBD, "ńň"),
    (0xA8, 0xC0, "ɡ"), (0xA9, 0x40, "〡〢〣〤〥〦〧〨〩㊣㎎㎏㎜㎝㎞㎡㏄㏎㏑㏒㏕︰￢￤"),
    (0xA9, 0x59, "℡㈱"), (0xA9, 0x5C, "‐"), (0xA9, 0x60, "ー゛゜ヽヾ〆ゝゞ﹉﹊﹋﹌﹍﹎﹏﹐﹑﹒﹔﹕﹖﹗﹙﹚﹛﹜﹝﹞﹟﹠﹡"),
    (0xA9, 0x80, "﹢﹣﹤﹥﹦﹨﹩﹪﹫"), (0xA9, 0x96, "〇")]

/-- The character of a pair among some that are listed by their first pairs. -/
def listed? (additions : List (Nat × Nat × String)) (a b : Nat) : Option Char :=
  additions.findSome? fun (lead, first, chars) =>
    if a = lead ∧ first ≤ b then inText? chars (b - first) else none

/-- The second bytes of GBK. -/
def gbkTrails : List (Nat × Nat) := [(0x40, 0x7E), (0x80, 0xFE)]

/-- The characters in the places that GBK has before and beside GB 2312. -/
def gbkHan? (a b : Nat) : Option Char := do
  let i ← placeIn? gbkTrails b
  if 0x81 ≤ a ∧ a ≤ 0xA0 then otherHan[(a - 0x81) * 190 + i]?
  else if 0xAA ≤ a ∧ i < 96 then otherHan[0x20 * 190 + (a - 0xAA) * 96 + i]?
  else none

/-- The pairs of GBK. It has another dot and another dash. -/
def gbkPair? (a b : Nat) : Option Char :=
  if (a, b) = (0xA1, 0xA4) then some '·'
  else if (a, b) = (0xA1, 0xAA) then some '—'
  else ((inSquare? gb2312Set a b).or (listed? gbkAdditions a b)).or (gbkHan? a b)

/-- The areas for private use of GB 18030. -/
def gbPrivate? (a b : Nat) : Option Char :=
  if 0xAA ≤ a ∧ a ≤ 0xAF ∧ 0xA1 ≤ b ∧ b ≤ 0xFE then privateChar ((a - 0xAA) * 94 + (b - 0xA1))
  else if 0xF8 ≤ a ∧ a ≤ 0xFE ∧ 0xA1 ≤ b ∧ b ≤ 0xFE then
    privateChar (0x234 + (a - 0xF8) * 94 + (b - 0xA1))
  else if 0xA1 ≤ a ∧ a ≤ 0xA7 then do
    let i ← placeIn? gbkTrails b
    if i < 96 then privateChar (0x4C6 + (a - 0xA1) * 96 + i) else none
  else none

/-- What GB 18030 adds to GBK outside of its areas for private use. -/
def gb18030Additions : List (Nat × Nat × String) :=
  [(0xA2, 0xE3, "€"), (0xA8, 0xBF, "ǹ"), (0xA9, 0x89, "〾⿰⿱⿲⿳⿴⿵⿶⿷⿸⿹⿺⿻"),
    (0xFE, 0x50, "⺁   ⺄㑳㑇⺈⺋ 㖞㘚㘎⺌⺗㥮㤘 㧏㧟㩳㧐  㭎㱮㳠⺧  ⺪䁖䅟⺮䌷⺳⺶⺷ 䎱䎬⺻䏝䓖䙡䙌"),
    (0xFE, 0x80, "䜣䜩䝼䞍⻊䥇䥺䥽䦂䦃䦅䦆䦟䦛䦷䦶  䲣䲟䲠䲡䱷䲢䴓䴔䴕䴖䴗䴘䴙䶮")]

/-- The pairs that GBK leaves between its characters, in order. -/
def gbGaps : Array (Nat × Nat) :=
  let leads := (List.range 8).map (0xA2 + ·) ++ [0xD7, 0xFE]
  let trails := (List.range 0xBF).map (0x40 + ·)
  ((leads.flatMap fun a => trails.map fun b => (a, b)).filter fun (a, b) =>
    (placeIn? gbkTrails b).isSome && (gbkPair? a b).isNone && (gbPrivate? a b).isNone).toArray

/-- The pairs of GB 18030. All that are left are for private use. -/
def gb18030Pair? (a b : Nat) : Option Char :=
  let gap : Option Char := do privateChar (0x766 + (← gbGaps.idxOf? (a, b)))
  (((gbkPair? a b).or (gbPrivate? a b)).or (listed? gb18030Additions a b)).or gap

/-! ## Korean -/

/-- The Korean syllables that KS X 1001 does not have. -/
def otherHangul : Array Char := ksX1001.without 0xAC00 11172

/-- The second bytes of the Korean encoding of Windows. -/
def windows949Trails : List (Nat × Nat) := [(0x41, 0x5A), (0x61, 0x7A), (0x81, 0xFE)]

/-- The pairs of the Korean encoding of Windows. -/
def windows949Pair? (a b : Nat) : Option Char :=
  if (a, b) = (0xA4, 0xD4) then some 'ㅤ'
  else
    (inSquare? ksX1001 a b).or do
      let i ← placeIn? windows949Trails b
      if 0x81 ≤ a ∧ a ≤ 0xA0 then otherHangul[(a - 0x81) * 178 + i]?
      else if 0xA1 ≤ a ∧ a ≤ 0xC6 ∧ i < 84 then otherHangul[0x20 * 178 + (a - 0xA1) * 84 + i]?
      else none

/-- What five bits of a Korean syllable say. -/
inductive Jamo
  | filler
  | letter (i : Nat)
  deriving Repr, DecidableEq

/-- A letter, or a filler for none, by its five bits, of which some mean nothing. -/
def jamo? (codes : List (Nat × Nat)) (filler bits : Nat) : Option Jamo :=
  if bits = filler then some .filler else (placeIn? codes bits).map .letter

/-- The letters of Korean by themselves: those that begin a syllable, those in its middle, and those
that end it. -/
def leadJamo : String := "ㄱㄲㄴㄷㄸㄹㅁㅂㅃㅅㅆㅇㅈㅉㅊㅋㅌㅍㅎ"
def vowelJamo : String := "ㅏㅐㅑㅒㅓㅔㅕㅖㅗㅘㅙㅚㅛㅜㅝㅞㅟㅠㅡㅢㅣ"
def tailJamo : String := "ㄱㄲㄳㄴㄵㄶㄷㄹㄺㄻㄼㄽㄾㄿㅀㅁㅂㅄㅅㅆㅇㅈㅊㅋㅌㅍㅎ"

/-- The syllables of Johab, which have five bits for each of their letters. -/
def johabSyllable? (a b : Nat) : Option Char := do
  let code := a * 0x100 + b
  let lead ← jamo? [(2, 20)] 1 (code / 0x400 % 0x20)
  let vowel ← jamo? [(3, 7), (10, 15), (18, 23), (26, 29)] 2 (code / 0x20 % 0x20)
  let tail ← jamo? [(2, 17), (19, 29)] 1 (code % 0x20)
  match lead, vowel, tail with
  | .filler, .filler, .filler => some '\u3000'
  | .letter i, .filler, .filler => inText? leadJamo i
  | .filler, .letter i, .filler => inText? vowelJamo i
  | .filler, .filler, .letter i => inText? tailJamo i
  | .letter i, .letter j, .filler => some (Char.ofNat (0xAC00 + i * 588 + j * 28))
  | .letter i, .letter j, .letter k => some (Char.ofNat (0xAC00 + i * 588 + j * 28 + k + 1))
  | _, _, _ => none

/-- The other characters of Johab, which has two rows of KS X 1001 after one first byte. Where that
has Korean letters, it has none. -/
def johabOther? (a b : Nat) : Option Char := do
  let i ← placeIn? [(0x31, 0x7E), (0x91, 0xFE)] b
  let (row, column) := (i / 94, i % 94)
  if a = 0xDA ∧ 0xA1 ≤ b ∧ b ≤ 0xD3 then none
  else if 0xD9 ≤ a ∧ a ≤ 0xDE then ksX1001.char? ((a - 0xD9) * 2 + row) column
  else if 0xE0 ≤ a ∧ a ≤ 0xF9 then ksX1001.char? ((a - 0xE0) * 2 + 41 + row) column
  else none

/-- The pairs of Johab. -/
def johabPair? (a b : Nat) : Option Char :=
  if a < 0xD8 then johabSyllable? a b else johabOther? a b

/-! ## Japanese -/

/-- The half as wide Japanese letters, which take one byte. -/
def halfKana? (a : Nat) : Option Char :=
  if 0xA1 ≤ a ∧ a ≤ 0xDF then some (Char.ofNat (0xFF61 + (a - 0xA1))) else none

/-- The second bytes of Shift JIS, which has two rows of JIS X 0208 after one first byte. -/
def shiftJisTrails : List (Nat × Nat) := [(0x40, 0x7E), (0x80, 0xFC)]

/-- The row and the column of a pair of Shift JIS. -/
def shiftJisPlace? (a b : Nat) : Option (Nat × Nat) := do
  let i ← placeIn? shiftJisTrails b
  if 0x81 ≤ a ∧ a ≤ 0x9F then some ((a - 0x81) * 2 + i / 94, i % 94)
  else if 0xE0 ≤ a ∧ a ≤ 0xEF then some ((a - 0xC1) * 2 + i / 94, i % 94)
  else none

/-- The pairs of Shift JIS. -/
def shiftJisPair? (a b : Nat) : Option Char := do
  let (row, column) ← shiftJisPlace? a b
  jisX0208.char? row column

/-- The signs that the Japanese encoding of Windows has instead of others, or in places without
any. -/
def windows932Additions : List (Nat × Nat × String) :=
  [(0x81, 0x60, "～∥"), (0x81, 0x7C, "－"), (0x81, 0x91, "￠￡"), (0x81, 0xCA, "￢"),
    (0x87, 0x40, "①②③④⑤⑥⑦⑧⑨⑩⑪⑫⑬⑭⑮⑯⑰⑱⑲⑳ⅠⅡⅢⅣⅤⅥⅦⅧⅨⅩ ㍉㌔㌢㍍㌘㌧㌃㌶㍑㍗㌍㌦㌣㌫㍊㌻㎜㎝㎞㎎㎏㏄㎡        ㍻"),
    (0x87, 0x80, "〝〟№㏍℡㊤㊥㊦㊧㊨㈱㈲㈹㍾㍽㍼≒≡∫∮∑√⊥∠∟⊿∵∩∪")]

/-- The characters that the Japanese encoding of Windows has behind all others. -/
def windows932Others : String :=
  "ⅰⅱⅲⅳⅴⅵⅶⅷⅸⅹⅠⅡⅢⅣⅤⅥⅦⅧⅨⅩ￢￤＇＂㈱№℡∵" ++
    "纊褜鍈銈蓜俉炻昱棈鋹曻彅丨仡仼伀伃伹佖侒侊侚侔俍偀倢俿倞偆偰偂傔僴僘兊兤冝冾凬刕劜劦勀勛匀匇匤卲厓厲叝﨎咜咊咩哿喆坙坥垬埈埇﨏塚增墲夋奓奛奝奣妤妺孖寀甯寘寬尞岦岺峵崧嵓﨑嵂嵭嶸嶹巐" ++
    "弡弴彧德忞恝悅悊惞惕愠惲愑愷愰憘戓抦揵摠撝擎敎昀昕昻昉昮昞昤晥晗晙晴晳暙暠暲暿曺朎朗杦枻桒柀栁桄棏﨓楨﨔榘槢樰橫橆橳橾櫢櫤毖氿汜沆汯泚洄涇浯涖涬淏淸淲淼渹湜渧渼溿澈澵濵瀅瀇瀨炅炫焏" ++
    "焄煜煆煇凞燁燾犱犾猤猪獷玽珉珖珣珒琇珵琦琪琩琮瑢璉璟甁畯皂皜皞皛皦益睆劯砡硎硤硺礰礼神祥禔福禛竑竧靖竫箞精絈絜綷綠緖繒罇羡羽茁荢荿菇菶葈蒴蕓蕙蕫﨟薰蘒﨡蠇裵訒訷詹誧誾諟諸諶譓譿賰賴" ++
    "贒赶﨣軏﨤逸遧郞都鄕鄧釚釗釞釭釮釤釥鈆鈐鈊鈺鉀鈼鉎鉙鉑鈹鉧銧鉷鉸鋧鋗鋙鋐﨧鋕鋠鋓錥錡鋻﨨錞鋿錝錂鍰鍗鎤鏆鏞鏸鐱鑅鑈閒隆﨩隝隯霳霻靃靍靏靑靕顗顥飯飼餧館馞驎髙髜魵魲鮏鮱鮻鰀鵰鵫鶴鸙黑"

/-- Some of them stand a second time between the others, the signs after the characters. -/
def windows932Repeated : List Char :=
  let chars := windows932Others.toList
  chars.drop 28 ++ [missing, missing] ++ chars.take 10 ++ (chars.drop 20).take 4

/-- The pairs of the Japanese encoding of Windows. -/
def windows932Pair? (a b : Nat) : Option Char :=
  (listed? windows932Additions a b).or <| (shiftJisPair? a b).or do
    let i ← placeIn? shiftJisTrails b
    if 0xED ≤ a ∧ a ≤ 0xEE then windows932Repeated[(a - 0xED) * 188 + i]?.bind present?
    else if 0xF0 ≤ a ∧ a ≤ 0xF9 then privateChar ((a - 0xF0) * 188 + i)
    else if 0xFA ≤ a then inText? windows932Others ((a - 0xFA) * 188 + i)
    else none

/-- The bytes that stand alone in the Japanese encoding of Windows, where others have none. -/
def windows932Single? (a : Nat) : Option Char :=
  [(0x80, '\u0080'), (0xA0, '\uf8f0'), (0xFD, '\uf8f1'), (0xFE, '\uf8f2'),
    (0xFF, '\uf8f3')].lookup a

/-- The pairs of EUC for Japanese, in which a half as wide letter has a byte in front. -/
def eucJpPair? (a b : Nat) : Option Char :=
  if a = 0x8E then halfKana? b else inSquare? jisX0208 a b

/-! ## Taiwanese -/

/-- The pairs of Big5. -/
def big5Pair? (a b : Nat) : Option Char := do
  let i ← placeIn? [(0x40, 0x7E), (0xA1, 0xFE)] b
  if 0xA1 ≤ a then big5Set.char? (a - 0xA1) i else none

/-- The signs that the Taiwanese encoding of Windows has instead of others, or in places without
any. -/
def windows950Additions : List (Nat × Nat × String) :=
  [(0xA1, 0x45, "‧"), (0xA1, 0x4E, "﹑"), (0xA1, 0xC2, "¯"), (0xA1, 0xE3, "～"),
    (0xA1, 0xF2, "⊕⊙"), (0xA2, 0x41, "∕﹨"), (0xA2, 0x44, "￥"), (0xA2, 0x46, "￠￡"),
    (0xA3, 0xE1, "€"), (0xF9, 0xD6, "碁銹裏墻恒粧嫺╔╦╗╠╬╣╚╩╝╒╤╕╞╪╡╘╧╛╓╥╖╟╫╢╙╨╜║═╭╮╰╯▓")]

/-- The pairs of the Taiwanese encoding of Windows. -/
def windows950Pair? (a b : Nat) : Option Char :=
  (listed? windows950Additions a b).or (big5Pair? a b)

/-! ## All of them -/

/-- The character of a byte that stands alone. -/
def single? (code : PairCode) (a : Nat) : Option Char :=
  if a < 0x80 then
    if code = .shiftJis2004 ∧ a = 0x5C then some '¥'
    else if code = .shiftJis2004 ∧ a = 0x7E then some '‾'
    else some (Char.ofNat a)
  else
    match code with
    | .shiftJis | .shiftJis2004 => halfKana? a
    | .windows932 => (halfKana? a).or (windows932Single? a)
    | _ => none

/-- The character of a pair of bytes, of which the first does not stand alone. -/
def pair? : PairCode → Nat → Nat → Option Char
  | .gb2312 => inSquare? gb2312Set
  | .gbk => gbkPair?
  | .gb18030 => gb18030Pair?
  | .eucKr => inSquare? ksX1001
  | .windows949 => windows949Pair?
  | .johab => johabPair?
  | .shiftJis | .shiftJis2004 => shiftJisPair?
  | .windows932 => windows932Pair?
  | .eucJp => eucJpPair?
  | .big5 => big5Pair?
  | .windows950 => windows950Pair?

/-- The characters of some bytes. -/
def read? (code : PairCode) : List UInt8 → Option (List Char)
  | [] => some []
  | [a] => do return [← code.single? a.toNat]
  | a :: b :: rest =>
    match code.single? a.toNat with
    | some c => do return c :: (← code.read? (b :: rest))
    | none => do return (← code.pair? a.toNat b.toNat) :: (← code.read? rest)

/-- Bytes of ASCII are its characters, but for two signs in one of the encodings. -/
theorem read?_of_ascii {code : PairCode} (h : code ≠ .shiftJis2004) :
    ∀ {bytes : List UInt8}, (∀ b ∈ bytes, b.toNat < 0x80) →
      code.read? bytes = some (bytes.map fun b => Char.ofNat b.toNat) := by
  have alone {a : UInt8} (ha : a.toNat < 0x80) :
      code.single? a.toNat = some (Char.ofNat a.toNat) := by
    simp [single?, ha, h]
  intro bytes ascii
  fun_induction code.read? bytes with
  | case1 => rfl
  | case2 a => simp [alone (ascii a (by simp))]
  | case3 a b rest c hc ih =>
    rw [alone (ascii a (by simp))] at hc
    simp [ih fun b hb => ascii b (List.mem_cons_of_mem a hb), Option.some.inj hc]
  | case4 a b rest hc => simp [alone (ascii a (by simp))] at hc

/-- All encodings of this kind with their names. A version with more characters is read as the one
that it started from. -/
def names : List (PairCode × List String) :=
  [(gb2312, ["gb2312", "chinese", "csiso58gb231280", "euc_cn", "euccn", "eucgb2312_cn",
      "gb2312_1980", "gb2312_80", "iso_ir_58", "x_mac_simp_chinese"]),
    (gbk, ["gbk", "936", "cp936", "ms936"]),
    (gb18030, ["gb18030", "gb18030_2000"]),
    (eucKr, ["euc_kr", "euckr", "korean", "ks_c_5601", "ks_c_5601_1987", "ks_x_1001", "ksc5601",
      "ksx1001", "x_mac_korean"]),
    (windows949, ["cp949", "949", "ms949", "uhc"]),
    (johab, ["johab", "cp1361", "ms1361"]),
    (shiftJis, ["shift_jis", "csshiftjis", "s_jis", "shiftjis", "sjis", "x_mac_japanese"]),
    (shiftJis2004, ["shift_jis_2004", "s_jis_2004", "shiftjis2004", "sjis_2004"]),
    (shiftJis2004, ["shift_jisx0213", "s_jisx0213", "shiftjisx0213", "sjisx0213"]),
    (windows932, ["cp932", "932", "ms932", "ms_kanji", "mskanji"]),
    (eucJp, ["euc_jp", "eucjp", "u_jis", "ujis"]),
    (eucJp, ["euc_jis_2004", "euc_jis2004", "eucjis2004", "jisx0213"]),
    (eucJp, ["euc_jisx0213", "eucjisx0213"]),
    (big5, ["big5", "big5_tw", "csbig5", "x_mac_trad_chinese"]),
    (big5, ["big5hkscs", "big5_hkscs", "hkscs"]),
    (windows950, ["cp950", "950", "ms950"])]

/-- The encoding of a name. -/
def ofName? (name : String) : Option PairCode :=
  (names.find? fun e => EncodingName.isAmong e.2 name).map Prod.fst

end PairCode

end Dicebox.Text
