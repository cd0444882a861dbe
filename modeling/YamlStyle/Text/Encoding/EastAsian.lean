import YamlStyle.Text.Encoding.Grid
import YamlStyle.Text.Encoding.Grid.Big5
import YamlStyle.Text.Encoding.Grid.Gb
import YamlStyle.Text.Encoding.Grid.Jis
import YamlStyle.Text.Encoding.Grid.Ksx1001
import YamlStyle.Text.Hangul

/-!
# East Asian encodings

Encodings of one or more bytes to a character, by the grids of China, Japan and Korea.
-/

/-!
## Chinese encodings

GB 2312 and its extensions for simplified characters, Big5 and its extensions for traditional ones.
-/

namespace YamlStyle.Text.Chinese

def gbkAt? (row column : Nat) : Option Text :=
  Grid.gbk.at? row column <|> Grid.gb2312.at? row column

/-- The character of a private plane that a row and a column of GB 18030 are left to. -/
def userAt? (row column : Nat) : Option Text :=
  let high := 0xa1 ≤ column && column ≤ 0xfe
  let low := 0x40 ≤ column && column ≤ 0xa0 && column != 0x7f
  let code :=
    if high && 0xaa ≤ row && row ≤ 0xaf then some (0xe000 + (row - 0xaa) * 94 + (column - 0xa1))
    else if high && 0xf8 ≤ row && row ≤ 0xfe then
      some (0xe234 + (row - 0xf8) * 94 + (column - 0xa1))
    else if low && 0xa1 ≤ row && row ≤ 0xa7 then
      some (0xe4c6 + (row - 0xa1) * 96 + (column - (if column < 0x7f then 0x40 else 0x41)))
    else none
  code.map fun code => [Char.ofNat code]

/-- The character of a number among those of four bytes below U+10000: the runs say from which
number on which characters follow one another. -/
def linearChar? (n : Nat) : Option Char :=
  ((Grid.linearRuns.takeWhile fun run => run.1 ≤ n).getLast?).map fun (start, code) =>
    Char.ofNat (code + (n - start))

def decodeFour (b c d e : Nat) : Except Malformed (Text × Nat) :=
  let isPart (x low high : Nat) : Bool := low ≤ x && x ≤ high
  if isPart b 0x81 0xfe && isPart d 0x81 0xfe && isPart e 0x30 0x39 then
    let lead := b - 0x81
    let rest := (d - 0x81) * 10 + (e - 0x30)
    let n := (lead * 10 + (c - 0x30)) * 1260 + rest
    let beyond := 0x10000 + ((lead - 15) * 10 + (c - 0x30)) * 1260 + rest
    if n < Grid.linearEnd then foundChar (linearChar? n) 4
    else if 15 ≤ lead && beyond < 0x110000 then .ok ([Char.ofNat beyond], 4)
    else .error (.illegal 1)
  else .error (.illegal 1)

def decodeGb18030 (bytes : Bytes) : Except Malformed (Text × Nat) :=
  let pair := decodePair fun row column =>
    gbkAt? row column <|> Grid.gb18030.at? row column <|> userAt? row column
  match bytes with
  | b :: c :: r =>
    if 0x80 ≤ b && 0x30 ≤ c && c ≤ 0x39 then
      match r with
      | d :: e :: _ => decodeFour b.toNat c.toNat d.toNat e.toNat
      | _ => .error (.incomplete bytes)
    else pair bytes
  | _ => pair bytes

def windowsBig5At? (row column : Nat) : Option Text :=
  Grid.big5Windows.at? row column <|> Grid.big5.at? row column

/-- What stands at a place in Hong Kong, which has redone some rows of Big5. -/
def hongKongAt? (row column : Nat) : Option Text :=
  let isRedone := row == 0xc7 || row == 0xc8 || (row == 0xc6 && 0xa1 ≤ column)
  Grid.hongKong.at? row column <|> Grid.hongKongPairs.lookup (row, column) <|>
    if isRedone then none else Grid.big5.at? row column

def all : List Encoding := [
  .ofDecoder ["gb2312", "chinese", "csiso58gb231280", "euc_cn", "euccn", "eucgb2312_cn",
    "gb2312_1980", "gb2312_80", "iso_ir_58", "x_mac_simp_chinese"] fun _ =>
      decodePair Grid.gb2312.at?,
  .ofDecoder ["gbk", "936", "cp936", "ms936"] fun _ => decodePair gbkAt?,
  .ofDecoder ["gb18030", "gb18030_2000"] fun _ => decodeGb18030,
  .ofDecoder ["big5", "big5_tw", "csbig5", "x_mac_trad_chinese"] fun _ => decodePair Grid.big5.at?,
  .ofDecoder ["cp950", "950", "ms950"] fun _ => decodePair windowsBig5At?,
  .ofDecoder ["big5hkscs", "big5_hkscs", "hkscs"] fun _ => decodePair hongKongAt?]

end YamlStyle.Text.Chinese

/-!
## Japanese encodings

The grids of Japan under EUC, with the highest bit in every byte, and under Shift JIS, with two rows
in one.
-/

namespace YamlStyle.Text.Japanese

/-- The katakana of half width that a byte stands for. -/
def kana? (b : UInt8) : Option Char :=
  if 0xa1 ≤ b && b ≤ 0xdf then some (Char.ofNat (0xfec0 + b.toNat)) else none

/-- EUC: a character of ASCII, a place in a first grid, a katakana after the byte 0x8e, or a place in
a second grid after the byte 0x8f. -/
def decodeEuc (first? second? : Nat → Nat → Option Text) (bytes : Bytes) :
    Except Malformed (Text × Nat) :=
  match bytes with
  | 0x8e :: r =>
    match r with
    | [] => .error (.incomplete bytes)
    | c :: _ => foundChar (kana? c) 2
  | 0x8f :: r =>
    match r with
    | c :: d :: _ => found (second? c.toNat d.toNat) 3
    | _ => .error (.incomplete bytes)
  | _ => decodePair first? bytes

/-! ### JIS X 0213 -/

/-- The places of the first plane that its first edition leaves free. -/
def laterPlaces : List (Nat × Nat) := [
  (0xae, 0xa1), (0xaf, 0xfe), (0xcf, 0xd4), (0xcf, 0xfe), (0xf4, 0xa7), (0xfe, 0xfa), (0xfe, 0xfb),
  (0xfe, 0xfc), (0xfe, 0xfd), (0xfe, 0xfe)]

/-- The editions of JIS X 0213. -/
inductive Edition where
  | first | second
  deriving DecidableEq, Repr

/-- Whether a place of the first plane is left free in an edition. -/
def Edition.isFree (e : Edition) (row column : Nat) : Bool :=
  e == .first && laterPlaces.contains (row, column)

def firstPlaneAt? (row column : Nat) : Option Text :=
  Grid.jisx0208.at? row column <|> Grid.jisx0213First.at? row column <|>
    Grid.jisx0213Pairs.lookup (row, column)

/-- What stands at a place of the second plane, of which one has another character in the first
edition. -/
def secondPlaneAt? (e : Edition) (row column : Nat) : Option Text :=
  if e == .first && (row, column) == (0xfd, 0xbb) then some ['鬝']
  else Grid.jisx0213Second.at? row column

/-- EUC with both planes; JIS X 0212 fills up the second one. -/
def decodeWideEuc (e : Edition) (bytes : Bytes) : Except Malformed (Text × Nat) :=
  let second? (row column : Nat) : Option Text :=
    secondPlaneAt? e row column <|> Grid.jisx0212.at? row column
  match bytes with
  | b :: c :: _ =>
    if e.isFree b.toNat c.toNat then .error (.illegal 2) else decodeEuc firstPlaneAt? second? bytes
  | _ => decodeEuc firstPlaneAt? second? bytes

/-! ### Shift JIS -/

/-- The place in a grid of 94 columns that two bytes of a grid of 188 stand for; a row there is
two rows here. -/
def unshift? (b c : Nat) : Option (Nat × Nat) :=
  if c < 0x40 || c == 0x7f || 0xfc < c then none
  else
    let row := 2 * (b - (if b < 0xe0 then 0x81 else 0xc1))
    let column := c - (if c < 0x80 then 0x40 else 0x41)
    some (if column < 94 then (row + 0xa1, column + 0xa1) else (row + 0xa2, column - 94 + 0xa1))

def shiftedAt? (b c : Nat) : Option Text := (unshift? b c).bind fun (row, column) =>
  Grid.jisx0208.at? row column

def decodeShiftJis (bytes : Bytes) : Except Malformed (Text × Nat) :=
  match bytes with
  | [] => .ok ([], 0)
  | b :: _ =>
    match kana? b with
    | some c => .ok ([c], 1)
    | none =>
      if b == 0x80 || b == 0xa0 || 0xea < b then .error (.illegal 1)
      else decodePair shiftedAt? bytes

/-- What two bytes stand for in the page of Windows. -/
def windowsAt? (b c : Nat) : Option Text :=
  match Grid.japaneseWindows.at? b c with
  | some k => some k
  | none =>
    if (0x81 ≤ b && b ≤ 0x9f) || (0xe0 ≤ b && b ≤ 0xea) then shiftedAt? b c
    else if 0xf0 ≤ b && b ≤ 0xf9 && 0x40 ≤ c && c ≤ 0xfc && c != 0x7f then
      some [Char.ofNat (0xe000 + 188 * (b - 0xf0) + (c - (if c < 0x80 then 0x40 else 0x41)))]
    else none

def decodeWindows (bytes : Bytes) : Except Malformed (Text × Nat) :=
  match bytes with
  | [] => .ok ([], 0)
  | b :: _ =>
    match kana? b with
    | some c => .ok ([c], 1)
    | none =>
      if b == 0x80 then .ok (['\x80'], 1)
      else if b == 0xa0 then .ok (['\uf8f0'], 1)
      else if 0xfd ≤ b then .ok ([Char.ofNat (0xf8f1 + (b.toNat - 0xfd))], 1)
      else decodePair windowsAt? bytes

/-- The character of a byte below 0x80 where the yen sign and the overline have taken two places. -/
def romanOf (b : Nat) : Char := if b == 0x5c then '¥' else if b == 0x7e then '‾' else Char.ofNat b

/-- The rows of the second plane in the order in which they follow those of the first. -/
def secondPlaneRows : List Nat :=
  [0xa1, 0xa8, 0xa3, 0xa4, 0xa5, 0xac, 0xad, 0xae, 0xaf] ++ (List.range 17).map (· + 0xee)

/-- The places of the first plane for the two characters of ASCII that have lost their own. -/
def displaced : List ((Nat × Nat) × Text) := [((0xa1, 0xc0), ['\\']), ((0xa2, 0xb2), ['~'])]

/-- What two bytes stand for with both planes. -/
def wideAt? (e : Edition) (b c : Nat) : Option Text := (unshift? b c).bind fun (row, column) =>
  if row < 0xff then displaced.lookup (row, column) <|> firstPlaneAt? row column
  else secondPlaneRows[row - 0xff]?.bind fun row => secondPlaneAt? e row column

/-- Shift JIS with both planes. -/
def decodeWideShiftJis (e : Edition) (bytes : Bytes) : Except Malformed (Text × Nat) :=
  match bytes with
  | [] => .ok ([], 0)
  | b :: r =>
    match kana? b with
    | some k => .ok ([k], 1)
    | none =>
      if b < 0x80 then .ok ([romanOf b.toNat], 1)
      else if b == 0x80 || b == 0xa0 || 0xfc < b then .error (.illegal 1)
      else
        match r with
        | [] => .error (.incomplete bytes)
        | c :: _ =>
          let isFree := (unshift? b.toNat c.toNat).any fun (row, column) => e.isFree row column
          if isFree then .error (.illegal 2) else found (wideAt? e b.toNat c.toNat) 2

def all : List Encoding := [
  .ofDecoder ["euc_jp", "eucjp", "u_jis", "ujis"] fun _ =>
    decodeEuc Grid.jisx0208.at? Grid.jisx0212.at?,
  .ofDecoder ["euc_jis_2004", "euc_jis2004", "eucjis2004", "jisx0213"] fun _ =>
    decodeWideEuc .second,
  .ofDecoder ["euc_jisx0213", "eucjisx0213"] fun _ => decodeWideEuc .first,
  .ofDecoder ["shift_jis", "csshiftjis", "s_jis", "shiftjis", "sjis", "x_mac_japanese"] fun _ =>
    decodeShiftJis,
  .ofDecoder ["cp932", "932", "ms932", "ms_kanji", "mskanji"] fun _ => decodeWindows,
  .ofDecoder ["shift_jis_2004", "s_jis_2004", "shiftjis2004", "sjis_2004"] fun _ =>
    decodeWideShiftJis .second,
  .ofDecoder ["shift_jisx0213", "s_jisx0213", "shiftjisx0213", "sjisx0213"] fun _ =>
    decodeWideShiftJis .first]

end YamlStyle.Text.Japanese

/-!
## Korean encodings

The grid of Korea under EUC, what Windows adds to it, and Johab, which spells syllables.
-/

namespace YamlStyle.Text.Korean

/-- The letter of the row of letters that a byte stands for. -/
def letter? (b : UInt8) : Option Char := Grid.ksx1001.char? 0xa4 b.toNat

/-- A syllable spelled by a mark and three letters, two bytes each; the mark in the third place
stands for no last letter. -/
def decodeSpelled (bytes : Bytes) : Except Malformed (Text × Nat) :=
  match bytes with
  | _ :: _ :: m1 :: lead :: m2 :: vowel :: m3 :: tail :: _ =>
    if m1 == 0xa4 && m2 == 0xa4 && m3 == 0xa4 then
      let last := if tail == 0xd4 then some none else (letter? tail).map some
      foundChar (do Hangul.spelled? (← letter? lead) (← letter? vowel) (← last)) 8
    else .error (.illegal 1)
  | _ => .error (.incomplete bytes)

def decodeEucKr (bytes : Bytes) : Except Malformed (Text × Nat) :=
  match bytes with
  | 0xa4 :: 0xd4 :: _ => decodeSpelled bytes
  | _ => decodePair Grid.ksx1001.at? bytes

/-- The place of two bytes among those that Windows fills up with syllables. -/
def freePlace? (b c : Nat) : Option Nat :=
  let column :=
    if 0x41 ≤ c && c ≤ 0x5a then some (c - 0x41)
    else if 0x61 ≤ c && c ≤ 0x7a then some (c - 0x61 + 26)
    else if 0x81 ≤ c && c ≤ 0xfe then some (c - 0x81 + 52)
    else none
  column.bind fun column =>
    if 0x81 ≤ b && b ≤ 0xa0 then some ((b - 0x81) * 178 + column)
    else if 0xa1 ≤ b && b ≤ 0xc6 && column < 84 then some (32 * 178 + (b - 0xa1) * 84 + column)
    else none

/-- The syllables that have no place in the grid, in order. -/
def freeSyllables : Array Char :=
  let rows := Grid.ksx1001.rows.filter fun row => 0xb0 ≤ row.1 && row.1 ≤ 0xc8
  let placed := rows.flatMap fun row => row.2.flatMap String.toList
  (Hangul.without placed Hangul.syllables).toArray

def windowsAt? (free : Array Char) (b c : Nat) : Option Text :=
  Grid.ksx1001.at? b c <|> ((freePlace? b c).bind (free[·]?)).map fun k => [k]

/-! ### Johab -/

/-- What a number stands for in the spelling of a syllable: a letter, by its place, or no letter. -/
abbrev Spelled := Option (Option Nat)

def spelledLead (n : Nat) : Spelled :=
  if n == 1 then some none else if 2 ≤ n && n ≤ 20 then some (some (n - 2)) else none

/-- Vowels come in groups of six, with two numbers free before each. -/
def spelledVowel (n : Nat) : Spelled :=
  if n == 2 then some none
  else if 2 < n && n < 30 && 2 ≤ n % 8 then some (some (n / 8 * 6 + n % 8 - 3))
  else none

def spelledTail (n : Nat) : Spelled :=
  if n == 1 then some none
  else if 2 ≤ n && n ≤ 17 then some (some (n - 2))
  else if 19 ≤ n && n ≤ 29 then some (some (n - 3))
  else none

/-- The syllable or the single letter that two bytes spell, in five bits each. -/
def johabSyllable? (b c : Nat) : Option Char := do
  let lead ← spelledLead (b / 4 % 32)
  let vowel ← spelledVowel (b % 4 * 8 + c / 32)
  let tail ← spelledTail (c % 32)
  match lead, vowel, tail with
  | none, none, none => some '\u3000'
  | none, none, some t => Hangul.tails[t]?
  | none, some v, none => Hangul.vowels[v]?
  | some l, none, none => Hangul.leads[l]?
  | some l, some v, none => some (Hangul.syllable l v 0)
  | some l, some v, some t => some (Hangul.syllable l v (t + 1))
  | _, _, _ => none

/-- What is no syllable stands in the grid, two rows of which are one row here. -/
def johabAt? (b c : Nat) : Option Text :=
  if b < 0xd8 then (johabSyllable? b c).map fun k => [k]
  else
    let isLetter := b == 0xda && 0xa1 ≤ c && c ≤ 0xd3
    let isColumn := (0x31 ≤ c && c ≤ 0x7e) || (0x91 ≤ c && c ≤ 0xfe)
    if b == 0xd8 || b == 0xdf || 0xf9 < b || isLetter || !isColumn then none
    else
      let row := if b < 0xe0 then 2 * (b - 0xd9) + 0xa1 else 2 * b - 0x197 + 0xa1
      let column := if c < 0x91 then c - 0x31 else c - 0x43
      if column < 94 then Grid.ksx1001.at? row (column + 0xa1)
      else Grid.ksx1001.at? (row + 1) (column - 94 + 0xa1)

def all : List Encoding := [
  .ofDecoder ["euc_kr", "euckr", "korean", "ks_c_5601", "ks_c_5601_1987", "ks_x_1001", "ksc5601",
    "ksx1001", "x_mac_korean"] fun _ => decodeEucKr,
  .ofDecoder ["cp949", "949", "ms949", "uhc"] fun _ => decodePair (windowsAt? freeSyllables),
  .ofDecoder ["johab", "cp1361", "ms1361"] fun _ => decodePair johabAt?]


end YamlStyle.Text.Korean
