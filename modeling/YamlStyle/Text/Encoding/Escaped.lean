import YamlStyle.Text.CharacterName
import YamlStyle.Text.Encoding.Basic

/-!
# Characters spelled in ASCII

Encodings that write a character by its name or number.
-/

/-!
## Escaped text

Bytes that are the characters of Latin-1, with backslashes before what else is meant: a full
form with names and shorthands for many characters, and a raw one that knows code points only.
-/

namespace YamlStyle.Text.Escaped

def charOf (b : UInt8) : Char := Char.ofNat b.toNat

/-- The characters of ASCII that a backslash and a letter stand for. -/
def shorthand? (c : Char) : Option Text :=
  [('\n', []), ('\\', ['\\']), ('\'', ['\'']), ('"', ['"']), ('b', ['\x08']), ('f', ['\x0c']),
    ('t', ['\t']), ('n', ['\n']), ('r', ['\r']), ('v', ['\x0b']), ('a', ['\x07'])].lookup c

/-- Reads `width` hexadecimal digits, which follow an escape's two characters. -/
def hexEscape (width : Nat) (short large : String) (rest : Bytes) : Except Malformed (Text × Nat) :=
  let digits := ((rest.take width).map charOf).takeWhile isHexDigit
  if digits.length < width then .error ⟨short, 2 + digits.length⟩
  else
    let n := numberIn 16 digits
    if 0x110000 ≤ n then .error ⟨large, 2 + width⟩ else .ok ([ofCode n], 2 + width)

/-- Reads a name in braces, which follows an escape's two characters. -/
def nameEscape (rest : Bytes) : Except Malformed (Text × Nat) :=
  let malformed := "malformed \\N character escape"
  match rest with
  | 0x7b :: r =>
    let name := r.takeWhile (· != 0x7d)
    if name.length == r.length then .error ⟨malformed, 3 + name.length⟩
    else if name.isEmpty then .error ⟨malformed, 3⟩
    else
      match named? (name.map charOf) with
      | some c => .ok ([c], 4 + name.length)
      | none => .error ⟨"unknown Unicode character name", 4 + name.length⟩
  | _ => .error ⟨malformed, 2⟩

def decodeChar (bytes : Bytes) : Except Malformed (Text × Nat) :=
  match bytes with
  | [0x5c] => .error ⟨"\\ at end of string", 1⟩
  | 0x5c :: b :: r =>
    let c := charOf b
    match shorthand? c with
    | some t => .ok (t, 2)
    | none =>
      if isOctalDigit c then
        let digits := (c :: (r.take 2).map charOf).takeWhile isOctalDigit
        .ok ([ofCode (numberIn 8 digits)], 1 + digits.length)
      else if c == 'x' then hexEscape 2 "truncated \\xXX escape" "" r
      else if c == 'u' then hexEscape 4 "truncated \\uXXXX escape" "" r
      else if c == 'U' then
        hexEscape 8 "truncated \\UXXXXXXXX escape" "illegal Unicode character" r
      else if c == 'N' then nameEscape r
      else .ok (['\\', c], 2)
  | b :: _ => .ok ([charOf b], 1)
  | [] => .ok ([], 1)

/-- Reads a character of the raw form. -/
def decodeRaw (bytes : Bytes) : Except Malformed (Text × Nat) :=
  match bytes with
  | 0x5c :: b :: r =>
    if b == 0x75 then hexEscape 4 "truncated \\uXXXX escape" "" r
    else if b == 0x55 then
      hexEscape 8 "truncated \\UXXXXXXXX escape" "\\Uxxxxxxxx out of range" r
    else .ok (['\\', charOf b], 2)
  | b :: _ => .ok ([charOf b], 1)
  | [] => .ok ([], 1)

def decode (bytes : Bytes) : Except Undecodable Text :=
  decodeWith "unicodeescape" decodeChar 0 bytes

def decodeAllRaw (bytes : Bytes) : Except Undecodable Text :=
  decodeWith "rawunicodeescape" decodeRaw 0 bytes

end YamlStyle.Text.Escaped

/-!
## Punycode and domain names

The ASCII characters of a text come first, and after the last hyphen the others, each as the
number of steps to its code point and place from the one before. Digits come least one first, and
a threshold that goes by the place tells the last digit of a number. In the name of a domain each label is written so, after a mark, if it
is not all ASCII.
-/

namespace YamlStyle.Text.Punycode

def base : Nat := 36

/-- The bias of the first number. -/
def firstBias : Nat := 72

/-- The threshold of the digit at a place. -/
def threshold (place bias : Nat) : Nat := max 1 (min 26 (base * (place + 1) - bias))

/-- The bias after a number, for a text of `length` characters. -/
def adapt (delta length : Nat) (isFirst : Bool) : Nat :=
  let delta := if isFirst then delta / 700 else delta / 2
  reduce 0 (delta + delta / length)
where
  /-- Divides until what is left is small; each division adds to the bias. -/
  reduce (divisions delta : Nat) : Nat :=
    if 455 < delta then reduce (divisions + base) (delta / 35)
    else divisions + base * delta / (delta + 38)
  termination_by delta
  decreasing_by omega

/-- The value of a digit: letters come before figures. -/
def digit? (b : UInt8) : Option Nat :=
  let c := Char.ofNat b.toNat
  if 'A' ≤ c && c ≤ 'Z' then some (c.toNat - 65)
  else if 'a' ≤ c && c ≤ 'z' then some (c.toNat - 97)
  else if isDigit c then some (c.toNat - 22)
  else none

/-- Reads a number, `value` being what its digits so far make and `weight` what the next one counts
for. -/
def number (bias : Nat) : Nat → Nat → Nat → Bytes → Except DecodeFault (Nat × Bytes)
  | _, _, _, [] => .error (.senseless "incomplete punicode string")
  | place, weight, value, b :: r =>
    match digit? b with
    | none => .error (.senseless s!"Invalid extended code point '{Char.ofNat b.toNat}'")
    | some d =>
      let value := value + d * weight
      let t := threshold place bias
      if d < t then .ok (value, r) else number bias (place + 1) (weight * (base - t)) value r

/-- Puts in the characters that numbers stand for. `code` is the last code point, `next` the place
after the last one put in. Each number takes a byte at least, so their count is fuel enough. -/
def insertAll (fuel code next bias : Nat) (isFirst : Bool) (t : Text) (bytes : Bytes) :
    Except DecodeFault Text :=
  match fuel, bytes with
  | 0, _ | _, [] => .ok t
  | fuel + 1, bytes => do
    let (delta, rest) ← number bias 0 1 0 bytes
    let count := t.length + 1
    let steps := next + delta
    let code := code + steps / count
    if 0x110000 ≤ code then
      .error (.senseless ("Invalid character U+" ++ hexDigits 1 code))
    else
      let place := steps % count
      let t := t.take place ++ ofCode code :: t.drop place
      insertAll fuel code (place + 1) (adapt delta t.length isFirst) false t rest

/-- The first byte that is not ASCII. -/
def checkAscii (bytes : Bytes) : Except DecodeFault Text :=
  match bytes.findIdx? (0x80 ≤ ·) with
  | some i =>
    .error (.undecodable ⟨"ascii", i, 1, bytes.getD i 0, "ordinal not in range(128)"⟩)
  | none => .ok (bytes.map fun b => Char.ofNat b.toNat)

def hyphen : UInt8 := 0x2d

def decode (bytes : Bytes) : Except DecodeFault Text := do
  let tail := (bytes.reverse.takeWhile (· != hyphen)).reverse
  let head := bytes.take (bytes.length - tail.length - 1)
  let start ← checkAscii head
  let _ ← checkAscii tail
  insertAll tail.length 0x80 0 firstBias true start tail

/-! ### Domain names -/

/-- What a label that is not all ASCII starts with. -/
def labelMark : Bytes := [0x78, 0x6e, 0x2d, 0x2d]

def decodeLabel (label : Bytes) : Except DecodeFault Text :=
  if labelMark.isPrefixOf label then
    (decode (label.drop labelMark.length)).mapError fun f =>
      match f with
      | .senseless reason =>
        .senseless s!"decoding with 'punycode' codec failed (UnicodeError: {reason})"
      | f => f
  else checkAscii label

/-- The labels between full stops. -/
def labels (bytes : Bytes) : List Bytes :=
  match bytes with
  | [] => [[]]
  | b :: r =>
    match labels r with
    | [] => [[b]]
    | first :: rest => if b == 0x2e then [] :: first :: rest else (b :: first) :: rest

def decodeDomain (bytes : Bytes) : Except DecodeFault Text := do
  return ((← (labels bytes).mapM decodeLabel).intersperse ['.']).flatten

end YamlStyle.Text.Punycode
