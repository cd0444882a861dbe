import YamlStyle.Text.Encoding.Basic

/-!
# Encodings of all characters

The encodings of Unicode, and base 64, in the digits of which one of them writes its units.
-/

/-!
## UTF-8

A character takes one to four bytes. The second byte of a long sequence is bounded by the first,
so that no character has two spellings and none is a surrogate or beyond the last code point.
-/

namespace YamlStyle.Text.Utf8

/-- How many bytes follow a first byte, and the bounds of the second; none where no sequence
starts with the byte. -/
def tailOf (b : UInt8) : Option (Nat × UInt8 × UInt8) :=
  if b < 0xc2 then none
  else if b < 0xe0 then some (1, 0x80, 0xbf)
  else if b == 0xe0 then some (2, 0xa0, 0xbf)
  else if b == 0xed then some (2, 0x80, 0x9f)
  else if b < 0xf0 then some (2, 0x80, 0xbf)
  else if b == 0xf0 then some (3, 0x90, 0xbf)
  else if b < 0xf4 then some (3, 0x80, 0xbf)
  else if b == 0xf4 then some (3, 0x80, 0x8f)
  else none

/-- The payload of a first byte that `n` bytes follow. -/
def leadBits (b : UInt8) (n : Nat) : Nat := b.toNat % Nat.pow 2 (6 - n)

/-- Reads `n` continuation bytes onto `code`, the next one within bounds; `seen` bytes are read. -/
def continuation (code seen : Nat) : Nat → UInt8 → UInt8 → Bytes → Except Malformed (Text × Nat)
  | 0, _, _, _ => .ok ([Char.ofNat code], seen)
  | _ + 1, _, _, [] => .error ⟨"unexpected end of data", seen⟩
  | n + 1, low, high, b :: r =>
    if low ≤ b && b ≤ high then
      continuation (code * 64 + b.toNat % 64) (seen + 1) n 0x80 0xbf r
    else .error ⟨"invalid continuation byte", seen⟩

def decodeChar : Decoder
  | [] => .error ⟨"unexpected end of data", 0⟩
  | b :: r =>
    if b < 0x80 then .ok ([Char.ofNat b.toNat], 1)
    else
      match tailOf b with
      | none => .error ⟨"invalid start byte", 1⟩
      | some (n, low, high) => continuation (leadBits b n) 1 n low high r

def decode (bytes : Bytes) : Except Undecodable Text := decodeWith "utf-8" decodeChar 0 bytes

def encodeChar (c : Char) : Bytes :=
  let n := c.toNat
  let tail (k : Nat) : UInt8 := UInt8.ofNat (0x80 + n / Nat.pow 64 k % 64)
  if n < 0x80 then [UInt8.ofNat n]
  else if n < 0x800 then [UInt8.ofNat (0xc0 + n / 64), tail 0]
  else if n < 0x10000 then [UInt8.ofNat (0xe0 + n / 4096), tail 1, tail 0]
  else [UInt8.ofNat (0xf0 + n / 262144), tail 2, tail 1, tail 0]

def encode (t : Text) : Bytes := t.flatMap encodeChar

end YamlStyle.Text.Utf8

/-!
## UTF-16 and UTF-32

Units of two or four bytes in either order. A character beyond U+FFFF takes two units of UTF-16,
a high surrogate and a low one.
-/

namespace YamlStyle.Text

inductive ByteOrder where
  | little | big
  deriving DecidableEq, Repr

def ByteOrder.suffix : ByteOrder → String
  | .little => "le"
  | .big => "be"

namespace ByteOrder

/-- The number that bytes in this order write. -/
def read (order : ByteOrder) (bytes : Bytes) : Nat :=
  let ordered := match order with
    | .little => bytes.reverse
    | .big => bytes
  ordered.foldl (fun n b => n * 256 + b.toNat) 0

/-- The `count` bytes of a number in this order. -/
def write (order : ByteOrder) (count n : Nat) : Bytes :=
  let little := (List.range count).map fun k => UInt8.ofNat (n / Nat.pow 256 k % 256)
  match order with
  | .little => little
  | .big => little.reverse

end ByteOrder

/-- The character that a high and a low half make. -/
def joinHalves (high low : Nat) : Char :=
  Char.ofNat (0x10000 + (high - 0xd800) * 0x400 + (low - 0xdc00))

namespace Utf16

def decodeChar (order : ByteOrder) : Decoder
  | [] | [_] => .error ⟨"truncated data", 1⟩
  | b0 :: b1 :: r =>
    let unit := order.read [b0, b1]
    if unit < 0xd800 || 0xe000 ≤ unit then .ok ([Char.ofNat unit], 2)
    else if 0xdc00 ≤ unit then .error ⟨"illegal encoding", 2⟩
    else
      match r with
      | b2 :: b3 :: _ =>
        let low := order.read [b2, b3]
        if 0xdc00 ≤ low && low < 0xe000 then
          .ok ([joinHalves unit low], 4)
        else .error ⟨"illegal UTF-16 surrogate", 2⟩
      | _ => .error ⟨"unexpected end of data", 2 + r.length⟩

def decode (order : ByteOrder) (offset : Nat) (bytes : Bytes) : Except Undecodable Text :=
  decodeWith ("utf-16-" ++ order.suffix) (decodeChar order) offset bytes

def encodeChar (order : ByteOrder) (c : Char) : Bytes :=
  let n := c.toNat
  if n < 0x10000 then order.write 2 n
  else
    let m := n - 0x10000
    order.write 2 (0xd800 + m / 0x400) ++ order.write 2 (0xdc00 + m % 0x400)

def encode (order : ByteOrder) (t : Text) : Bytes := t.flatMap (encodeChar order)

end Utf16

namespace Utf32

def decodeChar (order : ByteOrder) : Decoder := fun bytes =>
  match bytes with
  | b0 :: b1 :: b2 :: b3 :: _ =>
    let n := order.read [b0, b1, b2, b3]
    if 0xd800 ≤ n && n < 0xe000 then
      .error ⟨"code point in surrogate code point range(0xd800, 0xe000)", 4⟩
    else if 0x110000 ≤ n then .error ⟨"code point not in range(0x110000)", 4⟩
    else .ok ([Char.ofNat n], 4)
  | _ => .error ⟨"truncated data", bytes.length⟩

def decode (order : ByteOrder) (offset : Nat) (bytes : Bytes) : Except Undecodable Text :=
  decodeWith ("utf-32-" ++ order.suffix) (decodeChar order) offset bytes

def encode (order : ByteOrder) (t : Text) : Bytes := t.flatMap fun c => order.write 4 c.toNat

end Utf32

end YamlStyle.Text

/-!
## Bytes in base 64

Four digits stand for three bytes. Characters that are no digits are passed over, and the data
end where a group has been filled up with `=`.
-/

namespace YamlStyle.Text.Base64

/-- The six bits that a digit stands for. -/
def digit? (c : Char) : Option Nat :=
  if 'A' ≤ c && c ≤ 'Z' then some (c.toNat - 65)
  else if 'a' ≤ c && c ≤ 'z' then some (c.toNat - 71)
  else if isDigit c then some (c.toNat + 4)
  else if c == '+' then some 62
  else if c == '/' then some 63
  else none

/-- The byte that a digit completes, given how many digits of the group come before it and the
last of them. -/
def completed? (held previous digit : Nat) : Option UInt8 :=
  match held with
  | 1 => some (.ofNat (previous % 64 * 4 + digit / 16))
  | 2 => some (.ofNat (previous % 16 * 16 + digit / 4))
  | 3 => some (.ofNat (previous % 4 * 64 + digit))
  | _ => none

/-- Reads digits. `held` of the current group and `count` whole groups come before, `fill` marks
stand after the last digit. -/
def decodeFrom (count held previous fill : Nat) : Text → Except String Bytes
  | [] =>
    if held == 0 then .ok []
    else if held == 1 then
      .error s!"Invalid base64-encoded string: number of data characters ({count * 4 + 1}) cannot be 1 more than a multiple of 4"
    else .error "Incorrect padding"
  | '=' :: r =>
    if 2 ≤ held && 4 ≤ held + fill + 1 then .ok []
    else decodeFrom count held previous (if 2 ≤ held then fill + 1 else fill) r
  | c :: r =>
    match digit? c with
    | none => decodeFrom count held previous fill r
    | some d =>
      let rest :=
        if held == 3 then decodeFrom (count + 1) 0 d 0 r else decodeFrom count (held + 1) d 0 r
      match completed? held previous d with
      | some b => rest.map (b :: ·)
      | none => rest

/-- The bytes that a text in base 64 stands for, or what is wrong with it. -/
def decode (t : Text) : Except String Bytes := decodeFrom 0 0 0 0 t

end YamlStyle.Text.Base64

/-!
## UTF-7

ASCII characters, and between a plus and a minus sign the units of UTF-16 in digits of base 64.
Any other character that is no digit ends such a section too and stays.
-/

namespace YamlStyle.Text.Utf7

def plus : UInt8 := 0x2b
def minus : UInt8 := 0x2d

/-- A section of digits that is open: where its plus sign stands, the bits not used yet and their
number, and a high half that waits for its low one. -/
structure Section where
  start : Nat
  bits : Nat
  count : Nat
  high : Option Nat

namespace Section

/-- The characters of a unit and the half that waits after it. -/
def accept (high : Option Nat) (unit : Nat) : Text × Option Nat :=
  match high with
  | some h =>
    if 0xdc00 ≤ unit && unit < 0xe000 then ([joinHalves h unit], none)
    else if 0xd800 ≤ unit && unit < 0xdc00 then ([ofCode h], some unit)
    else ([ofCode h, ofCode unit], none)
  | none => if 0xd800 ≤ unit && unit < 0xdc00 then ([], some unit) else ([ofCode unit], none)

/-- The section after one more digit, and the characters that the digit completes. -/
def add (s : Section) (digit : Nat) : Text × Section :=
  let bits := s.bits * 64 + digit
  let count := s.count + 6
  if count < 16 then ([], { s with bits, count })
  else
    let left := count - 16
    let (t, high) := accept s.high (bits / Nat.pow 2 left)
    (t, { s with bits := bits % Nat.pow 2 left, count := left, high })

/-- What is wrong with the bits that are left at the end of a section. -/
def leftover? (s : Section) : Option String :=
  if 6 ≤ s.count then some "partial character in shift sequence"
  else if s.bits != 0 then some "non-zero padding bits in shift sequence"
  else none

/-- The half that waits when a section ends before an ASCII character. -/
def waiting (s : Section) (b : UInt8) : Text :=
  if b < 0x80 && b != plus then (s.high.map ofCode).toList else []

end Section

/-- Where in the text the next byte stands: outside of all sections, just after a plus sign, or in a
section. -/
inductive Place where
  | outside
  | afterPlus (start : Nat)
  | inside (s : Section)

/-- What is wrong with the bytes from `start` up to `stop`, the first one being given. -/
def fault (start stop : Nat) (first : UInt8) (reason : String) : Undecodable :=
  ⟨"utf7", start, stop - start, first, reason⟩

/-- Reads a byte outside of all sections. -/
def stepOutside (offset : Nat) (b : UInt8) : Except Undecodable (Text × Place) :=
  if b == plus then .ok ([], .afterPlus offset)
  else if b < 0x80 then .ok ([Char.ofNat b.toNat], .outside)
  else .error (fault offset (offset + 1) b "unexpected special character")

/-- Reads a byte: the characters it completes, and where the next one stands. -/
def step (place : Place) (offset : Nat) (b : UInt8) : Except Undecodable (Text × Place) :=
  match place, Base64.digit? (Char.ofNat b.toNat) with
  | .outside, _ => stepOutside offset b
  | .afterPlus start, some d => .ok ([], .inside ⟨start, d, 6, none⟩)
  | .afterPlus start, none =>
    if b == minus then .ok (['+'], .outside)
    else .error (fault start (offset + 1) plus "ill-formed sequence")
  | .inside s, some d =>
    let (t, s) := s.add d
    .ok (t, .inside s)
  | .inside s, none =>
    match s.leftover? with
    | some reason => .error (fault s.start (offset + 1) plus reason)
    | none =>
      if b == minus then .ok (s.waiting b, .outside)
      else (stepOutside offset b).map fun (t, place) => (s.waiting b ++ t, place)

/-- Reads the bytes that stand at `offset` in the whole. -/
def decodeFrom (place : Place) (offset : Nat) : Bytes → Except Undecodable Text
  | [] =>
    match place with
    | .inside s =>
      if s.high.isSome || s.leftover?.isSome then
        .error (fault s.start offset plus "unterminated shift sequence")
      else .ok []
    | _ => .ok []
  | b :: r => do
    let (t, place) ← step place offset b
    return t ++ (← decodeFrom place (offset + 1) r)

def decode (bytes : Bytes) : Except Undecodable Text := decodeFrom .outside 0 bytes

end YamlStyle.Text.Utf7
