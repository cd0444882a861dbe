/-!
# Text

A text is the list of its characters, and an offset counts characters from its start. A mark
is a place in a text: a line, a column and an offset, all counted from zero.

A text may hold half of a pair of UTF-16 units, which is no character by itself. The characters
from U+FD800 to U+FDFFF, which have no meaning of their own, stand for the halves and for nothing
else: where one of them is in a text it is taken for the half (`Text.isHalf`), has its code
(`Text.codeOf`), is refused where the half is, and is ordered as the half is.
-/

namespace YamlStyle

abbrev Text := List Char

namespace Text

/-- The character of a code. For the code of half of a pair of UTF-16 units it is the one of the
private plane that stands for the half, so U+D800 and U+FD800 have the same character. -/
def ofCode (n : Nat) : Char :=
  if 0xd800 ≤ n && n < 0xe000 then Char.ofNat (0xf0000 + n) else Char.ofNat n

/-- Whether a character stands for half of a pair of UTF-16 units. One from U+FD800 to U+FDFFF
never stands for itself. -/
def isHalf (c : Char) : Bool := 0xfd800 ≤ c.toNat && c.toNat < 0xfe000

/-- Whether a character stands for a low half that takes the place of a byte of no character. -/
def isByteHalf (c : Char) : Bool := 0xfdc80 ≤ c.toNat && c.toNat ≤ 0xfdcff

/-- The code of a character; that of the half, if it stands for one. -/
def codeOf (c : Char) : Nat := if isHalf c then c.toNat - 0xf0000 else c.toNat

/-- The characters from offset `a` up to, and not with, offset `b`. -/
def slice (t : Text) (a b : Nat) : Text := (t.drop a).take (b - a)

/-- The first offset at or after `start` that holds `c`. -/
def find? (t : Text) (c : Char) (start : Nat) : Option Nat :=
  ((t.drop start).findIdx? (· == c)).map (start + ·)

/-- The character just before an offset. -/
def before? (t : Text) (offset : Nat) : Option Char := if offset = 0 then none else t[offset - 1]?

/-- The pieces between the separators; one more than there are separators. -/
def splitOn (sep : Char) : Text → List Text
  | [] => [[]]
  | c :: r =>
    if c = sep then [] :: splitOn sep r
    else
      match splitOn sep r with
      | [] => [[c]]
      | piece :: pieces => (c :: piece) :: pieces

/-- Drops the trailing characters that satisfy `p`. -/
def trimEnd (p : Char → Bool) (t : Text) : Text := (t.reverse.dropWhile p).reverse

/-- Drops the leading and trailing characters that satisfy `p`. -/
def trim (p : Char → Bool) (t : Text) : Text := trimEnd p (t.dropWhile p)

/-- The maximal runs of characters that do not satisfy `p`. -/
def words (p : Char → Bool) (t : Text) : List Text :=
  go t []
where
  go : Text → Text → List Text
    | [], word => if word.isEmpty then [] else [word.reverse]
    | c :: r, word =>
      if p c then
        if word.isEmpty then go r [] else word.reverse :: go r []
      else go r (c :: word)

end Text

structure Mark where
  line : Nat
  column : Nat
  offset : Nat
  deriving DecidableEq, Repr, Inhabited

/-- The offsets at which the lines of a text start; a line ends after each line feed. -/
structure LineIndex where
  starts : List Nat
  deriving Repr

namespace LineIndex

/-- Offsets just after each line feed of a text that begins at `offset`. -/
def startsAfter (offset : Nat) : Text → List Nat
  | [] => []
  | c :: r =>
    if c = '\n' then (offset + 1) :: startsAfter (offset + 1) r else startsAfter (offset + 1) r

def ofText (t : Text) : LineIndex := ⟨0 :: startsAfter 0 t⟩

/-- The mark of an offset; offsets beyond the end count on from the last line. -/
def mark (ix : LineIndex) (offset : Nat) : Mark :=
  let passed := ix.starts.takeWhile (· ≤ offset)
  ⟨passed.length - 1, offset - passed.getLastD 0, offset⟩

def column (ix : LineIndex) (offset : Nat) : Nat := (ix.mark offset).column

end LineIndex

/-- A physical line: its number from one, where it starts, and where its content stops. -/
structure Line where
  number : Nat
  start : Nat
  stop : Nat
  deriving DecidableEq, Repr

namespace Line

/-- The rest of the lines of a text, the current one having begun at `start`. -/
def collect (number start offset : Nat) (afterReturn : Bool) : Text → List Line
  | [] => [⟨number, start, offset⟩]
  | c :: r =>
    if c = '\n' then
      ⟨number, start, if afterReturn then offset - 1 else offset⟩ ::
        collect (number + 1) (offset + 1) (offset + 1) false r
    else collect number start (offset + 1) (c == '\r') r

/-- The lines of a text. What follows the last line feed is always a line. -/
def ofText (t : Text) : List Line := collect 1 0 0 false t

def content (t : Text) (l : Line) : Text := t.slice l.start l.stop

end Line

/-! ## Lines of lists

The lines of a file that lists names: they end at any character that ends a line in some script
or system, and a return and a line feed together end one line.
-/

namespace Text

/-- Whether a character ends a line. -/
def endsAnyLine (c : Char) : Bool :=
  let n := c.toNat
  (0x0a ≤ n && n ≤ 0x0d) || (0x1c ≤ n && n ≤ 0x1e) || n == 0x85 || n == 0x2028 || n == 0x2029

/-- The lines of a text without their ends; `line` has the current one, last character first. -/
def linesFrom (line : Text) : Text → List Text
  | [] => if line.isEmpty then [] else [line.reverse]
  | '\r' :: '\n' :: r => line.reverse :: linesFrom [] r
  | c :: r => if endsAnyLine c then line.reverse :: linesFrom [] r else linesFrom (c :: line) r

/-- The lines of a text. Nothing after the last end is no line. -/
def lines (t : Text) : List Text := linesFrom [] t

end Text

end YamlStyle
