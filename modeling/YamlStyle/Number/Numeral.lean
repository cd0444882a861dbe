import YamlStyle.Text.Class
import YamlStyle.Text.Quoted

/-!
# Numerals

Whole numbers as they are written: a sign, and digits of any script in a base up to sixteen, with
single low lines between them and blanks around. There is a limit to the decimal digits that are
read or written, and none to other digits.
-/

namespace YamlStyle.Numeral

/-- Why a text is no numeral. -/
inductive Fault where
  | malformed (base : Nat) (written : Text)
  | tooLong (digits : Nat)
  deriving DecidableEq, Repr

/-- The most decimal digits that a number is read from or written in. -/
def mostDigits : Nat := 4300

/-- What is said of a number with too many decimal digits; `detail` tells how many. -/
def tooLongMessage (detail : String) : String :=
  s!"Exceeds the limit ({mostDigits} digits) for integer string conversion{detail}" ++
    "; use sys.set_int_max_str_digits() to increase the limit"

/-- What is said of a fault. No more than two hundred characters of the text are shown. -/
def Fault.message : Fault → String
  | malformed base written =>
    s!"invalid literal for int() with base {base}: " ++
      String.ofList ((Text.quoted written).toList.take 200)
  | tooLong digits => tooLongMessage s!": value has {digits} digits"

/-- A text with ASCII digits and blanks for those of other scripts, and a question mark for any
other character beyond ASCII. -/
def asciiForm (t : Text) : Text :=
  t.map fun c =>
    if c.toNat < 0x80 then c
    else if Text.isSpace c then ' '
    else
      match Text.decimalValue? c with
      | some n => Char.ofNat (48 + n)
      | none => '?'

/-- A sign in front, whether it is a minus, and what stands after it. -/
def signed : Text → Bool × Text
  | '-' :: r => (true, r)
  | '+' :: r => (false, r)
  | t => (false, t)

def isDigitIn (base : Nat) (c : Char) : Bool := Text.isHexDigit c && Text.hexValue c < base

/-- The letter that marks digits of a base. -/
def baseLetter? : Nat → Option Char
  | 2 => some 'b'
  | 8 => some 'o'
  | 16 => some 'x'
  | _ => none

/-- What stands after the mark of a base, if it is there, and one low line after that. -/
def withoutMark (base : Nat) (t : Text) : Text :=
  match t with
  | '0' :: c :: r =>
    if baseLetter? base == some c.toLower then
      match r with
      | '_' :: r => r
      | r => r
    else t
  | t => t

/-- Whether low lines stand only between digits. -/
def isSpaced (run : Text) : Bool := run.isEmpty || (Text.splitOn '_' run).all (!·.isEmpty)

/-- The number that a text writes in a base. -/
def ofText (base : Nat) (t : Text) : Except Fault Int :=
  let (negative, body) := signed ((asciiForm t).dropWhile Text.isAsciiSpace)
  let body := withoutMark base body
  let run := body.takeWhile fun c => c == '_' || isDigitIn base c
  let digits := run.filter (· != '_')
  let isWhole := !digits.isEmpty && (body.drop run.length).all Text.isAsciiSpace
  if !isSpaced run then .error (.malformed base t)
  else if base == 10 && mostDigits < digits.length then .error (.tooLong digits.length)
  else if !isWhole then .error (.malformed base t)
  else
    let n := Text.numberIn base digits
    .ok (if negative then -(n : Int) else n)

/-- Whether a number can be written. -/
def isWritable (n : Int) : Bool := n.natAbs < Nat.pow 10 mostDigits

end YamlStyle.Numeral
