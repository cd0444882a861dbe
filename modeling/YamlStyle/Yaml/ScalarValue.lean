import YamlStyle.Text.Case
import YamlStyle.Text.Encoding.Utf
import YamlStyle.Yaml.Atom
import YamlStyle.Yaml.Datum

/-!
# Values of scalars

The value that a scalar has by its tag. A tag that was given need not fit the text.
-/

namespace YamlStyle.Yaml

/-- Why a text does not stand for a value: it cannot be read, or a scalar or a key in it is not
what it should be. -/
inductive LoadFailure where
  | unreadable (f : Failure)
  | notBool (word : String)
  | emptyNumber
  | notInt (f : Numeral.Fault)
  | notFloat (digits : String)
  /-- A number with more than one exponent. -/
  | manyExponents
  /-- A place value of a sexagesimal number that no number of 64 bits comes near. -/
  | placeTooLarge
  | noTime (f : CalendarFault)
  /-- A number that a message should show and that has too many digits. -/
  | unwritable
  /-- A value that is to be found inside itself. -/
  | endless
  /-- A list, map or set as part of a key. -/
  | openPart (kind : String)
  /-- A key that an ordered map has twice. -/
  | secondOrderedKey
  deriving DecidableEq, Repr

namespace LoadFailure

/-- A failure at one place of the text. -/
def here (cause : Cause) (mark : Mark) : LoadFailure := .unreadable (.fault (.here cause mark))

/-- What is said of a failure. -/
def message (source : Text) : LoadFailure → String
  | .unreadable f => f.message source
  | .notBool word => word
  | .emptyNumber => "string index out of range"
  | .notInt f => f.message
  | .notFloat digits => s!"could not convert string to float: {digits}"
  | .manyExponents => "too many values to unpack (expected 2)"
  | .placeTooLarge => "int too large to convert to float"
  | .noTime f => f.message
  | .unwritable => Numeral.tooLongMessage ""
  | .endless => "maximum recursion depth exceeded"
  | .openPart kind => s!"unhashable type: '{kind}'"
  | .secondOrderedKey => ""

end LoadFailure

namespace Scalar

def boolOf? (word : String) : Option Bool :=
  if ["yes", "y", "true", "on"].contains word then some true
  else if ["no", "n", "false", "off"].contains word then some false
  else none

/-- The whole number that a text writes in a base. -/
def intOf (base : Nat) (t : Text) : Except LoadFailure Int :=
  (Numeral.ofText base t).mapError .notInt

/-- Numerals to the base sixty, the least one last. -/
def sexagesimal (parts : List Int) : Int := parts.foldl (fun n d => n * 60 + d) 0

/-- A sign and the text after it. -/
def signed : Text → Except LoadFailure (Bool × Text)
  | [] => .error .emptyNumber
  | c :: r => .ok (c == '-', if c == '-' || c == '+' then r else c :: r)

def intValue (version : Version) (t : Text) : Except LoadFailure Atom := do
  let (negative, body) ← signed (t.filter (· != '_'))
  let isOld := version == .v1_1
  let n ← match body with
    | '0' :: 'b' :: r => intOf 2 r
    | '0' :: 'x' :: r => intOf 16 r
    | '0' :: 'o' :: r => intOf 8 r
    | ['0'] => .ok 0
    | [] => if isOld then .error .emptyNumber else intOf 10 []
    | c :: r =>
      if isOld && c == '0' then intOf 8 (c :: r)
      else if isOld && body.contains ':' then
        (((Text.splitOn ':' body).mapM (intOf 10)).map sexagesimal)
      else intOf 10 body
  return .int (if negative then -n else n)

def floatOf (t : Text) : Except LoadFailure Binary64 :=
  match Binary64.ofText? t with
  | some x => .ok x
  | none => .error (.notFloat (Text.quoted t))

/-- The sum of numerals to the base sixty, the least one first; `place` is the value of a one. -/
def sexagesimalSum (sum : Binary64) (place : Nat) : List Binary64 → Except LoadFailure Binary64
  | [] => .ok sum
  | x :: xs =>
    match Binary64.ofQuotient false place 1 with
    | .infinite _ => .error .placeTooLarge
    | value => sexagesimalSum (sum.add (x.mul value)) (place * 60) xs

/-- The number that a text writes, not by a word. In version 1.1 it may be to the base sixty. -/
def floatIn (version : Version) (body : Text) : Except LoadFailure Binary64 := do
  if version != .v1_2 && body.contains ':' then
    let parts ← (Text.splitOn ':' body).mapM floatOf
    sexagesimalSum Binary64.zero 1 parts.reverse
  else if version != .v1_2 && 1 < body.count 'e' then .error .manyExponents
  else floatOf body

def floatValue (version : Version) (t : Text) (node : NodeId) : Except LoadFailure Atom := do
  let (negative, body) ← signed (Text.lower (t.filter (· != '_')))
  if body == ".inf".toList then return .float (.infinite negative)
  else if body == ".nan".toList then return .nan .word
  else
    match ← floatIn version body with
    | .nan => return .nan (.node node)
    | x => return .float (if negative then x.negate else x)

/-- Why a text cannot be written in ASCII: the first characters that are not in it. -/
def notAscii? (t : Text) : Option String :=
  let plain := t.takeWhile (·.toNat < 128)
  let odd := (t.drop plain.length).takeWhile (128 ≤ ·.toNat)
  match odd with
  | [] => none
  | [c] =>
    let code :=
      if c.toNat < 0x100 then "\\x" ++ Text.hexDigits 2 c.toNat
      else if c.toNat < 0x10000 then "\\u" ++ Text.hexDigits 4 c.toNat
      else "\\U" ++ Text.hexDigits 8 c.toNat
    some s!"'ascii' codec can't encode character '{code}' in position {plain.length}: ordinal not in range(128)"
  | _ => some
      s!"'ascii' codec can't encode characters in position {plain.length}-{plain.length + odd.length - 1}: ordinal not in range(128)"

def binaryValue (t : Text) (start : Mark) : Except LoadFailure Atom :=
  match notAscii? t with
  | some reason => .error (.here (.binaryNotAscii reason) start)
  | none =>
    match Text.Base64.decode t with
    | .ok bytes => .ok (.bytes bytes)
    | .error reason => .error (.here (.binaryNotBase64 reason) start)

def timeValue (t : Text) (start : Mark) : Except LoadFailure Atom :=
  let body := if t.getLast? == some '\n' then t.dropLast else t
  match Timestamp.ofText? body with
  | some s =>
    match s.time with
    | none => (s.date?.map .date).mapError .noTime
    | some c => ((s.timeOf c).map .time).mapError .noTime
  | none => .error (.here (.notTimestamp (String.ofList t)) start)

/-- The tags of scalars. -/
inductive Kind where
  | null | bool | int | float | binary | timestamp | text
  deriving DecidableEq, Repr

def Kind.ofTag? (tag : String) : Option Kind :=
  [("null", null), ("bool", bool), ("int", int), ("float", float), ("binary", binary),
    ("timestamp", timestamp), ("str", text)].findSome? fun (name, kind) =>
      if tag == commonTag name then some kind else none

/-- The value of a scalar. `node` is the node with the tag, which starts at `start`. -/
def valueOf (version : Version) (kind : Kind) (text : String) (node : NodeId) (start : Mark) :
    Except LoadFailure Atom :=
  let t := text.toList
  match kind with
  | .null => .ok .null
  | .bool =>
    let word := Text.lower t
    match boolOf? (String.ofList word) with
    | some b => .ok (.bool b)
    | none => .error (.notBool (Text.quoted word))
  | .int => intValue version t
  | .float => floatValue version t node
  | .binary => binaryValue t start
  | .timestamp => timeValue t start
  | .text => .ok (.text text)

end Scalar

end YamlStyle.Yaml
