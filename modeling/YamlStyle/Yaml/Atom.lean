import YamlStyle.Number.Binary64
import YamlStyle.Text.Encoding.Basic
import YamlStyle.Yaml.Calendar

/-!
# Atoms

Values without parts: numbers, texts, bytes, dates and times. Two atoms are the same key if they
are equal, whatever sort of number they are. What is no number equals nothing, and is the same
key only as itself, so it is kept with where it comes from.
-/

namespace YamlStyle.Yaml

/-- Where a value that is no number comes from: the word for it, or one node. -/
inductive NanSource where
  | word
  | node (id : Nat)
  deriving DecidableEq, Repr

inductive Atom where
  | null
  | bool (b : Bool)
  | int (n : Int)
  | float (x : Binary64)
  | nan (source : NanSource)
  | text (s : String)
  | bytes (bs : List UInt8)
  | date (d : Date)
  | time (t : Time)
  deriving DecidableEq, Repr, Inhabited

namespace Atom

/-- The number that an atom is in comparisons; true counts as one. -/
def int? : Atom → Option Int
  | bool b => some (if b then 1 else 0)
  | int n => some n
  | _ => none

/-- Whether two atoms are the same as keys. -/
def isSame (a b : Atom) : Bool :=
  match a.int?, b.int?, a, b with
  | some m, some n, _, _ => m == n
  | some m, none, _, float x => x.isInt m
  | none, some n, float x, _ => x.isInt n
  | _, _, float x, float y => x.isEqual y
  | _, _, time t, time u => t.isSame u
  | none, none, a, b => a == b
  | _, _, _, _ => false

/-- A whole number in decimal digits, if it can be written. -/
def writtenInt? (n : Int) : Option String :=
  if Numeral.isWritable n then some (toString n) else none

def byteQuote (bs : List UInt8) : Char :=
  let holds (c : Char) : Bool := bs.any (·.toNat == c.toNat)
  if holds '\'' && !holds '"' then '"' else '\''

def escapeByte (quote : Char) (b : UInt8) : String :=
  let c := Char.ofNat b.toNat
  if c == quote || c == '\\' then String.ofList ['\\', c]
  else if c == '\n' then "\\n"
  else if c == '\r' then "\\r"
  else if c == '\t' then "\\t"
  else if 0x20 ≤ b && b < 0x7f then String.singleton c
  else "\\x" ++ Text.hexDigits 2 b.toNat

/-- How bytes are written: between quotes chosen as for text. -/
def quotedBytes (bs : List UInt8) : String :=
  let q := byteQuote bs
  "b" ++ q.toString ++ String.join (bs.map (escapeByte q)) ++ q.toString

/-- How an atom is written as part of a value; a whole number may have too many digits. -/
def inner? : Atom → Option String
  | null => some "None"
  | bool true => some "True"
  | bool false => some "False"
  | int n => writtenInt? n
  | float x => some x.toText
  | nan _ => some "nan"
  | text s => some (Text.quoted s.toList)
  | bytes bs => some (quotedBytes bs)
  | date d => some d.inner
  | time t => some t.inner

/-- How an atom is written by itself. -/
def shown? : Atom → Option String
  | text s => some s
  | date d => some d.shown
  | time t => some t.shown
  | a => a.inner?

end Atom

end YamlStyle.Yaml
