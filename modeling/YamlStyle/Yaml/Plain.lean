import YamlStyle.Yaml.Calendar
import YamlStyle.Yaml.Token

/-!
# What plain scalars stand for

A plain scalar may stand for something other than its text. Versions 1.1 and 1.2 differ in which
truth values and numbers they know.
-/

namespace YamlStyle.Yaml

inductive PlainSort where
  | bool | float | int | merge | null | timestamp | value | text
  deriving DecidableEq, Repr

namespace Plain

def isDigitOrLow (c : Char) : Bool := Text.isDigit c || c == '_'

def isAllSome (p : Char → Bool) (t : Text) : Bool := !t.isEmpty && t.all p

/-- The text without a leading sign. -/
def unsigned : Text → Text
  | [] => []
  | c :: r => if c == '-' || c == '+' then r else c :: r

/-- A digit, and digits and low lines after it. -/
def isNumeral : Text → Bool
  | [] => false
  | c :: r => Text.isDigit c && r.all isDigitOrLow

/-- An exponent with its sign, which may be left out only where the flag says so. -/
def isExponent (mayOmitSign : Bool) : Text → Bool
  | [] => false
  | e :: r =>
    (e == 'e' || e == 'E') &&
      match r with
      | [] => false
      | c :: digits =>
        if c == '-' || c == '+' then isAllSome Text.isDigit digits
        else mayOmitSign && isAllSome Text.isDigit r

/-- One or two digits of a number to the base sixty. -/
def isSixtieth : Text → Bool
  | [c] => Text.isDigit c
  | [c, d] => '0' ≤ c && c ≤ '5' && Text.isDigit d
  | _ => false

/-- The text up to the first point and the text after it. -/
def atPoint? (t : Text) : Option (Text × Text) :=
  if t.contains '.' then
    some (t.takeWhile (· != '.'), (t.dropWhile (· != '.')).drop 1)
  else none

def bools : Version → List String := fun v =>
  let common := ["true", "True", "TRUE", "false", "False", "FALSE"]
  if v == .v1_1 then
    ["y", "Y", "yes", "Yes", "YES", "n", "N", "no", "No", "NO", "on", "On", "ON", "off", "Off",
     "OFF"] ++ common
  else common

def isBool (v : Version) (t : Text) : Bool := (bools v).contains (String.ofList t)

def isInfinite (t : Text) : Bool := [".inf", ".Inf", ".INF"].contains (String.ofList (unsigned t))

def isNotANumber (t : Text) : Bool := [".nan", ".NaN", ".NAN"].contains (String.ofList t)

/-- A fraction that has digits before its point, or an exponent. -/
def isDecimal (t : Text) : Bool :=
  let whole := t.takeWhile isDigitOrLow
  isNumeral whole &&
    match t.drop whole.length with
    | '.' :: r =>
      let rest := r.dropWhile isDigitOrLow
      rest.isEmpty || isExponent true rest
    | r => isExponent true r

/-- A fraction that starts with its point. -/
def isPointFirst : Text → Bool
  | '.' :: r =>
    let rest := r.dropWhile isDigitOrLow
    rest.length < r.length && (rest.isEmpty || isExponent false rest)
  | _ => false

/-- Numerals to the base sixty, two or more between colons. -/
def isSexagesimal (isFirst : Text → Bool) (t : Text) : Bool :=
  match t.splitOn ':' with
  | first :: second :: rest => isFirst first && (second :: rest).all isSixtieth
  | _ => false

def isFloat (v : Version) (t : Text) : Bool :=
  let u := unsigned t
  isDecimal u ||
    (if v == .v1_1 then
      isPointFirst t ||
        match atPoint? u with
        | some (whole, fraction) => isSexagesimal isNumeral whole && fraction.all isDigitOrLow
        | none => false
    else isPointFirst u) ||
    isInfinite t || isNotANumber t

/-- The digits after a zero and a letter, as in `0x1f`. -/
def isBased (letter : Char) (isDigit : Char → Bool) : Text → Bool
  | '0' :: c :: r => c == letter && isAllSome (fun c => isDigit c || c == '_') r
  | _ => false

def isOctalOrLow (c : Char) : Bool := Text.isOctalDigit c || c == '_'

/-- Digits up to seven after an optional zero; the zero may be all there is. -/
def isOctal (t : Text) : Bool := isAllSome isOctalOrLow t

/-- A decimal number without a leading zero. -/
def isNatural : Text → Bool
  | [] => false
  | c :: r => if c == '0' then r.isEmpty else Text.isDigit c && r.all isDigitOrLow

def isPositive : Text → Bool
  | [] => false
  | c :: r => Text.isDigit c && c != '0' && r.all isDigitOrLow

def isInt (v : Version) (t : Text) : Bool :=
  let u := unsigned t
  t.head?.any (fun c => c == '-' || c == '+' || Text.isDigit c) &&
    (isBased 'b' Text.isBinaryDigit u || isBased 'x' Text.isHexDigit u ||
      (if v == .v1_1 then isOctal u || isNatural u || isSexagesimal isPositive u
      else isBased 'o' Text.isOctalDigit u || isAllSome isDigitOrLow u))

def isNull (t : Text) : Bool := ["~", "null", "Null", "NULL"].contains (String.ofList t)

/-- What a plain scalar stands for. A line feed at its end does not count. -/
def sort (v : Version) (t : Text) : PlainSort :=
  let body := if t.getLast? == some '\n' then t.dropLast else t
  if t.isEmpty then .null
  else if isBool v body then .bool
  else if isFloat v body then .float
  else if isInt v body then .int
  else if body == "<<".toList then .merge
  else if isNull body then .null
  else if (Timestamp.ofText? body).any (·.isImplicit) then .timestamp
  else if body == ['='] then .value
  else .text

end Plain

end YamlStyle.Yaml
