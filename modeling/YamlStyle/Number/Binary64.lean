import YamlStyle.Number.Numeral

/-!
# Numbers of 64 bits

Fractions with a mantissa of 53 bits. A quotient is rounded to the nearest of them, and a number
is written with the fewest digits that are rounded back to it.
-/

namespace YamlStyle

/-- A fraction `mantissa * 2 ^ exponent` with a sign, an infinity, or no number at all. The
mantissa is below `2 ^ 53`, and has that length unless the exponent is the least one. -/
inductive Binary64 where
  | finite (negative : Bool) (mantissa : Nat) (exponent : Int)
  | infinite (negative : Bool)
  | nan
  deriving DecidableEq, Repr

namespace Binary64

def leastExponent : Int := -1074

def greatestExponent : Int := 971

/-- Two to the fifty-third, which no mantissa reaches. -/
def mantissaLimit : Nat := 0x20000000000000

/-- The quotient rounded to the nearest whole number, halves to the even one. -/
def roundDiv (n d : Nat) : Nat :=
  let q := n / d
  let r := n % d
  if d < 2 * r || (2 * r == d && q % 2 == 1) then q + 1 else q

/-- A quotient times `base ^ exponent`, as a quotient. -/
def scale (base : Nat) (exponent : Int) (n d : Nat) : Nat × Nat :=
  if 0 ≤ exponent then (n * base.pow exponent.toNat, d)
  else (n, d * base.pow (-exponent).toNat)

/-- The number nearest to a quotient. -/
def ofQuotient (negative : Bool) (n d : Nat) : Binary64 :=
  if n == 0 then finite negative 0 leastExponent
  else
    let guess : Int := n.log2 - d.log2 - 53
    let fits (e : Int) : Bool :=
      let (a, b) := scale 2 (-e) n d
      a / b < mantissaLimit
    let e := max leastExponent (if fits guess then guess else guess + 1)
    let (a, b) := scale 2 (-e) n d
    let m := roundDiv a b
    let (m, e) := if m == mantissaLimit then (mantissaLimit / 2, e + 1) else (m, e)
    if greatestExponent < e then infinite negative else finite negative m e

/-- The number nearest to `n * 10 ^ exponent`. -/
def ofDecimal (negative : Bool) (n : Nat) (exponent : Int) : Binary64 :=
  let size : Int := exponent + (Nat.toDigits 10 n).length
  if n == 0 || size < -330 then finite negative 0 leastExponent
  else if 310 < size then infinite negative
  else
    let (a, b) := scale 10 exponent n 1
    ofQuotient negative a b

/-- The digits in front, as a number, their count, and the rest. -/
def digits (t : Text) : Nat × Nat × Text :=
  let found := t.takeWhile Text.isDigit
  (Text.numberIn 10 found, found.length, t.drop found.length)

/-- Reads an exponent, if there is one, up to the end of the text. -/
def exponent? : Text → Option Int
  | [] => some 0
  | e :: r =>
    if e != 'e' && e != 'E' then none
    else
      let (negative, r) := Numeral.signed r
      let (n, count, rest) := digits r
      if count == 0 || !rest.isEmpty then none else some (if negative then -n else n)

/-- Reads a number in decimal notation, without a sign. -/
def ofUnsigned? (negative : Bool) (t : Text) : Option Binary64 :=
  let word := (String.ofList t).toLower
  if word == "inf" || word == "infinity" then some (infinite negative)
  else if word == "nan" then some nan
  else
    let (whole, wholeCount, rest) := digits t
    let (fraction, fractionCount, rest) := match rest with
      | '.' :: r => digits r
      | r => (0, 0, r)
    if wholeCount + fractionCount == 0 then none
    else
      (exponent? rest).map fun e =>
        ofDecimal negative (whole * Nat.pow 10 fractionCount + fraction) (e - fractionCount)

/-- Reads a number in decimal notation between blanks, in digits of any script. -/
def ofText? (t : Text) : Option Binary64 :=
  let (negative, body) := Numeral.signed (Text.trim Text.isAsciiSpace (Numeral.asciiForm t))
  ofUnsigned? negative body

def negate : Binary64 → Binary64
  | finite s m e => finite (!s) m e
  | infinite s => infinite (!s)
  | nan => nan

def zero : Binary64 := finite false 0 leastExponent

/-- Whether a number is a whole one. -/
def isInt (n : Int) : Binary64 → Bool
  | finite s m e =>
    let (a, b) := scale 2 e m 1
    (if s then -(a : Int) else a) == n * b
  | _ => false

/-- Whether two numbers are equal: the zeros are, and what is no number equals nothing. -/
def isEqual : Binary64 → Binary64 → Bool
  | finite s m e, finite s' m' e' => (m == 0 && m' == 0) || (s == s' && m == m' && e == e')
  | infinite s, infinite s' => s == s'
  | _, _ => false

/-- The quotient that a number is, with its sign above the line. -/
def quotient (negative : Bool) (mantissa : Nat) (exponent : Int) : Int × Nat :=
  let (a, b) := scale 2 exponent mantissa 1
  (if negative then -(a : Int) else a, b)

def ofIntQuotient (n : Int) (d : Nat) : Binary64 := ofQuotient (n < 0) n.natAbs d

/-- The product, rounded. -/
def mul : Binary64 → Binary64 → Binary64
  | finite s m e, finite s' m' e' =>
    let (a, b) := scale 2 (e + e') (m * m') 1
    ofQuotient (s != s') a b
  | infinite s, infinite s' => infinite (s != s')
  | infinite s, finite s' m _ | finite s m _, infinite s' =>
    if m == 0 then nan else infinite (s != s')
  | _, _ => nan

/-- The sum, rounded. -/
def add : Binary64 → Binary64 → Binary64
  | finite s m e, finite s' m' e' =>
    let (a, b) := quotient s m e
    let (a', b') := quotient s' m' e'
    ofIntQuotient (a * b' + a' * b) (b * b')
  | infinite s, infinite s' => if s == s' then infinite s else nan
  | infinite s, finite .. | finite .., infinite s => infinite s
  | _, _ => nan

/-! ## The shortest decimal -/

/-- The exponent of the first digit of a quotient: `10 ^ k ≤ n / d < 10 ^ (k + 1)`. -/
def decimalExponent (n d : Nat) : Int :=
  let k : Int := (Nat.toDigits 10 n).length - (Nat.toDigits 10 d).length
  let (a, b) := scale 10 (-k) n d
  if b ≤ a then k else k - 1

/-- The distance between two naturals. -/
def distance (a b : Nat) : Nat := (a - b) + (b - a)

/-- Whether `c * 10 ^ s` is rounded to the number with mantissa `m` and exponent `e`. -/
def roundsTo (m : Nat) (e : Int) (c : Nat) (s : Int) : Bool :=
  match ofDecimal false c s with
  | finite _ m' e' => m' == m && e' == e
  | _ => false

/-- The decimal of `count` digits nearest to `m * 2 ^ e` that is rounded to it, if there is one;
of two as near as each other the even one. -/
def nearest? (m : Nat) (e : Int) (count : Nat) : Option (Nat × Int) :=
  let (n, d) := scale 2 e m 1
  let s := decimalExponent n d - count + 1
  let (a, b) := scale 10 (-s) n d
  let low := a / b
  let below := distance (low * b) a
  let above := distance ((low + 1) * b) a
  let isLow := below < above || (below == above && low % 2 == 0)
  let near := if isLow then [low, low + 1] else [low + 1, low]
  (near.find? fun c => roundsTo m e c s).map fun c => (c, s)

/-- The decimal with the fewest digits that is rounded to `m * 2 ^ e`. -/
def shortest (m : Nat) (e : Int) : Nat × Int :=
  (((List.range 17).map (· + 1)).findSome? (nearest? m e)).getD (0, 0)

/-- A decimal in digits: positional if the first digit stands from the fourth place after the
point up to the sixteenth before it, else with an exponent of two digits or more. -/
def layout (c : Nat) (s : Int) : String :=
  let digits := (Nat.toDigits 10 c).reverse.dropWhile (· == '0') |>.reverse
  let point : Int := (Nat.toDigits 10 c).length + s
  let zeros (n : Int) : List Char := List.replicate n.toNat '0'
  if -4 < point && point ≤ 0 then String.ofList ('0' :: '.' :: (zeros (-point) ++ digits))
  else if 0 < point && point ≤ 16 then
    let whole := digits.take point.toNat
    let fraction := digits.drop point.toNat
    String.ofList (whole ++ zeros (point - whole.length) ++
      '.' :: (if fraction.isEmpty then ['0'] else fraction))
  else
    let e := point - 1
    let shown := toString e.natAbs
    let tail := digits.drop 1
    String.ofList (digits.take 1 ++ (if tail.isEmpty then [] else '.' :: tail)) ++
      (if e < 0 then "e-" else "e+") ++ (if shown.length < 2 then "0" else "") ++ shown

def toText : Binary64 → String
  | finite s m e =>
    let sign := if s then "-" else ""
    if m == 0 then sign ++ "0.0"
    else
      let (c, k) := shortest m e
      sign ++ layout c k
  | infinite s => if s then "-inf" else "inf"
  | nan => "nan"

end Binary64

end YamlStyle
