import YamlStyle.Text.Encoding.EastAsian
import YamlStyle.Text.Encoding.CodePage

/-!
# Encodings that shift

The same bytes belong to one set of characters or another, by the escapes that stand before them.
-/

namespace YamlStyle.Text.Shifting

/-- Reads the characters at the front of some bytes in a state, and gives the state after them. -/
abbrev Step (σ : Type) := σ → Bytes → Except Malformed (Text × Nat × σ)

/-- Reads characters until the bytes end. `offset` is where the bytes stand in the whole. -/
def decodeFrom {σ : Type} (codec : String) (step : Step σ) :
    Nat → σ → Nat → Bytes → Except Undecodable Text
  | 0, _, _, _ => .ok []
  | _ + 1, _, _, [] => .ok []
  | fuel + 1, s, offset, b :: r =>
    match step s (b :: r) with
    | .error m => .error ⟨codec, offset, m.extent, b, m.reason⟩
    | .ok (t, n, s) =>
      (decodeFrom codec step fuel s (offset + n) ((b :: r).drop n)).map (t ++ ·)

def ofStep {σ : Type} (names : List String) (step : Step σ) (start : σ) : Encoding :=
  .ofSteps names fun bytes =>
    decodeFrom (names.headD "") step bytes.length start 0 bytes

/-! ## GB 2312 between tildes -/

/-- The place of two bytes without their highest bits. -/
def lowAt? (g : Grid) (b c : Nat) : Option Text := g.at? (b + 0x80) (c + 0x80)

/-- A character of ASCII, which changes no state. -/
def asciiStep {σ : Type} (s : σ) (b : UInt8) : Except Malformed (Text × Nat × σ) :=
  if b < 0x80 then .ok ([Char.ofNat b.toNat], 1, s) else .error (.illegal 1)

/-- Reads ASCII, or GB 2312 after a tilde and a brace. -/
def stepHz : Step Bool := fun isGb bytes =>
  match bytes with
  | [] => .ok ([], 0, isGb)
  | [b] => if b == 0x7e || (isGb && b < 0x80) then .error (.incomplete bytes) else asciiStep isGb b
  | 0x7e :: c :: _ =>
    if isGb then if c == 0x7d then .ok ([], 2, false) else .error (.illegal 1)
    else if c == 0x7e then .ok (['~'], 2, false)
    else if c == 0x7b then .ok ([], 2, true)
    else if c == 0x0a then .ok ([], 2, false)
    else .error (.illegal 1)
  | b :: c :: _ =>
    if isGb && b < 0x80 then
      (found (lowAt? Grid.gb2312 b.toNat c.toNat) 2).map fun (t, n) => (t, n, true)
    else asciiStep isGb b

/-! ## Sets called in by escapes -/

/-- A set of characters of one or two bytes below 0x80, and the letter that calls it. -/
structure Repertoire where
  letter : Char
  isDouble : Bool
  /-- What a byte, or two bytes, stand for. -/
  at? : Nat → Nat → Option Text

namespace Repertoire

def single (letter : Char) (char? : Nat → Option Char) : Repertoire :=
  ⟨letter, false, fun b _ => (char? b).map fun k => [k]⟩

def double (letter : Char) (at? : Nat → Nat → Option Text) : Repertoire :=
  ⟨letter, true, fun b c => at? (b + 0x80) (c + 0x80)⟩

def ascii : Repertoire := single 'B' fun b => some (Char.ofNat b)
def roman : Repertoire := single 'J' fun b => some (Japanese.romanOf b)
def katakana : Repertoire := single 'I' fun b => Japanese.kana? (UInt8.ofNat (b + 0x80))

/-- The upper half of ISO 8859-1, and of ISO 8859-7; they are there for single characters only. -/
def latin : Repertoire := single 'A' fun _ => none
def greek : Repertoire := single 'F' fun _ => none

def jisx0208 : Repertoire := double 'B' Grid.jisx0208.at?
def jisx0208Old : Repertoire := double '@' Grid.jisx0208.at?
def jisx0212 : Repertoire := double 'D' Grid.jisx0212.at?
def gb2312 : Repertoire := double 'A' Grid.gb2312.at?
def ksx1001 : Repertoire := double 'C' Grid.ksx1001.at?

/-- The first plane, in which the tilde is that of ASCII. -/
def firstPlane (e : Japanese.Edition) : Repertoire :=
  double (if e == .first then 'O' else 'Q') fun row column =>
    if e.isFree row column then none
    else if (row, column) == (0xa2, 0xb2) then some ['~']
    else Japanese.firstPlaneAt? row column

def secondPlane : Repertoire := double 'P' Grid.jisx0213Second.at?

end Repertoire

/-- The sets that an encoding may call in, and what else its escapes do. -/
structure Scheme where
  repertoires : List Repertoire
  /-- Whether the bytes 0x0e and 0x0f change to the second set and back. -/
  hasShifts : Bool
  /-- Whether a third set is there, for single characters. -/
  hasThird : Bool
  /-- Whether an escape may tell of a revision first. -/
  hasRevision : Bool

structure State where
  first : Repertoire
  second : Repertoire
  /-- The letter of the third set. -/
  third : Char
  isShifted : Bool
  /-- Whether the bytes are those of an escape that means nothing. -/
  isIdle : Bool

def State.start : State := ⟨.ascii, .ascii, 'B', false, false⟩

def escapeByte : UInt8 := 0x1b

/-- The most bytes of an escape. -/
def longestEscape : Nat := 16

def endsEscape (b : UInt8) : Bool := (0x41 ≤ b && b ≤ 0x5a) || b == 0x40

/-- The length of the escape that some bytes start with, of which so many have been passed: zero for
one that does not end in time, nothing for one that the bytes break off. -/
def escapeLength? (e : Scheme) (passed fuel : Nat) (bytes : Bytes) : Option Nat :=
  match fuel with
  | 0 => some 0
  | fuel + 1 =>
    if longestEscape ≤ passed then some 0
    else
      match bytes with
      | [] => none
      | b :: r =>
        if endsEscape b then some (passed + 1)
        else if e.hasRevision && b == 0x26 && r.head? == some 0x40 then
          escapeLength? e (passed + 3) fuel (r.drop 2)
        else escapeLength? e (passed + 1) fuel r

/-- The places that a set can be called to. -/
inductive Slot where
  | first | second | third
  deriving DecidableEq, Repr

/-- What an escape calls: the letter and whether it is that of two bytes, and the place. -/
def called? (e : Scheme) (escape : Bytes) : Option (Char × Bool × Slot) :=
  let letterOf (b : UInt8) : Char := Char.ofNat b.toNat
  match escape with
  | [_, 0x24, b] => some (letterOf b, true, .first)
  | [_, 0x28, b] => some (letterOf b, false, .first)
  | [_, 0x29, b] => some (letterOf b, false, .second)
  | [_, 0x2e, b] => if e.hasThird then some (letterOf b, false, .third) else none
  | [_, 0x24, 0x28, b] => some (letterOf b, true, .first)
  | [_, 0x24, 0x29, b] => some (letterOf b, true, .second)
  | [_, _, _, 0x1b, 0x24, 0x42] => if e.hasRevision then some ('B', true, .first) else none
  | _ => none

def State.call (s : State) (slot : Slot) (r : Repertoire) : State :=
  match slot with
  | .first => { s with first := r }
  | .second => { s with second := r }
  | .third => { s with third := r.letter }

/-- Carries out the escape that some bytes start with. -/
def escape (e : Scheme) (s : State) (bytes : Bytes) : Except Malformed (Text × Nat × State) :=
  match escapeLength? e 1 bytes.length (bytes.drop 1) with
  | none => .error (.incomplete bytes)
  | some 0 => .error (.illegal 1)
  | some n =>
    match called? e (bytes.take n) with
    | none => .error (.illegal n)
    | some (letter, isDouble, slot) =>
      let known := Repertoire.ascii :: e.repertoires
      match known.find? fun r => r.letter == letter && r.isDouble == isDouble with
      | some r => .ok ([], n, s.call slot r)
      | none => .error (.illegal n)

/-- The places that ISO 8859-7 has given away since. -/
def laterGreek : List Nat := [0xa4, 0xa5, 0xaa]

/-- A character of the third set. -/
def thirdChar? (letter : Char) (b : Nat) : Option Char :=
  if letter == 'A' then if b < 0x80 then some (Char.ofNat (b + 0x80)) else none
  else if letter == 'F' then
    if 0x80 ≤ b then some (Char.ofNat (b - 0x80))
    else if laterGreek.contains (b + 0x80) then none
    else CodePage.Iso8859.part7.char? (b + 0x80)
  else if b < 0x80 then some (Char.ofNat b) else none

/-- Reads a character of the set that is called in. -/
def plain (s : State) (bytes : Bytes) : Except Malformed (Text × Nat × State) :=
  let set := if s.isShifted then s.second else s.first
  match bytes with
  | [] => .ok ([], 0, s)
  | b :: r =>
    if set.isDouble && r.isEmpty then .error (.incomplete bytes)
    else
      let size := if set.isDouble then 2 else 1
      match set.at? b.toNat (r.headD 0).toNat with
      | some t => .ok (t, size, s)
      | none => .error (.illegal size)

def step (e : Scheme) : Step State := fun s bytes =>
  match bytes with
  | [] => .ok ([], 0, s)
  | b :: r =>
    let asIs (s : State) : Except Malformed (Text × Nat × State) :=
      .ok ([Char.ofNat b.toNat], 1, s)
    if s.isIdle then asIs { s with isIdle := !endsEscape b }
    else if b == escapeByte then
      match r with
      | [] => .error (.incomplete bytes)
      | c :: rest =>
        if [0x28, 0x29, 0x24, 0x2e, 0x26].contains c then escape e s bytes
        else if e.hasThird && c == 0x4e then
          match rest with
          | [] => .error (.incomplete bytes)
          | d :: _ =>
            match thirdChar? s.third d.toNat with
            | some k => .ok ([k], 3, s)
            | none => .error (.illegal 3)
        else asIs { s with isIdle := true }
    else if e.hasShifts && b == 0x0f then .ok ([], 1, { s with isShifted := false })
    else if e.hasShifts && b == 0x0e then .ok ([], 1, { s with isShifted := true })
    else if b == 0x0a then asIs { s with isShifted := false }
    else if b < 0x20 then asIs s
    else if 0x80 ≤ b then .error (.illegal 1)
    else plain s bytes

/-- A scheme of Japan. -/
def japanese (repertoires : List Repertoire) : Scheme := ⟨repertoires, false, false, true⟩

def ofScheme (names : List String) (e : Scheme) : Encoding := ofStep names (step e) .start

open Repertoire in
def all : List Encoding := [
  ofStep ["hz", "hz_gb", "hz_gb_2312", "hzgb"] stepHz false,
  ofScheme ["iso2022_jp", "csiso2022jp", "iso2022jp", "iso_2022_jp"]
    (japanese [jisx0208, jisx0208Old, roman]),
  ofScheme ["iso2022_jp_1", "iso2022jp_1", "iso_2022_jp_1"]
    (japanese [jisx0208, jisx0208Old, jisx0212, roman]),
  ofScheme ["iso2022_jp_2", "iso2022jp_2", "iso_2022_jp_2"]
    { japanese [jisx0208, jisx0208Old, jisx0212, ksx1001, gb2312, roman, latin, greek] with
      hasThird := true },
  ofScheme ["iso2022_jp_3", "iso2022jp_3", "iso_2022_jp_3"]
    (japanese [jisx0208, firstPlane .first, secondPlane]),
  ofScheme ["iso2022_jp_2004", "iso2022jp_2004", "iso_2022_jp_2004"]
    (japanese [jisx0208, firstPlane .second, secondPlane]),
  ofScheme ["iso2022_jp_ext", "iso2022jp_ext", "iso_2022_jp_ext"]
    (japanese [jisx0208, jisx0208Old, jisx0212, roman, katakana]),
  ofScheme ["iso2022_kr", "csiso2022kr", "iso2022kr", "iso_2022_kr"]
    ⟨[ksx1001], true, false, false⟩]

end YamlStyle.Text.Shifting
