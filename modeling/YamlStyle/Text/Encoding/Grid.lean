import YamlStyle.Text.Encoding.Basic

/-!
# Grids of characters

Sets of characters that are numbered by a row and a column, as those of East Asia are.
-/

namespace YamlStyle.Text

/-- The rows by their numbers, in pieces. Each starts at the same column, and has U+FFFD where there
is no character. -/
structure Grid where
  firstColumn : Nat
  rows : List (Nat × List String)

namespace Grid

/-- The character of a row and a column. -/
def char? (g : Grid) (row column : Nat) : Option Char :=
  if column < g.firstColumn then none
  else
    match g.rows.lookup row with
    | none => none
    | some pieces =>
      ((pieces.flatMap String.toList)[column - g.firstColumn]?).filter (· != hole)

/-- The same, as a text. -/
def at? (g : Grid) (row column : Nat) : Option Text := (g.char? row column).map fun c => [c]

end Grid

/-! ## Bytes in twos

A byte below 0x80 is a character of ASCII, and others come in twos that are the row and the column
of a place in a grid.
-/

namespace Malformed

/-- No character is written like that. -/
def illegal (extent : Nat) : Malformed := ⟨"illegal multibyte sequence", extent⟩

/-- The bytes end within a character. -/
def incomplete (bytes : Bytes) : Malformed := ⟨"incomplete multibyte sequence", bytes.length⟩

end Malformed

/-- What so many bytes stand for, if they stand for anything. -/
def found (t : Option Text) (size : Nat) : Except Malformed (Text × Nat) :=
  match t with
  | some t => .ok (t, size)
  | none => .error (.illegal 1)

/-- The character that so many bytes stand for, if they stand for one. -/
def foundChar (c : Option Char) (size : Nat) : Except Malformed (Text × Nat) :=
  found (c.map fun c => [c]) size

/-- Reads a character of ASCII, or what stands at the place of two bytes. -/
def decodePair (at? : Nat → Nat → Option Text) (bytes : Bytes) : Except Malformed (Text × Nat) :=
  match bytes with
  | [] => .ok ([], 0)
  | b :: r =>
    if b < 0x80 then .ok ([Char.ofNat b.toNat], 1)
    else
      match r with
      | [] => .error (.incomplete bytes)
      | c :: _ => found (at? b.toNat c.toNat) 2

/-- The encoding of a decoder that is not made before it is needed. -/
def Encoding.ofDecoder (names : List String) (step : Unit → Decoder) : Encoding :=
  .ofSteps names fun bytes => decodeWith (names.headD "") (step ()) 0 bytes

end YamlStyle.Text
