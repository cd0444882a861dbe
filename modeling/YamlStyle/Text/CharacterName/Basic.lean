import YamlStyle.Text.Basic

/-!
# Runs of names

The names of characters that follow one another.
-/

namespace YamlStyle.Text.CharacterName

/-- The names of the characters from a code point on, in pieces, with semicolons between them. A
code point without a name has nothing between its semicolons. -/
structure Run where
  start : Nat
  pieces : List String

/-- The character of a run that has a name. -/
def Run.named? (r : Run) (name : Text) : Option Char :=
  ((Text.splitOn ';' (r.pieces.flatMap String.toList)).idxOf? name).map fun place =>
    Char.ofNat (r.start + place)

end YamlStyle.Text.CharacterName
