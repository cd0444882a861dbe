/-!
# Hangul syllables

A syllable is a first letter, a vowel and perhaps a last letter. All syllables follow one another,
by their first letters, then by their vowels, then by their last ones.
-/

namespace YamlStyle.Text.Hangul

/-- The first letters, the vowels and the last letters in the order of syllables. -/
def leads : List Char := "ㄱㄲㄴㄷㄸㄹㅁㅂㅃㅅㅆㅇㅈㅉㅊㅋㅌㅍㅎ".toList
def vowels : List Char := (List.range 21).map fun n => Char.ofNat (0x314f + n)
def tails : List Char := "ㄱㄲㄳㄴㄵㄶㄷㄹㄺㄻㄼㄽㄾㄿㅀㅁㅂㅄㅅㅆㅇㅈㅊㅋㅌㅍㅎ".toList

def firstSyllable : Nat := 0xac00
def syllableCount : Nat := 11172

def syllables : List Char := (List.range syllableCount).map fun n => Char.ofNat (firstSyllable + n)

/-- The syllable of letters by their places. The last letter is told by its place and one, and no
last letter by a zero. -/
def syllable (lead vowel tail : Nat) : Char :=
  Char.ofNat (firstSyllable + (lead * 21 + vowel) * 28 + tail)

/-- The syllable that letters spell. -/
def spelled? (lead vowel : Char) (tail : Option Char) : Option Char := do
  let l ← leads.idxOf? lead
  let v ← vowels.idxOf? vowel
  let t ← match tail with
    | none => some 0
    | some c => (tails.idxOf? c).map (· + 1)
  return syllable l v t

/-- What is left of characters in order without some of them, which are in order too. -/
def without : List Char → List Char → List Char
  | [], all => all
  | _, [] => []
  | p :: placed, c :: all => if p == c then without placed all else c :: without (p :: placed) all

/-! ## Names -/

/-- How the letters of each place are called in the names of syllables. -/
def leadNames : List String :=
  ["G", "GG", "N", "D", "DD", "R", "M", "B", "BB", "S", "SS", "", "J", "JJ", "C", "K", "T", "P", "H"]
def vowelNames : List String :=
  ["A", "AE", "YA", "YAE", "EO", "E", "YEO", "YE", "O", "WA", "WAE", "OE", "YO", "U", "WEO", "WE",
    "WI", "YU", "EU", "YI", "I"]
def tailNames : List String :=
  ["", "G", "GG", "GS", "N", "NJ", "NH", "D", "L", "LG", "LM", "LB", "LS", "LT", "LP", "LH", "M", "B",
    "BS", "S", "SS", "NG", "J", "C", "K", "T", "P", "H"]

/-- The place of the longest of some names that a text starts with, and what follows it. -/
def longest? (names : List String) (t : List Char) : Option (Nat × List Char) :=
  let starts := names.zipIdx.filter fun n => n.1.toList.isPrefixOf t
  let longest := starts.foldl (fun (best : Option (String × Nat)) n =>
    if best.any fun b => n.1.length ≤ b.1.length then best else some n) none
  longest.map fun (name, place) => (place, t.drop name.length)

/-- The syllable that is called by its letters. -/
def named? (letters : List Char) : Option Char := do
  let (l, rest) ← longest? leadNames letters
  let (v, rest) ← longest? vowelNames rest
  let (t, rest) ← longest? tailNames rest
  if rest.isEmpty then some (syllable l v t) else none

end YamlStyle.Text.Hangul
