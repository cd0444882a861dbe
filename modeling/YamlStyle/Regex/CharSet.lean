import YamlStyle.Regex.Basic
import YamlStyle.Text.Case
import YamlStyle.Text.Class
import YamlStyle.Text.Word

/-!
# Characters that a pattern takes for one another

Whether a character is one that a pattern asks for, or a member of a set, under the flags that are
on. Where case does not matter, two letters are the same if their small letters are, or are twins.
In a set, the letters beyond U+FFFF are an exception: they stand for what they are, and a range of
them also for what has its capital in the range.
-/

namespace YamlStyle.Regex

/-- How case is taken. -/
inductive Folding where
  | none | ascii | unicode
  deriving DecidableEq, Repr

def Flags.folding (f : Flags) : Folding :=
  if !f.ignoreCase then .none else if f.ascii then .ascii else .unicode

namespace Folding

/-- The small letter of a letter. -/
def small : Folding → Char → Char
  | none, c => c
  | ascii, c => c.toLower
  | unicode, c => Text.smallOf c

/-- Whether a character has another case. -/
def hasCase : Folding → Char → Bool
  | none, _ => false
  | ascii, c => c.isAlpha
  | unicode, c => Text.hasCase c

/-- Whether a character between two has another case. -/
def hasCaseBetween : Folding → Nat → Nat → Bool
  | none, _, _ => false
  | ascii, low, high => (low ≤ 0x5a && 0x41 ≤ high) || (low ≤ 0x7a && 0x61 ≤ high)
  | unicode, low, high => Text.hasCaseBetween low high

/-- The letters that a small letter is the small letter of, and those of its twins. -/
def family : Folding → Char → Text
  | none, c => [c]
  | ascii, c => [c, c.toUpper].filter fun d => d.toLower == c
  | unicode, c => (c :: Text.twinsOf c).flatMap Text.lettersOf

end Folding

/-- Whether a character is the one that a pattern asks for. -/
def isSameChar (f : Folding) (wanted c : Char) : Bool :=
  if !f.hasCase wanted then c == wanted
  else
    let small := f.small wanted
    let found := f.small c
    found == small || (f == .unicode && (Text.twinsOf small).contains found)

def CharClass.contains (ascii : Bool) (c : Char) : CharClass → Bool
  | digit => if ascii then Text.isDigit c else (Text.decimalValue? c).isSome
  | space => if ascii then Text.isAsciiSpace c else Text.isSpace c
  | word => if ascii then Text.isAsciiWord c else Text.isWord c

/-- The first code that takes two units of UTF-16. -/
def beyondBasic : Nat := 0x10000

/-- Whether a code is that of a character between two. -/
def isBetween (low high c : Char) : Bool :=
  Text.codeOf low ≤ Text.codeOf c && Text.codeOf c ≤ Text.codeOf high

namespace Member

/-- Whether a member makes case not matter in its set. -/
def isFolded (f : Folding) : Member → Bool
  | char c => f != .none && (f.hasCase c || beyondBasic ≤ Text.codeOf c)
  | range low high => f != .none &&
    (f.hasCaseBetween (Text.codeOf low) (Text.codeOf high) || beyondBasic ≤ Text.codeOf high)
  | ofClass _ _ => false

/-- Whether a character is a member. `family` has the characters that are the same as it. -/
def contains (ascii : Bool) (f : Folding) (family : Text) (c : Char) : Member → Bool
  | char d => c == d || (Text.codeOf d < beyondBasic && family.contains d)
  | range low high => isBetween low high c ||
    (family.any fun d => Text.codeOf d < beyondBasic && isBetween low high d) ||
    (f != .none && beyondBasic ≤ Text.codeOf high && (Text.capitalsOf c).head?.any (isBetween low high))
  | ofClass k negated => negated != k.contains ascii c

end Member

namespace CharSet

/-- Whether case does not matter in a set. -/
def isFolded (flags : Flags) (s : CharSet) : Bool := s.members.any (·.isFolded flags.folding)

/-- Whether a set holds a character. Where case does not matter, that is asked of the small
letter. -/
def contains (flags : Flags) (isFolded : Bool) (s : CharSet) (c : Char) : Bool :=
  if isFolded then
    let f := flags.folding
    let c := f.small c
    let family := f.family c
    s.negated != s.members.any fun m => m.contains flags.ascii f family c
  else s.negated != s.members.any fun m => m.contains flags.ascii .none [] c

end CharSet

end YamlStyle.Regex
