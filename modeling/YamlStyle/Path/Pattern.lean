import YamlStyle.Text.Basic
import YamlStyle.Text.Quoted

/-!
# Patterns of paths

Lines of patterns, and the globs that stand for single segments.
-/

/-!
## Globs

Patterns for one segment of a path: a star for any characters, a question mark for one, and sets
in brackets. A bracket that is not closed stands for itself.
-/

namespace YamlStyle

/-- A member of a set: the characters from `low` to `high`, of which there may be none. -/
structure Glob.Range where
  low : Char
  high : Char
  deriving DecidableEq, Repr

inductive Glob.Item where
  | char (c : Char)
  | any
  | star
  | set (negated : Bool) (ranges : List Glob.Range)
  deriving DecidableEq, Repr

abbrev Glob := List Glob.Item

namespace Glob

/-- The members of a set: single characters, and ranges around a hyphen. -/
def ranges : Text → List Range
  | a :: '-' :: b :: r => ⟨a, b⟩ :: ranges r
  | c :: r => ⟨c, c⟩ :: ranges r
  | [] => []

/-- The body of a set and the text after its closing bracket. A bracket that comes first, or
right after the bang, does not close the set. -/
def body? (t : Text) : Option (Text × Text) :=
  let bang := t.takeWhile (· == '!') |>.take 1
  let rest := t.drop bang.length
  let first := rest.takeWhile (· == ']') |>.take 1
  let tail := rest.drop first.length
  let inner := tail.takeWhile (· != ']')
  if inner.length < tail.length then
    some (bang ++ first ++ inner, tail.drop (inner.length + 1))
  else none

/-- The body of a set without the ranges of no character that it starts with. -/
def skipEmpty : Text → Text
  | a :: '-' :: b :: r => if b < a then skipEmpty r else a :: '-' :: b :: r
  | t => t

/-- The set with a body. A bang in front negates it, also one that is in front only because
ranges of no character are left out; the hyphen of a range it begins stands for itself then. -/
def setOf : Text → Item
  | '!' :: r => .set true (ranges r)
  | t =>
    match skipEmpty t with
    | '!' :: '-' :: b :: r => .set true (⟨'-', '-'⟩ :: ⟨b, b⟩ :: ranges r)
    | '!' :: r => .set true (ranges r)
    | t => .set false (ranges t)

/-- Reads a glob. `fuel` is at least the length of the text. -/
def read : Nat → Text → Glob
  | 0, _ => []
  | _ + 1, [] => []
  | fuel + 1, '*' :: r => .star :: read fuel (r.dropWhile (· == '*'))
  | fuel + 1, '?' :: r => .any :: read fuel r
  | fuel + 1, '[' :: r =>
    match body? r with
    | some (body, rest) => setOf body :: read fuel rest
    | none => .char '[' :: read fuel r
  | fuel + 1, c :: r => .char c :: read fuel r

def ofText (t : Text) : Glob := read t.length t

def Item.accepts (c : Char) : Item → Bool
  | char d => c == d
  | any | star => true
  | set negated ranges => negated != ranges.any fun r => r.low ≤ c && c ≤ r.high

/-- Whether some end of a text satisfies `p`. -/
def anyEnd (p : Text → Bool) : Text → Bool
  | [] => p []
  | c :: r => p (c :: r) || anyEnd p r

def isMatch : Glob → Text → Bool
  | [], t => t.isEmpty
  | .star :: g, t => anyEnd (isMatch g) t
  | _ :: _, [] => false
  | item :: g, c :: r => item.accepts c && isMatch g r

end Glob

end YamlStyle

/-!
## Path patterns

Lines that name paths, one segment at a time. A line without a slash, other than a last one,
names a segment anywhere; other lines start at the root, unless they start with `**/`. A last
slash asks for a directory, and a directory stands for all that is below it. Of several lines the
last one that matches decides, and a line with a bang takes back what earlier lines say.
-/

namespace YamlStyle

structure PathPattern where
  pattern : Text
  negated : Bool
  directoryOnly : Bool
  anchored : Bool
  deriving DecidableEq, Repr

namespace PathPattern

/-- The path without leading `./`. -/
def dropDots : Text → Text
  | '.' :: '/' :: r => dropDots r
  | t => t

/-- A path with forward slashes only, and without leading `./`. -/
def normalize (path : Text) : Text := dropDots (path.map fun c => if c == '\\' then '/' else c)

/-- The pattern that a line stands for; none for blank lines and comments. -/
def ofLine? (line : Text) : Option PathPattern :=
  let line := Text.trimEnd Text.isSpace line
  if line.head?.all (· == '#') then none
  else
    let negated := line.head? == some '!'
    let body := if negated then line.drop 1 else line
    let directoryOnly := body.getLast? == some '/'
    let body := Text.trimEnd (· == '/') body
    let floating := body.take 3 == "**/".toList
    let body := if floating then body.drop 3 else body
    let pattern := body.dropWhile (· == '/')
    if pattern.isEmpty then none
    else some ⟨pattern, negated, directoryOnly, body.contains '/' && !floating⟩

/-- How many leading parts of a path each way of matching the segments takes. `**` takes any
number of parts, every other segment takes one. -/
def consumed : List Text → List Text → List Nat
  | [], _ => [0]
  | head :: segments, parts =>
    if head == "**".toList then
      (List.range (parts.length + 1)).flatMap fun skipped =>
        (consumed segments (parts.drop skipped)).map (skipped + ·)
    else
      match parts with
      | [] => []
      | part :: rest =>
        if (Glob.ofText head).isMatch part then (consumed segments rest).map (1 + ·) else []

/-- Whether a pattern names a path or a directory above it. -/
def isMatch (p : PathPattern) (path : Text) : Bool :=
  let parts := (Text.trim (· == '/') (normalize path)).splitOn '/'
  let starts := if p.anchored then [0] else List.range parts.length
  starts.any fun start =>
    (consumed (p.pattern.splitOn '/') (parts.drop start)).any fun used =>
      !p.directoryOnly || start + used < parts.length

end PathPattern

/-- Patterns in order. -/
abbrev PathPatterns := List PathPattern

namespace PathPatterns

def ofLines (lines : List Text) : PathPatterns := lines.filterMap PathPattern.ofLine?

/-- Whether the last pattern that names a path includes it. -/
def isMatch (ps : PathPatterns) (path : Text) : Bool :=
  ps.foldl (fun found p => if p.isMatch path then !p.negated else found) false

/-- Patterns as messages show them. -/
def shown (ps : PathPatterns) : String :=
  "PathPatterns([" ++ ", ".intercalate (ps.map fun p => Text.quoted p.pattern) ++ "])"

end PathPatterns

end YamlStyle
