import YamlStyle.Regex.CharSet

/-!
# What patterns match

A pattern is a function of a place in a text and of what is to match after it. Alternatives are
tried in order, so that a greedy repetition takes as much as it can and gives back what it must.
-/

namespace YamlStyle.Regex

/-- Where a group began and ended when it was last gone through; it may have begun again since. -/
structure Span where
  number : Nat
  start : Nat
  stop : Option Nat
  deriving DecidableEq, Repr

/-- A place in a text, and the groups gone through before it. -/
structure Place where
  offset : Nat
  spans : List Span
  deriving DecidableEq, Repr

namespace Place

def span? (p : Place) (number : Nat) : Option Span := p.spans.find? (·.number == number)

/-- Notes that a group begins. -/
def enter (number : Nat) (p : Place) : Place :=
  let stop := (p.span? number).bind (·.stop)
  { p with spans := ⟨number, p.offset, stop⟩ :: p.spans.filter (·.number != number) }

/-- Notes that a group ends. -/
def leave (number : Nat) (p : Place) : Place :=
  { p with spans := p.spans.map fun s =>
      if s.number == number then { s with stop := some p.offset } else s }

/-- Where the last match of a group began and ended. A group that has begun after its last end
has none. -/
def bounds? (p : Place) (number : Nat) : Option (Nat × Nat) := do
  let s ← p.span? number
  let stop ← s.stop
  if s.start ≤ stop then some (s.start, stop) else none

/-- What a group has matched. -/
def group? (p : Place) (t : Text) (number : Nat) : Option Text :=
  (p.bounds? number).map fun (start, stop) => t.slice start stop

end Place

/-- A text to look for matches in. -/
abbrev Subject := Array Char

namespace Subject

def isWordAt (t : Subject) (ascii : Bool) (offset : Nat) : Bool :=
  (t[offset]?).any (CharClass.word.contains ascii)

/-- Whether a boundary is at an offset. In a text without characters there are no words, and
nothing is said of their boundaries. -/
def isAt (t : Subject) (flags : Flags) (b : Boundary) (offset : Nat) : Bool :=
  let afterBreak := offset == 0 || t[offset - 1]? == some '\n'
  match b with
  | .textStart => offset == 0
  | .textStop => offset == t.size
  | .start => if flags.multiline then afterBreak else offset == 0
  | .stop =>
    if flags.multiline then offset == t.size || t[offset]? == some '\n'
    else offset == t.size || (offset + 1 == t.size && t[offset]? == some '\n')
  | .word negated =>
    let before := offset != 0 && t.isWordAt flags.ascii (offset - 1)
    t.size != 0 && negated != (before != t.isWordAt flags.ascii offset)

/-- Whether `count` characters from one offset on are the same as those from another on. -/
def agree (t : Subject) (f : Folding) (a b : Nat) : Nat → Bool
  | 0 => true
  | count + 1 =>
    match t[a]?, t[b]? with
    | some c, some d => f.small c == f.small d && agree t f (a + 1) (b + 1) count
    | _, _ => false

end Subject

/-- Finds a way to match at a place and go on after it. -/
abbrev Matcher := Place → (Place → Option Place) → Option Place

namespace Matcher

def nothing : Matcher := fun p k => k p

/-- One character that satisfies `p`. -/
def one (t : Subject) (isWanted : Char → Bool) : Matcher := fun p k =>
  match t[p.offset]? with
  | some c => if isWanted c then k { p with offset := p.offset + 1 } else none
  | none => none

/-- The first way to match, whatever follows. -/
def first (m : Matcher) : Matcher := fun p k => (m p some).bind k

/-- Exactly `n` times. -/
def times (m : Matcher) : Nat → Matcher
  | 0 => nothing
  | n + 1 => fun p k => m p fun p => times m n p k

/-- At most as often as the number says, a match of nothing being the last. -/
def atMost (m : Matcher) (isLazy : Bool) : Nat → Matcher
  | 0 => nothing
  | n + 1 => fun p k =>
    let more (_ : Unit) : Option Place := m p fun q =>
      if q.offset == p.offset then k q else atMost m isLazy n q k
    if isLazy then k p <|> more () else more () <|> k p

end Matcher

/-- How often something that may be repeated at most `most` times after the first `least` is
worth trying where `rest` characters are left. -/
def furtherTries (least : Nat) (most : Option Nat) (rest : Nat) : Nat :=
  match most with
  | some most => min (most - least) (rest + 1)
  | none => rest + 1

def matcher (t : Subject) (flags : Flags) : Regex → Matcher
  | empty => .nothing
  | char c negated => .one t fun d => negated != isSameChar flags.folding c d
  | any => .one t fun c => flags.dotAll || c != '\n'
  | oneOf s => .one t (s.contains flags (s.isFolded flags))
  | boundary b => fun p k => if t.isAt flags b p.offset then k p else none
  | seq a b => fun p k => a.matcher t flags p fun p => b.matcher t flags p k
  | alt a b => fun p k => a.matcher t flags p k <|> b.matcher t flags p k
  | repetition least most greed r =>
    let m := r.matcher t flags
    let m := if greed == .possessive then m.first else m
    let all : Matcher := fun p k => m.times least p fun p =>
      m.atMost (greed == .lazy) (furtherTries least most (t.size - p.offset)) p k
    if greed == .possessive then all.first else all
  | group number r => fun p k =>
    r.matcher t flags (p.enter number) fun p => k (p.leave number)
  | part scope r => r.matcher t (scope.apply flags)
  | atomic r => (r.matcher t flags).first
  | same number _ => fun p k =>
    match p.bounds? number with
    | some (start, stop) =>
      if t.agree flags.folding start p.offset (stop - start) then
        k { p with offset := p.offset + (stop - start) }
      else none
    | none => none
  | ifGroup number matched missing => fun p k =>
    if (p.bounds? number).isSome then matched.matcher t flags p k
    else missing.matcher t flags p k
  | look behind negated r => fun p k =>
    let back := if behind then r.width.least else 0
    let found :=
      if back ≤ p.offset then r.matcher t flags { p with offset := p.offset - back } some
      else none
    match negated, found with
    | false, some q => k { p with spans := q.spans }
    | true, none => k p
    | _, _ => none

/-- A pattern and the flags for the whole of it. -/
structure Pattern where
  flags : Flags
  regex : Regex
  deriving DecidableEq, Repr

namespace Pattern

/-- Whether a pattern matches at one of `count` places from an offset on. -/
def matchesFrom (p : Pattern) (t : Subject) (offset : Nat) : Nat → Bool
  | 0 => false
  | count + 1 =>
    (p.regex.matcher t p.flags ⟨offset, []⟩ some).isSome || p.matchesFrom t (offset + 1) count

/-- Whether a pattern matches somewhere in a text. -/
def isIn (p : Pattern) (t : Text) : Bool := p.matchesFrom t.toArray 0 (t.length + 1)

/-- The match at an offset, by the place where it stops. -/
def at? (p : Pattern) (t : Subject) (offset : Nat) : Option Place := p.regex.matcher t p.flags ⟨offset, []⟩ some

/-- The matches at the `count` places from an offset on that no match before them has passed, for a pattern that
does not match nothing. -/
def allFrom (p : Pattern) (t : Subject) (offset : Nat) : Nat → List Place
  | 0 => []
  | count + 1 =>
    match p.at? t offset with
    | some q => q :: p.allFrom t q.offset count
    | none => p.allFrom t (offset + 1) count

/-- What a group has matched in each of the matches in a text. -/
def groups (p : Pattern) (number : Nat) (t : Text) : List Text :=
  (p.allFrom t.toArray 0 (t.length + 1)).filterMap (·.group? t number)

end Pattern

end YamlStyle.Regex
