import YamlStyle.Lexeme.Basic

/-!
# The elements of a text

What rules are fed with: the lexemes of a text, the comments in the gaps between them, and the
physical lines. An element comes before the line it stands on, so that each line is the last
element of its line.
-/

namespace YamlStyle

/-- A lexeme with its neighbours. -/
structure Window where
  prev : Option Lexeme
  curr : Lexeme
  next : Option Lexeme
  nextnext : Option Lexeme
  deriving DecidableEq, Repr

/-- The windows onto each lexeme of a list that follows `prev`. -/
def Window.slide (prev : Option Lexeme) : List Lexeme → List Window
  | [] => []
  | x :: xs => ⟨prev, x, xs[0]?, xs[1]?⟩ :: slide (some x) xs

/-- The place of a comment: its line and column from one, and its offset. -/
structure Comment.Place where
  line : Nat
  column : Nat
  offset : Nat
  deriving DecidableEq, Repr

/-- A comment in the gap between two lexemes, and the place of the comment before it there. -/
structure Comment extends Comment.Place where
  before : Lexeme
  after : Option Lexeme
  previous : Option Comment.Place
  deriving DecidableEq, Repr

namespace Comment

/-- The text that starts at an offset and stops at the end of the line. -/
def textAt (t : Text) (offset : Nat) : Text :=
  (t.drop offset).takeWhile fun c => c != '\x00' && c != '\r' && c != '\n'

def text (t : Text) (c : Comment) : Text := textAt t c.offset

/-- Whether a comment at a place shares the line with the lexeme before it. A block scalar ends
after its last line feed, so what follows is on another line. -/
def Place.isInlineAfter (t : Text) (before : Lexeme) (p : Place) : Bool :=
  before.kind != .streamStart && p.line == before.stop.line + 1 &&
    t.before? before.stop.offset != some '\n'

def isInline (t : Text) (c : Comment) : Bool := c.toPlace.isInlineAfter t c.before

/-- Whether the comment says the same at the same line and column as the one before it. -/
def repeatsPrevious (t : Text) (c : Comment) : Bool :=
  c.previous.any fun p =>
    p.line == c.line && p.column == c.column && textAt t p.offset == c.text t

/-- The places of the comments in consecutive lines, the first of which begins at `p`. -/
def placesIn (p : Place) : List Text → List Place
  | [] => []
  | segment :: segments =>
    let rest := placesIn ⟨p.line + 1, 1, p.offset + segment.length + 1⟩ segments
    match segment.findIdx? (· == '#') with
    | some i => ⟨p.line, p.column + i, p.offset + i⟩ :: rest
    | none => rest

/-- Gives each place the one before it. -/
def chain (before : Lexeme) (after : Option Lexeme) (previous : Option Place) :
    List Place → List Comment
  | [] => []
  | p :: ps => ⟨p, before, after, previous⟩ :: chain before after (some p) ps

/-- The text between two lexemes. Two lexemes on one line have no gap, except at the start and
the end of the stream. -/
def gap (t : Text) (before : Lexeme) (after : Option Lexeme) : Option Text :=
  match after with
  | none => some (t.drop before.stop.offset)
  | some after =>
    if before.stop.line == after.start.line && before.kind != .streamStart &&
        after.kind != .streamEnd then none
    else some (t.slice before.stop.offset after.start.offset)

/-- The comments between two consecutive lexemes, at most one on each line. -/
def between (t : Text) (before : Lexeme) (after : Option Lexeme) : List Comment :=
  match gap t before after with
  | none => []
  | some gap =>
    let start : Place := ⟨before.stop.line + 1, before.stop.column + 1, before.stop.offset⟩
    chain before after none (placesIn start (gap.splitOn '\n'))

end Comment

inductive Element where
  | lexeme (w : Window)
  | comment (c : Comment)
  | line (l : Line)
  deriving DecidableEq, Repr

namespace Element

/-- The number of the line on which an element starts. -/
def lineNumber : Element → Nat
  | lexeme w => w.curr.start.line + 1
  | comment c => c.line
  | line l => l.number

/-- Each lexeme, followed by the comments in the gap after it. -/
def ofWindows (t : Text) (ws : List Window) : List Element :=
  ws.flatMap fun w => lexeme w :: (Comment.between t w.curr w.next).map comment

/-- The elements of a text with the given lexemes, by line. -/
def ofLexemes (t : Text) (xs : List Lexeme) : List Element :=
  (ofWindows t (Window.slide none xs)).merge ((Line.ofText t).map line) fun a b =>
    a.lineNumber ≤ b.lineNumber

end Element

end YamlStyle
