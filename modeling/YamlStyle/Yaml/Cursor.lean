import YamlStyle.Yaml.Fault

/-!
# Reading a text

A cursor is what is left of a text and the mark reached. A line feed starts a new line, and so
does a return that no line feed follows; a byte order mark takes no column.
-/

namespace YamlStyle.Yaml

/-- A line break that stands for a line feed. -/
def isLineEnd (c : Char) : Bool := c == '\n' || c == '\r' || c == '\x85'

/-- What can be read as a line break. -/
def isBreak (c : Char) : Bool := isLineEnd c || c == '\u2028' || c == '\u2029'

/-- A line break, or the end of the text. -/
def endsLine : Option Char → Bool
  | none => true
  | some c => isBreak c

/-- A space, a tab, a line break, or the end of the text. -/
def endsWord : Option Char → Bool
  | none => true
  | some c => c == ' ' || c == '\t' || isBreak c

/-- A space, a line break, or the end of the text. -/
def endsName : Option Char → Bool
  | none => true
  | some c => c == ' ' || isBreak c

def isWordChar (c : Char) : Bool := Text.isDigit c || Text.isAsciiLetter c || c == '-' || c == '_'

/-- The mark after `c`, given the character that follows it. -/
def advanceMark (m : Mark) (c : Char) (following : Option Char) : Mark :=
  if c == '\n' || (c == '\r' && following != some '\n') then ⟨m.line + 1, 0, m.offset + 1⟩
  else if c == '\ufeff' then ⟨m.line, m.column, m.offset + 1⟩
  else ⟨m.line, m.column + 1, m.offset + 1⟩

structure Cursor where
  rest : Text
  mark : Mark
  deriving Repr

namespace Cursor

def ofText (t : Text) : Cursor := ⟨t, ⟨0, 0, 0⟩⟩

def peek (c : Cursor) : Option Char := c.rest.head?

def peekAt (c : Cursor) (k : Nat) : Option Char := c.rest[k]?

def next : Cursor → Cursor
  | ⟨[], m⟩ => ⟨[], m⟩
  | ⟨ch :: r, m⟩ => ⟨r, advanceMark m ch r.head?⟩

def skip : Nat → Cursor → Cursor
  | 0, c => c
  | n + 1, c => skip n c.next

/-- The characters that satisfy `p`, and the cursor after them. -/
def span (p : Char → Bool) (c : Cursor) : Text × Cursor :=
  let taken := c.rest.takeWhile p
  (taken, c.skip taken.length)

/-- A document marker at the start of the rest: three of `ch`, then a blank or an end. -/
def atMarker (c : Cursor) (ch : Char) : Bool :=
  c.rest.take 3 == [ch, ch, ch] && endsWord (c.peekAt 3)

/-- Either document marker. -/
def atSeparator (c : Cursor) : Bool := c.atMarker '-' || c.atMarker '.'

/-- Reads a line break, if one is next, and says what it stands for: a line feed, or one of the
separators of lines and of paragraphs, which stand for themselves. -/
def lineBreak (c : Cursor) : Option Char × Cursor :=
  match c.rest with
  | '\r' :: '\n' :: _ => (some '\n', c.skip 2)
  | ch :: _ =>
    if isLineEnd ch then (some '\n', c.next)
    else if isBreak ch then (some ch, c.next)
    else (none, c)
  | [] => (none, c)

end Cursor

/-- A reader of lexical units. -/
abbrev Lex := StateT Cursor (Except Failure)

namespace Lex

def mark : Lex Mark := do return (← get).mark

def peek : Lex (Option Char) := do return (← get).peek

def advance (n : Nat) : Lex Unit := modify (Cursor.skip n)

def span (p : Char → Bool) : Lex Text := modifyGet (Cursor.span p)

def lineBreak : Lex (Option Char) := modifyGet Cursor.lineBreak

/-- Stops at the current place. -/
def fail {α : Type} (context : Context) (start : Mark) (cause : Cause) : Lex α := do
  throw (.fault ⟨some context, some start, some cause, some (← mark)⟩)

end Lex

end YamlStyle.Yaml
