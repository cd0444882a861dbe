import YamlStyle.Yaml.Directive

/-!
# Scalars

Plain, quoted and block scalars, from their first character on. Line breaks inside a scalar are
folded: a single one stands for a space, and of several the first is dropped.
-/

namespace YamlStyle.Yaml.Lex

open Text (isHexDigit numberIn)

/-- What a break and the further breaks after it stand for. -/
def folded (first : Option Char) (further : Text) : Text :=
  match first with
  | some '\n' => if further.isEmpty then [' '] else further
  | some c => c :: further
  | none => further

/-! ## Quoted scalars -/

/-- Further breaks inside quotes, with the blanks at the starts of their lines left out. -/
def quotedBreaks (start : Mark) : Nat → Text → Lex Text
  | 0, read => return read
  | fuel + 1, read => do
    if (← get).atSeparator then fail .quotedScalar start .separatorInQuotes
    let _ ← span fun c => c == ' ' || c == '\t'
    match ← lineBreak with
    | some c => quotedBreaks start fuel (read ++ [c])
    | none => return read

/-- Blanks and breaks between the words of a quoted scalar. -/
def quotedSpaces (start : Mark) : Lex Text := do
  let blanks ← span fun c => c == ' ' || c == '\t'
  if (← peek).isNone then fail .quotedScalar start .endInQuotes
  match ← lineBreak with
  | some c => return folded (some c) (← quotedBreaks start ((← get).rest.length + 1) [])
  | none => return blanks

/-- The character that a one-letter escape stands for. -/
def escapedChar? : Char → Option Char
  | '0' => some '\x00'
  | 'a' => some '\x07'
  | 'b' => some '\x08'
  | 't' | '\t' => some '\t'
  | 'n' => some '\n'
  | 'v' => some '\x0b'
  | 'f' => some '\x0c'
  | 'r' => some '\r'
  | 'e' => some '\x1b'
  | ' ' => some ' '
  | '"' => some '"'
  | '/' => some '/'
  | '\\' => some '\\'
  | 'N' => some '\x85'
  | '_' => some '\xa0'
  | 'L' => some '\u2028'
  | 'P' => some '\u2029'
  | _ => none

/-- How many hexadecimal digits follow the letter of a numeric escape. -/
def escapeWidth? : Char → Option Nat
  | 'x' => some 2
  | 'u' => some 4
  | 'U' => some 8
  | _ => none

/-- The character of an escape. -/
def charOfCode (n : Nat) : Except Failure Char :=
  if 0x80000000 ≤ n then .error .escapeBeyondWord
  else if 0x110000 ≤ n then .error .escapeBeyondUnicode
  else .ok (Text.ofCode n)

/-- An escape, its backslash read. -/
def escape (start : Mark) : Lex Text := do
  let c ← get
  match c.peek.bind escapedChar?, c.peek.bind escapeWidth? with
  | some ch, _ =>
    advance 1
    return [ch]
  | none, some width =>
    advance 1
    let c ← get
    match ((List.range width).map c.peekAt).find? fun d => !(d.map isHexDigit).getD false with
    | some found => fail .doubleQuoted start (.expectedEscapeDigits width found)
    | none =>
      let ch ← charOfCode (numberIn 16 (c.rest.take width))
      advance width
      return [ch]
  | none, none =>
    match ← lineBreak with
    | some _ => quotedBreaks start ((← get).rest.length + 1) []
    | none => fail .doubleQuoted start (.unknownEscape c.peek)

def isQuotedWordChar (c : Char) : Bool :=
  !(isBreak c || " '\"\\\t".toList.contains c)

/-- A run inside quotes without blanks or breaks, but with escapes. -/
def quotedWord (double : Bool) (start : Mark) : Nat → Text → Lex Text
  | 0, read => return read
  | fuel + 1, read => do
    let read := read ++ (← span isQuotedWordChar)
    let c ← get
    match double, c.peek with
    | false, some '\'' =>
      if c.peekAt 1 == some '\'' then
        advance 2
        quotedWord double start fuel (read ++ ['\''])
      else return read
    | true, some '\'' =>
      advance 1
      quotedWord double start fuel (read ++ ['\''])
    | false, some '"' =>
      advance 1
      quotedWord double start fuel (read ++ ['"'])
    | false, some '\\' =>
      advance 1
      quotedWord double start fuel (read ++ ['\\'])
    | true, some '\\' =>
      advance 1
      quotedWord double start fuel (read ++ (← escape start))
    | _, _ => return read

/-- Words and spaces up to the closing quote. -/
def quotedRest (double : Bool) (start : Mark) : Nat → Text → Lex Text
  | 0, read => return read
  | fuel + 1, read => do
    if (← peek) == some (if double then '"' else '\'') then return read
    let spaces ← quotedSpaces start
    let word ← quotedWord double start ((← get).rest.length + 1) []
    quotedRest double start fuel (read ++ spaces ++ word)

/-- A quoted scalar, from its first quote through its last. -/
def quotedScalar (double : Bool) : Lex String := do
  let start ← mark
  advance 1
  let first ← quotedWord double start ((← get).rest.length + 1) []
  let read ← quotedRest double start ((← get).rest.length + 1) first
  advance 1
  return String.ofList read

/-! ## Plain scalars -/

/-- Where a plain scalar stands. -/
structure PlainPlace where
  inFlow : Bool
  version : Version
  /-- The column below which a line of the scalar may not start. -/
  column : Int

/-- Whether a plain scalar goes on with `c`, which `following` follows. -/
def continuesPlain (place : PlainPlace) (c : Char) (following : Option Char) : Bool :=
  if c == ':' && !endsWord following then true
  else if c == '?' && place.version != .v1_1 then true
  else
    !(endsWord (some c) || (!place.inFlow && c == ':') ||
      (place.inFlow && ",:?[]\x7b\x7d".toList.contains c))

/-- The leading characters with which a plain scalar goes on. -/
def plainWord (place : PlainPlace) : Text → Text
  | [] => []
  | c :: r => if continuesPlain place c r.head? then c :: plainWord place r else []

/-- Breaks after the first, with the spaces at the starts of their lines left out; none where a
document marker stops them. -/
def plainBreaks : Nat → Text → Lex (Option Text)
  | 0, read => return some read
  | fuel + 1, read => do
    let _ ← span (· == ' ')
    match ← lineBreak with
    | some c => if (← get).atSeparator then return none else plainBreaks fuel (read ++ [c])
    | none => return some read

/-- The gap after a word of a plain scalar: what it stands for, if the scalar may go on after it,
and whether it held a break. -/
def plainSpaces : Lex (Option Text × Bool) := do
  let blanks ← span (· == ' ')
  match ← lineBreak with
  | some c =>
    if (← get).atSeparator then return (none, true)
    let further ← plainBreaks ((← get).rest.length + 1) []
    return (further.map (folded (some c)), true)
  | none => return (if blanks.isEmpty then none else some blanks, false)

/-- What has been read of a plain scalar. -/
structure PlainRead where
  text : Text
  stop : Mark
  /-- Whether the gap after the last word held a break. -/
  afterBreak : Bool

/-- Words and gaps of a plain scalar; `gap` stands before the next word. -/
def plainRest (place : PlainPlace) : Nat → Text → PlainRead → Lex PlainRead
  | 0, _, read => return read
  | fuel + 1, gap, read => do
    let c ← get
    let word := plainWord place c.rest
    if c.peek == some '#' || word.isEmpty then return read
    advance word.length
    let stop ← mark
    let (spaces, afterBreak) ← plainSpaces
    let read : PlainRead := ⟨read.text ++ gap ++ word, stop, afterBreak⟩
    match spaces with
    | none => return read
    | some spaces =>
      let c ← get
      if c.peek == some '#' || (!place.inFlow && c.mark.column < place.column) then return read
      plainRest place fuel spaces read

def plainScalar (place : PlainPlace) : Lex PlainRead := do
  plainRest place ((← get).rest.length + 1) [] ⟨[], ← mark, false⟩

/-! ## Block scalars -/

/-- What happens to the line breaks at the end of a block scalar. -/
inductive Chomping where
  | clip | strip | keep
  deriving DecidableEq, Repr

def chomping : Lex Chomping := do
  match ← peek with
  | some '+' => advance 1; return .keep
  | some '-' => advance 1; return .strip
  | _ => return .clip

def indentationIndicator (start : Mark) : Lex (Option Nat) := do
  match ← peek with
  | some c =>
    if Text.isDigit c then
      if c == '0' then fail .blockScalar start .zeroIndentation
      advance 1
      return some (Text.hexValue c)
    else return none
  | none => return none

/-- The indicators after `|` or `>`, in either order. -/
def blockIndicators (start : Mark) : Lex (Chomping × Option Nat) := do
  let found ←
    match ← chomping with
    | .clip =>
      let indent ← indentationIndicator start
      let chomp ← if indent.isSome then chomping else pure .clip
      pure (chomp, indent)
    | chomp => pure (chomp, ← indentationIndicator start)
  if !endsName (← peek) then fail .blockScalar start (.expectedBlockIndicator (← peek))
  return found

/-- The lines before the first that is not blank. -/
structure LeadingLines where
  breaks : Text
  /-- The deepest column that spaces reached. -/
  deepest : Nat
  stop : Mark
  /-- The column at which the first blank line broke. -/
  firstColumn : Option Nat

/-- Skips leading blank lines, spaces included. -/
def leadingLines : Nat → LeadingLines → Lex LeadingLines
  | 0, seen => return seen
  | fuel + 1, seen => do
    let c ← get
    if c.peek == some ' ' then
      advance 1
      leadingLines fuel { seen with deepest := max seen.deepest (← mark).column }
    else
      match ← lineBreak with
      | some ch =>
        leadingLines fuel
          { seen with
            breaks := seen.breaks ++ [ch]
            stop := ← mark
            firstColumn := some (seen.firstColumn.getD c.mark.column) }
      | none => return seen

/-- Skips spaces up to a column. -/
def skipToColumn (column : Nat) : Lex Unit := do
  let c ← get
  advance (min (column - c.mark.column) (c.rest.takeWhile (· == ' ')).length)

/-- Blank lines of a block scalar, and the mark after the last break. -/
def blockBreaks (indent : Nat) : Nat → Text → Mark → Lex (Text × Mark)
  | 0, read, stop => return (read, stop)
  | fuel + 1, read, stop => do
    match ← lineBreak with
    | some c =>
      let stop ← mark
      skipToColumn indent
      blockBreaks indent fuel (read ++ [c]) stop
    | none => return (read, stop)

/-- What has been read of a block scalar: its text, the break that ended its last line, the
breaks of the blank lines after that, and the mark after the last break. -/
structure BlockRead where
  text : Text
  lastBreak : Option Char
  breaks : Text
  stop : Mark

/-- The lines of a block scalar at column `indent`. -/
def blockLines (isFolded atTop : Bool) (indent : Nat) : Nat → BlockRead → Lex BlockRead
  | 0, read => return read
  | fuel + 1, read => do
    let c ← get
    if c.mark.column != indent || c.peek.isNone then return read
    let starts (c : Cursor) : Bool := c.peek != some ' ' && c.peek != some '\t'
    let line ← span (!isBreak ·)
    let lastBreak ← lineBreak
    let afterBreak ← mark
    skipToColumn indent
    let (breaks, stop) ← blockBreaks indent ((← get).rest.length + 1) [] afterBreak
    let text := read.text ++ read.breaks ++ line
    let c' ← get
    let marker := atTop && c'.mark.column == 0 && c'.atSeparator
    if marker || c'.mark.column != indent || c'.peek.isNone then
      return ⟨text, lastBreak, breaks, stop⟩
    let joint :=
      if isFolded && lastBreak == some '\n' && starts c && starts c' then
        if breaks.isEmpty then [' '] else []
      else lastBreak.toList
    blockLines isFolded atTop indent fuel ⟨text ++ joint, lastBreak, breaks, stop⟩

/-- A block scalar, from its indicator on. `parent` is the indentation of the collection around
it. The result is the value, the mark after the last break read, and whether blank lines were
left off the value. -/
def blockScalar (isFolded : Bool) (parent : Int) : Lex (String × Mark × Bool) := do
  let start ← mark
  advance 1
  let (chomp, indicator) ← blockIndicators start
  restOfLine .blockScalar start
  let least := (parent + 1).toNat
  let (indent, first) ←
    match indicator with
    | none =>
      let seen ← leadingLines ((← get).rest.length + 1) ⟨[], 0, ← mark, none⟩
      match seen.firstColumn with
      | some column =>
        if 0 < column && column < seen.deepest then
          throw (.fault ⟨some .deeperFollowUp, some (← mark), none, none⟩)
      | none => pure ()
      pure (max least seen.deepest, BlockRead.mk [] none seen.breaks seen.stop)
    | some n =>
      let indent := max 1 least + n - 1
      let headEnd ← mark
      skipToColumn indent
      let (breaks, stop) ← blockBreaks indent ((← get).rest.length + 1) [] headEnd
      pure (indent, BlockRead.mk [] none breaks stop)
  let atTop := indicator.isNone && least == 0
  let read ← blockLines isFolded atTop indent ((← get).rest.length + 1) first
  let value :=
    match chomp with
    | .strip => read.text
    | .clip => read.text ++ read.lastBreak.toList
    | .keep => read.text ++ read.lastBreak.toList ++ read.breaks
  return (String.ofList value, read.stop, chomp != .keep && !read.breaks.isEmpty)

end YamlStyle.Yaml.Lex
