import YamlStyle.Rule.Basic

/-!
# Indentation

A rule that keeps a stack of frames, one for each open level, and compares the column of the
first lexeme of each line with the indentation that the innermost frame expects.
-/

namespace YamlStyle.Rule.Indentation

/-- The step from one level to the next: known, or to be taken from the first nested level. -/
inductive Step where
  | columns (n : Int)
  | consistent
  deriving DecidableEq, Repr

/-- Whether block sequences are deeper than the mapping around them. -/
inductive Sequences where
  | indented
  | notIndented
  /-- Either. -/
  | whatever
  /-- As the first one is. -/
  | consistent
  deriving DecidableEq, Repr

structure Options where
  step : Step
  sequences : Sequences
  checkMultiLine : Bool
  deriving Repr

def specs : List OptionSpec :=
  [⟨"spaces", .oneOf [.anyOf .int, .text "consistent"], .text "consistent"⟩,
   ⟨"indent-sequences", .oneOf [.anyOf .bool, .text "whatever", .text "consistent"], .bool true⟩,
   ⟨"check-multi-line-strings", .ofType .bool, .bool false⟩]

def Step.ofValue : Option OptionValue → Step
  | some (.int n) => columns n
  | _ => consistent

def Sequences.ofValue : Option OptionValue → Sequences
  | some (.bool false) => notIndented
  | some (.text "whatever") => whatever
  | some (.text "consistent") => consistent
  | _ => indented

def Options.ofValues (vs : OptionValues) : Options :=
  ⟨.ofValue (vs.lookup "spaces"), .ofValue (vs.lookup "indent-sequences"),
    vs.bool "check-multi-line-strings"⟩

inductive FrameKind where
  | root | blockMapping | flowMapping | blockSequence | flowSequence | entry | key | value
  deriving DecidableEq, Repr

def FrameKind.name : FrameKind → String
  | root => "ROOT"
  | blockMapping => "B_MAP"
  | flowMapping => "F_MAP"
  | blockSequence => "B_SEQ"
  | flowSequence => "F_SEQ"
  | entry => "B_ENT"
  | key => "KEY"
  | value => "VAL"

/-- An open level and the column at which its content is expected. A flow collection also has the
indentation of the line it starts on. -/
structure Frame where
  kind : FrameKind
  indent : Int
  lineIndent : Option Int := none
  isExplicitKey : Bool := false
  /-- A sequence without a start of its own, no deeper than the mapping around it. -/
  isIndentless : Bool := false
  deriving DecidableEq, Repr

structure State where
  /-- The open levels, innermost first, above the root level. -/
  frames : List Frame
  root : Frame
  /-- The line up to which the lexemes seen reach, from one. -/
  line : Int
  lineIndent : Int
  step : Step
  sequences : Sequences
  deriving DecidableEq, Repr

def State.start (o : Options) : State :=
  ⟨[], ⟨.root, 0, none, false, false⟩, -1, 0, o.step, o.sequences⟩

def State.top (s : State) : Frame := s.frames.headD s.root

def State.push (s : State) (f : Frame) : State := { s with frames := f :: s.frames }

/-- The indentation one step deeper than `base`. A step not known yet is taken from the column
found. -/
def State.deeper (s : State) (base found : Int) : Int × State :=
  match s.step with
  | .columns n => (base + n, s)
  | .consistent => (found, { s with step := .columns (found - base) })

/-! ## The column of a lexeme -/

def isVisible (x : Lexeme) : Bool :=
  match x.kind with
  | .streamStart | .streamEnd | .blockEnd => false
  | .scalar => x.value != some ""
  | _ => true

def wrong (line : Int) (expected found : Int) : Finding :=
  let desc :=
    if expected < 0 then s!"wrong indentation: expected at least {found + 1}"
    else s!"wrong indentation: expected {expected} but found {found}"
  ⟨line, found + 1, desc⟩

/-- The column at which a lexeme that is the first of its line is expected. -/
def State.expected (s : State) (x : Lexeme) : Int × State :=
  let top := s.top
  if x.kind.isFlowEnd then (top.lineIndent.getD top.indent, s)
  else if top.kind == .key && top.isExplicitKey && x.kind != .value then
    s.deeper top.indent x.start.column
  else (top.indent, s)

/-- Whether a lexeme is the first of its line. -/
def State.isFirst (s : State) (x : Lexeme) : Bool := isVisible x && s.line < x.start.line + 1

def checkColumn (x : Lexeme) (s : State) : State × List Finding :=
  if s.isFirst x then
    let (expected, s) := s.expected x
    let found : Int := x.start.column
    (s, if found != expected then [wrong (x.start.line + 1) expected found] else [])
  else (s, [])

/-! ## Scalars of several lines -/

/-- The lines of a scalar after its first: how many lines further down each is and where it
starts. A line feed that is the last character of the scalar starts no line of it. -/
def laterLines (t : Text) (x : Lexeme) : List (Nat × Nat) :=
  -- An offset before the first one counts from the end of the text.
  let last := if x.stop.offset = 0 then t.length - 1 else x.stop.offset - 1
  let starts := LineIndex.startsAfter x.start.offset (t.slice x.start.offset last)
  starts.zipIdx.map fun (start, i) => (i + 1, start)

/-- The number of spaces at the start of a line; none if the line is blank. -/
def spacesAt? (t : Text) (start : Nat) : Option Nat :=
  let rest := t.drop start
  let spaces := (rest.takeWhile (· == ' ')).length
  match rest[spaces]? with
  | some c => if c == '\r' || c == '\n' then none else some spaces
  | none => none

/-- The column at which the lines of a scalar are expected; `found` is that of the first of them
that is not blank. -/
def State.expectedInScalar (s : State) (x : Lexeme) (found : Int) : Int × State :=
  let column : Int := x.start.column
  match x.style with
  | some .plain => (column, s)
  | some .single | some .double => (column + 1, s)
  | _ =>
    let top := s.top
    match top.kind, s.frames with
    | .entry, _ | .key, _ => s.deeper column found
    | .value, _ :: below =>
      if s.line < x.start.line + 1 then s.deeper top.indent found
      else
        let key := below.headD s.root
        s.deeper (if key.isExplicitKey then column else key.indent) found
    | _, _ => s.deeper top.indent found

/-- Checks the lines of a scalar after its first. -/
def checkScalar (t : Text) (x : Lexeme) (s : State) : State × List Finding :=
  if x.start.line == x.stop.line then (s, [])
  else
    let lines := (laterLines t x).filterMap fun (i, start) =>
      (spacesAt? t start).map fun spaces => (i, spaces)
    match lines with
    | [] => (s, [])
    | (_, first) :: _ =>
      let (expected, s) := s.expectedInScalar x first
      let bad := lines.filter fun (_, spaces) => (spaces : Int) != expected
      (s, bad.map fun (i, spaces) =>
        ⟨x.start.line + 1 + i, spaces + 1,
          s!"wrong indentation: expected {expected} but found {spaces}"⟩)

/-! ## Opening levels -/

def isProperty (x : Option Lexeme) : Bool := isOneOf x [.anchor, .tag]

/-- The level of a flow collection, whose content starts with `next`. -/
def State.openFlow (s : State) (kind : FrameKind) (x next : Lexeme) : State :=
  let (indent, s) :=
    if next.start.line == x.start.line then ((next.start.column : Int), s)
    else s.deeper s.lineIndent next.start.column
  s.push { kind, indent, lineIndent := some s.lineIndent }

/-- The level of an entry, whose content starts with `next`. -/
def State.openEntry (s : State) (x next : Lexeme) : State :=
  let column : Int := x.start.column
  let s :=
    if s.top.kind == .blockSequence then s
    else s.push { kind := .blockSequence, indent := column, isIndentless := true }
  let (indent, s) :=
    if next.start.line == x.stop.line || next.start.column == x.start.column then
      ((next.start.column : Int), s)
    else s.deeper column next.start.column
  s.push { kind := .entry, indent }

/-- The column at which a block sequence that is a value is expected, found to start at `next`.
It is -1 where the sequence should be deeper by a step not known yet. -/
def State.sequenceIndent (s : State) (next : Lexeme) : Int × State :=
  let base := s.top.indent
  let column : Int := next.start.column
  match s.sequences with
  | .notIndented => (base, s)
  | .indented =>
    if s.step == .consistent && column == base then (-1, s) else s.deeper base column
  | .whatever => if column == base then (base, s) else s.deeper base column
  | .consistent =>
    if column == base then (base, { s with sequences := .notIndented })
    else { s with sequences := .indented }.deeper base column

/-- What a value starts with: an anchor or a tag that ends the line of the key is passed over. -/
def valueStart (w : Window) (prev next : Lexeme) : Lexeme :=
  match w.nextnext with
  | some following =>
    if next.kind.isProperty && next.start.line == prev.start.line &&
        next.start.line < following.start.line then following
    else next
  | none => next

/-- The level of a value; none for a value left out. -/
def State.openValue (s : State) (w : Window) (prev next : Lexeme) : State :=
  let next := valueStart w prev next
  match next.kind with
  | .blockEnd | .flowMappingEnd | .flowSequenceEnd | .key => s
  | _ =>
    let column : Int := next.start.column
    let (indent, s) :=
      if s.top.isExplicitKey then s.deeper s.top.indent column
      else if next.start.line == prev.start.line then (column, s)
      else if next.kind == .blockSequenceStart || next.kind == .blockEntry then
        s.sequenceIndent next
      else s.deeper s.top.indent column
    s.push { kind := .value, indent }

/-- Opens the levels that a lexeme opens; none if it cannot stand where it does. -/
def State.open? (s : State) (t : Text) (w : Window) : Option State :=
  let x := w.curr
  let column : Int := x.start.column
  /- A block collection starts on the line of its first key or entry. -/
  let block (kind : FrameKind) (first : LexemeKind) : Option State :=
    if w.next.any fun next => next.kind == first && next.start.line == x.start.line then
      some (s.push { kind, indent := column })
    else none
  match x.kind, w.prev, w.next with
  | .blockMappingStart, _, _ => block .blockMapping .key
  | .blockSequenceStart, _, _ => block .blockSequence .blockEntry
  | .flowMappingStart, _, next => next.map (s.openFlow .flowMapping x)
  | .flowSequenceStart, _, next => next.map (s.openFlow .flowSequence x)
  | .blockEntry, _, some next =>
    if next.kind == .blockEntry || next.kind == .blockEnd then some s
    else some (s.openEntry x next)
  | .key, _, _ =>
    some (s.push { kind := .key, indent := s.top.indent, isExplicitKey := x.isExplicitKey t })
  | .value, some prev, some next =>
    if s.top.kind == .key then some (s.openValue w prev next) else none
  | .value, _, _ => none
  | _, _, _ => some s

/-! ## Closing levels -/

/-- Whether a lexeme is the end of an open collection. -/
def isEndOf (x : Lexeme) (f : Frame) : Bool :=
  match f.kind with
  | .flowSequence => x.kind == .flowSequenceEnd
  | .flowMapping => x.kind == .flowMappingEnd
  | .blockMapping | .blockSequence => x.kind == .blockEnd && !f.isIndentless
  | _ => false

/-- The levels left after a lexeme, and whether they have the form they should have. One lexeme
ends at most one collection, and `ended` tells that it has done so. -/
def close (w : Window) (root : Frame) (ended : Bool) : List Frame → List Frame × Bool
  | [] => ([], true)
  | top :: below =>
    let x := w.curr
    let under := below.headD root
    if isEndOf x top && !ended then close w root true below
    else if top.kind == .entry && x.kind != .blockEntry && under.isIndentless &&
        !x.kind.isProperty && !isOneOf w.next [.blockEntry] then
      match below with
      | _ :: rest => close w root ended rest
      | [] => ([], true)
    else if top.kind == .entry && isOneOf w.next [.blockEntry, .blockEnd] then
      close w root ended below
    else if top.kind == .value && x.kind != .value && !x.kind.isProperty then
      match below with
      | key :: rest =>
        if key.kind == .key then close w root ended rest else (top :: below, false)
      | [] => (top :: below, false)
    else if top.kind == .key &&
        isOneOf w.next [.blockEnd, .flowMappingEnd, .flowSequenceEnd, .flowEntry] then
      close w root ended below
    else (top :: below, true)

/-! ## One lexeme -/

/-- Notes how far a lexeme reaches, and how far its line is indented if it is the first there. -/
def State.reach (s : State) (t : Text) (x : Lexeme) (isFirst : Bool) : State :=
  if isVisible x then
    { s with line := x.realEndLine t
             lineIndent := if isFirst then x.start.column else s.lineIndent }
  else s

/-- Opens and closes levels; false if the lexeme cannot stand where it does. -/
def State.advance (s : State) (t : Text) (w : Window) : State × Bool :=
  match s.open? t w with
  | some s =>
    let (frames, isSound) := close w s.root false s.frames
    ({ s with frames }, isSound)
  | none => (s, false)

def check (o : Options) (t : Text) (w : Window) (s : State) : State × List Finding :=
  let x := w.curr
  let isFirst := s.isFirst x
  let (s, inColumn) := checkColumn x s
  let (s, inScalar) :=
    if x.kind == .scalar && o.checkMultiLine then checkScalar t x s else (s, [])
  let (s, isSound) := (s.reach t x isFirst).advance t w
  let unexpected :=
    if isSound then [] else [Finding.atStart x "cannot infer indentation: unexpected token"]
  (s, inColumn ++ inScalar ++ unexpected)

end YamlStyle.Rule.Indentation
