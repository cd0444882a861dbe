import YamlStyle.Journal
import YamlStyle.Lexeme.Basic
import YamlStyle.Tree.Basic
import YamlStyle.Tree.OfText

/-!
# Lexemes by the off-side rule

The pieces of a tree are the lexical units that it shows, in the order of the text. The starts of
block collections are among them, their ends are not.

A block collection has no closing mark: it ends before the first unit that stands further left,
or at its own column without continuing it. Every start of a block collection gets exactly one
end. An indentless sequence gets neither.
-/

/-! ## The pieces of a tree -/

namespace YamlStyle

/-- A lexical unit between two offsets. -/
structure Piece where
  kind : LexemeKind
  start : Nat
  stop : Nat
  value : Option String := none
  style : Option Style := none
  deriving DecidableEq, Repr

namespace Piece

/-- At one offset a block starts before its first key, and both before all else. -/
def rank (p : Piece) : Nat :=
  if p.kind.isBlockStart then 0 else if p.kind == .key then 1 else 2

def isBefore (p q : Piece) : Bool :=
  p.start < q.start || (p.start == q.start && p.rank ≤ q.rank)

def isSame (p q : Piece) : Bool := p.kind == q.kind && p.start == q.start

/-- The pieces that are not the same as an earlier one. -/
def distinct (seen : List Piece) : List Piece → List Piece
  | [] => []
  | p :: ps => if seen.any p.isSame then distinct seen ps else p :: distinct (p :: seen) ps

end Piece

namespace Node

/-- The piece that a node shows; none if it shows only structure. -/
def piece? (n : Node) : Option Piece :=
  let stop := n.offset + n.source.length
  let leaf (kind : LexemeKind) : Option Piece := some { kind, start := n.offset, stop }
  let scalar (style : Style) : Option Piece :=
    some { kind := .scalar, start := n.offset, stop, value := n.resolved, style := some style }
  match n.kind with
  | .blockMap => some { kind := .blockMappingStart, start := n.offset, stop := n.offset }
  | .blockSequence =>
    if n.indentless then none
    else some { kind := .blockSequenceStart, start := n.offset, stop := n.offset }
  | .documentStart => leaf .documentStart
  | .documentEnd => leaf .documentEnd
  | .implicitKey | .explicitKey => leaf .key
  | .valueIndicator => leaf .value
  | .entryIndicator => leaf .blockEntry
  | .comma => leaf .flowEntry
  | .flowMapStart => leaf .flowMappingStart
  | .flowMapEnd => leaf .flowMappingEnd
  | .flowSequenceStart => leaf .flowSequenceStart
  | .flowSequenceEnd => leaf .flowSequenceEnd
  | .anchor => some { kind := .anchor, start := n.offset, stop, value := n.resolved }
  | .alias => some { kind := .alias, start := n.offset, stop, value := n.resolved }
  | .tag => some { kind := .tag, start := n.offset, stop, value := some n.source }
  | .directive => some { kind := .directive, start := n.offset, stop, value := some n.source }
  | .plainScalar => scalar .plain
  | .singleQuotedScalar => scalar .single
  | .doubleQuotedScalar => scalar .double
  | .blockScalar => scalar .block
  | .stream | .document | .flowCollection | .item | .other _ => none

/-- The pieces of a tree by offset and rank; of those with one kind and offset only the first. -/
def pieces (root : Node) : List Piece :=
  Piece.distinct [] ((root.preorder.filterMap piece?).mergeSort Piece.isBefore)

end Node

end YamlStyle

/-! ## Ends by the off-side rule -/

namespace YamlStyle

namespace OffSide

inductive ContainerKind where
  | map | sequence | implicitSequence | explicitKey
  deriving DecidableEq, Repr

/-- What is open at a place outside flow collections. -/
structure Container where
  kind : ContainerKind
  indent : Nat
  offset : Nat
  deriving DecidableEq, Repr

/-- Whether a unit at the column of a container belongs to it. -/
def ContainerKind.isContinuedBy : ContainerKind → LexemeKind → Bool
  | map, .key | map, .scalar | map, .value | map, .blockSequenceStart | map, .blockEntry => true
  | sequence, .blockEntry | implicitSequence, .blockEntry => true
  | _, _ => false

/-- Whether the start of a container is a lexeme, so that its end is one. -/
def ContainerKind.isBlock : ContainerKind → Bool
  | map | sequence => true
  | implicitSequence | explicitKey => false

/-- What is open between two units. -/
structure State where
  /-- The open containers, innermost first. -/
  containers : List Container
  flowDepth : Nat
  /-- Where the unit before started. -/
  last : Option Nat
  deriving DecidableEq, Repr

def State.start : State := ⟨[], 0, none⟩

/-- Whether a container ends before a piece at the given column. -/
def endsBefore (p : Piece) (column : Nat) (c : Container) : Bool :=
  c.offset < p.start &&
    (column < c.indent || (c.indent == column && !c.kind.isContinuedBy p.kind))

/-- The number of block collections among the containers. -/
def blockCount (cs : List Container) : Nat := (cs.filter (·.kind.isBlock)).length

/-- A block collection never stands inside a flow collection: a flow collection that is still
open where one starts has been left unfinished. -/
def State.leaveFlow (s : State) (p : Piece) : State :=
  if p.kind.isBlockStart then { s with flowDepth := 0 } else s

/-- Closes the containers that end before a piece; also the number of block ends this takes. -/
def State.closeBefore (s : State) (p : Piece) (column : Nat) : Nat × State :=
  if s.flowDepth > 0 || s.last == some p.start then (0, s)
  else
    let closed := s.containers.takeWhile (endsBefore p column)
    (blockCount closed, { s with containers := s.containers.drop closed.length })

def State.push (s : State) (kind : ContainerKind) (p : Piece) (column : Nat) : State :=
  { s with containers := ⟨kind, column, p.start⟩ :: s.containers }

/-- Whether an entry at a column belongs to the innermost container. -/
def continuesSequence (cs : List Container) (column : Nat) : Bool :=
  match cs.head? with
  | some ⟨.sequence, indent, _⟩ | some ⟨.implicitSequence, indent, _⟩ => indent == column
  | _ => false

/-- Opens what a piece opens. -/
def State.openAfter (s : State) (p : Piece) (column : Nat) : State :=
  if p.kind.isFlowStart then { s with flowDepth := s.flowDepth + 1 }
  else if p.kind.isFlowEnd then { s with flowDepth := s.flowDepth - 1 }
  else if s.flowDepth > 0 then s
  else
    match p.kind with
    | .blockMappingStart => s.push .map p column
    | .blockSequenceStart => s.push .sequence p column
    | .blockEntry =>
      if continuesSequence s.containers column then s else s.push .implicitSequence p column
    | .key => if p.start < p.stop then s.push .explicitKey p column else s
    | _ => s

def lexeme (ix : LineIndex) (p : Piece) : Lexeme :=
  ⟨p.kind, ix.mark p.start, ix.mark p.stop, p.value, p.style⟩

/-- Block ends at one offset. -/
def blockEnds (ix : LineIndex) (count offset : Nat) : List Lexeme :=
  List.replicate count (lexeme ix { kind := .blockEnd, start := offset, stop := offset })

/-- The lexemes up to and with a piece, and what is open after it. -/
def step (ix : LineIndex) (s : State) (p : Piece) : List Lexeme × State :=
  let column := ix.column p.start
  let (ends, s) := (s.leaveFlow p).closeBefore p column
  (blockEnds ix ends p.start ++ [lexeme ix p],
    { s.openAfter p column with last := some p.start })

/-- The lexemes of pieces, and of the ends of what is left open at offset `size`. -/
def run (ix : LineIndex) (size : Nat) (s : State) : List Piece → List Lexeme
  | [] => blockEnds ix (blockCount s.containers) size
  | p :: ps =>
    let (lexemes, s) := step ix s p
    lexemes ++ run ix size s ps

end OffSide

namespace Lexeme

/-- The lexemes of a tree for a text, between the start and the end of the stream. -/
def ofTree (t : Text) (root : Node) : List Lexeme :=
  let ix := LineIndex.ofText t
  let boundary (kind : LexemeKind) (offset : Nat) : Lexeme :=
    OffSide.lexeme ix { kind, start := offset, stop := offset }
  boundary .streamStart 0 ::
    (OffSide.run ix t.length .start root.pieces ++ [boundary .streamEnd t.length])

end Lexeme

/-! ## The lexemes of a text

A text of any form has lexemes. Each scan that fails on the way leaves a record.
-/

/-- The record of a scan that failed. -/
def Tree.Halt.record (t : Text) (h : Tree.Halt) : Record :=
  let report := (h.failure.describe? (t.drop h.offset)).getD ""
  ⟨.debug, "yamlsieve.parser", s!"Scanner stopped at offset {h.offset}: {report}"⟩

/-- The lexemes of a text. -/
def Lexeme.ofText (t : Text) : Logged Yaml.Failure (List Lexeme) :=
  let built := Tree.build t
  ⟨built.halts.map (·.record t), built.root.map (Lexeme.ofTree t)⟩

end YamlStyle
