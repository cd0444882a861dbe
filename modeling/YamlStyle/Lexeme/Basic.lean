import YamlStyle.Text.Basic

/-!
# Lexemes

The units that rules look at: like the tokens of the format, with a mark on either side, but for
any text, whether it is well formed or not.
-/

namespace YamlStyle

inductive LexemeKind where
  | streamStart | streamEnd | documentStart | documentEnd | directive
  | blockMappingStart | blockSequenceStart | blockEnd
  | flowMappingStart | flowMappingEnd | flowSequenceStart | flowSequenceEnd
  | key | value | blockEntry | flowEntry | alias | anchor | tag | scalar
  deriving DecidableEq, Repr, Inhabited

namespace LexemeKind

def name : LexemeKind → String
  | streamStart => "StreamStart"
  | streamEnd => "StreamEnd"
  | documentStart => "DocumentStart"
  | documentEnd => "DocumentEnd"
  | directive => "Directive"
  | blockMappingStart => "BlockMappingStart"
  | blockSequenceStart => "BlockSequenceStart"
  | blockEnd => "BlockEnd"
  | flowMappingStart => "FlowMappingStart"
  | flowMappingEnd => "FlowMappingEnd"
  | flowSequenceStart => "FlowSequenceStart"
  | flowSequenceEnd => "FlowSequenceEnd"
  | key => "Key"
  | value => "Value"
  | blockEntry => "BlockEntry"
  | flowEntry => "FlowEntry"
  | .alias => "Alias"
  | anchor => "Anchor"
  | tag => "Tag"
  | scalar => "Scalar"

def all : List LexemeKind :=
  [streamStart, streamEnd, documentStart, documentEnd, directive, blockMappingStart,
   blockSequenceStart, blockEnd, flowMappingStart, flowMappingEnd, flowSequenceStart,
   flowSequenceEnd, key, value, blockEntry, flowEntry, .alias, anchor, tag, scalar]

def ofName? (s : String) : Option LexemeKind := all.find? (·.name == s)

def isBlockStart : LexemeKind → Bool
  | blockMappingStart | blockSequenceStart => true
  | _ => false

def isFlowStart : LexemeKind → Bool
  | flowMappingStart | flowSequenceStart => true
  | _ => false

def isFlowEnd : LexemeKind → Bool
  | flowMappingEnd | flowSequenceEnd => true
  | _ => false

def isMappingStart : LexemeKind → Bool
  | blockMappingStart | flowMappingStart => true
  | _ => false

def isSequenceStart : LexemeKind → Bool
  | blockSequenceStart | flowSequenceStart => true
  | _ => false

def isCollectionEnd : LexemeKind → Bool
  | blockEnd | flowMappingEnd | flowSequenceEnd => true
  | _ => false

/-- Anchors and tags. -/
def isProperty : LexemeKind → Bool
  | anchor | tag => true
  | _ => false

end LexemeKind

/-- How a scalar is written. -/
inductive Style where
  | plain | single | double | block
  deriving DecidableEq, Repr

namespace Style

def name : Style → String
  | plain => "plain"
  | single => "single"
  | double => "double"
  | block => "block"

def ofName? (s : String) : Option Style := [plain, single, double, block].find? (·.name == s)

def isQuoted : Style → Bool
  | single | double => true
  | _ => false

end Style

structure Lexeme where
  kind : LexemeKind
  start : Mark
  stop : Mark
  value : Option String := none
  style : Option Style := none
  deriving DecidableEq, Repr, Inhabited

end YamlStyle
