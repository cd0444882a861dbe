import YamlStyle.Text.Basic

/-!
# Concrete syntax trees

A tree keeps every lexical unit of a text as a leaf with the characters it stands for, and shows
the nesting of blocks only by who is inside whom: no leaf marks the end of a block.
-/

namespace YamlStyle

/-- What a node of a tree is. -/
inductive NodeKind where
  | stream | document | blockMap | blockSequence | flowCollection | item
  | documentStart | documentEnd | directive
  | implicitKey | explicitKey | valueIndicator | entryIndicator
  | flowMapStart | flowMapEnd | flowSequenceStart | flowSequenceEnd | comma
  | anchor | tag | alias
  | plainScalar | singleQuotedScalar | doubleQuotedScalar | blockScalar
  | other (name : String)
  deriving DecidableEq, Repr

namespace NodeKind

def name : NodeKind → String
  | stream => "stream"
  | document => "document"
  | blockMap => "block-map"
  | blockSequence => "block-seq"
  | flowCollection => "flow-collection"
  | item => "item"
  | documentStart => "doc-start"
  | documentEnd => "doc-end"
  | directive => "directive"
  | implicitKey => "implicit-key-ind"
  | explicitKey => "explicit-key-ind"
  | valueIndicator => "map-value-ind"
  | entryIndicator => "seq-item-ind"
  | flowMapStart => "flow-map-start"
  | flowMapEnd => "flow-map-end"
  | flowSequenceStart => "flow-seq-start"
  | flowSequenceEnd => "flow-seq-end"
  | comma => "comma"
  | anchor => "anchor"
  | tag => "tag"
  | .alias => "alias"
  | plainScalar => "scalar"
  | singleQuotedScalar => "single-quoted-scalar"
  | doubleQuotedScalar => "double-quoted-scalar"
  | blockScalar => "block-scalar"
  | other name => name

/-- The kinds that have a name of their own. -/
def named : List NodeKind :=
  [stream, document, blockMap, blockSequence, flowCollection, item, documentStart, documentEnd,
   directive, implicitKey, explicitKey, valueIndicator, entryIndicator, flowMapStart, flowMapEnd,
   flowSequenceStart, flowSequenceEnd, comma, anchor, tag, .alias, plainScalar, singleQuotedScalar,
   doubleQuotedScalar, blockScalar]

def ofName (s : String) : NodeKind := (named.find? (·.name == s)).getD (other s)

def isLeaf : NodeKind → Bool
  | stream | document | blockMap | blockSequence | flowCollection | item => false
  | _ => true

def isScalar : NodeKind → Bool
  | plainScalar | singleQuotedScalar | doubleQuotedScalar | blockScalar => true
  | _ => false

def isKeyIndicator : NodeKind → Bool
  | implicitKey | explicitKey => true
  | _ => false

end NodeKind

/-- A node of a tree. A leaf has its characters and, if it is a scalar, an anchor or an alias,
the value they stand for. A collection has items; an item spreads over `start` (indicators and
properties before its key), `key`, `separator` (the value indicator and what follows it), `value`
and `stop` (a comma). -/
structure Node where
  kind : NodeKind
  offset : Nat
  source : String := ""
  resolved : Option String := none
  /-- A sequence whose entries are no deeper than the mapping around it. -/
  indentless : Bool := false
  start : List Node := []
  key : Option Node := none
  separator : List Node := []
  value : Option Node := none
  items : List Node := []
  stop : List Node := []

instance : Inhabited Node := ⟨{ kind := .stream, offset := 0 }⟩

/-- The parts of a node that hold nodes. -/
inductive Part where
  | start | key | separator | value | items | stop
  deriving DecidableEq, Repr

def Part.name : Part → String
  | start => "start"
  | key => "key"
  | separator => "sep"
  | value => "value"
  | items => "items"
  | stop => "end"

namespace Node

mutual

/-- A node and all nodes inside it, each before those inside it. -/
def preorder : Node → List Node
  | n@⟨_, _, _, _, _, start, key, separator, value, items, stop⟩ =>
    n :: (preorderAll start ++ preorderOption key ++ preorderAll separator ++
      preorderOption value ++ preorderAll items ++ preorderAll stop)

def preorderAll : List Node → List Node
  | [] => []
  | n :: ns => n.preorder ++ preorderAll ns

def preorderOption : Option Node → List Node
  | none => []
  | some n => n.preorder

end

mutual

/-- The nodes in the same order, each with its depth and the part it stands in; the node itself
stands in no part. -/
def outline (depth : Nat) (part : Option Part) : Node → List (Nat × Option Part × Node)
  | n@⟨_, _, _, _, _, start, key, separator, value, items, stop⟩ =>
    (depth, part, n) ::
      (outlineAll (depth + 1) .start start ++ outlineOption (depth + 1) .key key ++
        outlineAll (depth + 1) .separator separator ++ outlineOption (depth + 1) .value value ++
        outlineAll (depth + 1) .items items ++ outlineAll (depth + 1) .stop stop)

def outlineAll (depth : Nat) (part : Part) : List Node → List (Nat × Option Part × Node)
  | [] => []
  | n :: ns => n.outline depth (some part) ++ outlineAll depth part ns

def outlineOption (depth : Nat) (part : Part) : Option Node → List (Nat × Option Part × Node)
  | none => []
  | some n => n.outline depth (some part)

end

end Node

end YamlStyle
