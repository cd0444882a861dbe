import YamlStyle.Yaml.Event
import YamlStyle.Yaml.Plain

/-!
# Data of a document

The nodes that events describe, each with its tag. Nodes are numbered, and a collection holds the
numbers of its parts: an alias is the number of the node it names, so that a node may be part of
several others, and of itself.
-/

namespace YamlStyle.Yaml

/-- The number of a node. -/
abbrev NodeId := Nat

/-- What a node holds. -/
inductive Content where
  | scalar (text : String)
  | sequence (items : List NodeId)
  | mapping (pairs : List (NodeId × NodeId))
  deriving DecidableEq, Repr

/-- A node. -/
structure Datum where
  tag : String
  content : Content
  start : Mark
  deriving DecidableEq, Repr

/-- The tag of the common schema with the given name. -/
def commonTag (name : String) : String := "tag:yaml.org,2002:" ++ name

namespace Datum

def sort (d : Datum) : NodeSort :=
  match d.content with
  | .scalar _ => .scalar
  | .sequence _ => .sequence
  | .mapping _ => .mapping

/-- The text of a scalar. -/
def text? (d : Datum) : Option String :=
  match d.content with
  | .scalar text => some text
  | _ => none

def items (d : Datum) : List NodeId :=
  match d.content with
  | .sequence items => items
  | _ => []

def pairs (d : Datum) : List (NodeId × NodeId) :=
  match d.content with
  | .mapping pairs => pairs
  | _ => []

/-- The node of a number that no node has. -/
def missing : Datum := ⟨commonTag "null", .scalar "", ⟨0, 0, 0⟩⟩

end Datum

/-- The node of a document: all nodes by number, the number of the outermost one, and the version
of the document. -/
structure DatumGraph where
  nodes : Array Datum
  root : NodeId
  version : Version
  deriving Repr

/-- The name of the tag of a plain scalar. -/
def PlainSort.tagName : PlainSort → String
  | .bool => "bool"
  | .float => "float"
  | .int => "int"
  | .merge => "merge"
  | .null => "null"
  | .timestamp => "timestamp"
  | .value => "value"
  | .text => "str"

/-- Events that are being made into nodes, the nodes made so far, and the nodes that anchors name.
A collection has a number before its parts are read. -/
structure DatumReader where
  events : List Event
  failure : Option Failure
  version : Version
  nodes : Array Datum
  anchors : List (String × NodeId)

abbrev Assemble := StateT DatumReader (Except Failure)

namespace Assemble

/-- The next event. -/
def peek : Assemble Event := do
  let s ← get
  match s.events, s.failure with
  | e :: _, _ => return e
  | [], some failure => throw failure
  | [], none => return ⟨.streamEnd, ⟨0, 0, 0⟩⟩

def take : Assemble Event := do
  let e ← peek
  modify fun s => { s with events := s.events.tail }
  return e

/-- Numbers a node, and names it by its anchor. -/
def add (anchor : Option String) (d : Datum) : Assemble NodeId := do
  let id := (← get).nodes.size
  modify fun s => { s with
    nodes := s.nodes.push d
    anchors := (anchor.map fun a => (a, id)).toList ++ s.anchors }
  return id

/-- Sets the parts of a collection. -/
def complete (id : NodeId) (content : Content) : Assemble Unit :=
  modify fun s => { s with nodes := s.nodes.modify id fun d => { d with content } }

/-- The tag of a node: the one given, unless it is the bang that asks for the usual one. -/
def tagOr (given : Option String) (usual : String) : String :=
  match given with
  | some "!" | none => usual
  | some t => t

def scalarTag (p : Properties) (value : String) (style : ScalarStyle) : Assemble String := do
  let version := (← get).version
  let isPlain := (style == .plain && p.tag.isNone) || p.tag == some "!"
  let sort := if isPlain then Plain.sort version value.toList else .text
  return tagOr p.tag (commonTag sort.tagName)

mutual

/-- Makes the next node. -/
def node (fuel : Nat) : Assemble NodeId := do
  match fuel with
  | 0 => return 0
  | fuel + 1 =>
    let e ← take
    match e.kind with
    | .alias a =>
      match (← get).anchors.lookup a with
      | some id => return id
      | none => throw (.fault (.here (.undefinedAlias a) e.start))
    | .scalar p value style =>
      add p.anchor ⟨← scalarTag p value style, .scalar value, e.start⟩
    | .sequenceStart p =>
      let id ← add p.anchor ⟨tagOr p.tag (commonTag "seq"), .sequence [], e.start⟩
      complete id (.sequence (← items fuel))
      return id
    | .mappingStart p =>
      let id ← add p.anchor ⟨tagOr p.tag (commonTag "map"), .mapping [], e.start⟩
      complete id (.mapping (← pairs fuel))
      return id
    | _ => return 0

/-- Makes nodes up to the end of a sequence. -/
def items (fuel : Nat) : Assemble (List NodeId) := do
  match fuel with
  | 0 => return []
  | fuel + 1 =>
    if (← peek).kind == .sequenceEnd then
      let _ ← take
      return []
    else
      let id ← node fuel
      return id :: (← items fuel)

/-- Makes pairs of nodes up to the end of a mapping. -/
def pairs (fuel : Nat) : Assemble (List (NodeId × NodeId)) := do
  match fuel with
  | 0 => return []
  | fuel + 1 =>
    if (← peek).kind == .mappingEnd then
      let _ ← take
      return []
    else
      let key ← node fuel
      let value ← node fuel
      return (key, value) :: (← pairs fuel)

end

/-- Makes the one document that the events may hold; gives its outermost node. -/
def document : Assemble (Option NodeId) := do
  let _ ← take
  let first ← take
  match first.kind with
  | .documentStart version =>
    modify fun s => { s with version := version.getD .v1_2 }
    let root ← node (2 * (← get).events.length + 2)
    let start := ((← get).nodes.getD root .missing).start
    let _ ← take
    let next ← peek
    if next.kind != .streamEnd then
      throw (.fault ⟨some .singleDocument, some start, some .anotherDocument, some next.start⟩)
    return some root
  | _ => return none

end Assemble

/-- The nodes of a text of at most one document; none if there is no document. -/
def DatumGraph.ofText (t : Text) : Except Failure (Option DatumGraph) :=
  let stream := EventStream.ofText t
  (Assemble.document.run ⟨stream.events, stream.failure, .v1_2, #[], []⟩).map fun (root, s) =>
    root.map fun root => ⟨s.nodes, root, s.version⟩

end YamlStyle.Yaml
