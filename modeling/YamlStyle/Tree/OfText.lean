import YamlStyle.Tree.Basic
import YamlStyle.Yaml.Token
import YamlStyle.Yaml.TokenStream

/-!
# Growing the tree of a text

A tree grows by one token at a time. The node being filled is the focus; the nodes around it are
kept with the place that waits for it, so that a finished node is put where it belongs and is
not touched again. Any tokens in any order grow a tree: a token that fits nowhere becomes a leaf
beside what is being read.

Where no token can be read, the nodes then open are closed and reading goes on at the next line,
so that what follows a fault still has nodes.
-/

/-! ## Growing a tree -/

namespace YamlStyle.Tree

/-- The place in a node that waits for the node being filled. -/
inductive Place where
  | newItem | value | itemKey | itemValue
  deriving DecidableEq, Repr

/-- Changes the last node of a list. -/
def mapLast (f : Node → Node) : List Node → List Node
  | [] => []
  | [n] => [f n]
  | n :: ns => n :: mapLast f ns

/-- Puts a node into its place. -/
def Place.fill (place : Place) (inner outer : Node) : Node :=
  match place with
  | newItem => { outer with items := outer.items ++ [inner] }
  | value => { outer with value := some inner }
  | itemKey => { outer with items := mapLast (fun item => { item with key := some inner }) outer.items }
  | itemValue =>
    { outer with items := mapLast (fun item => { item with value := some inner }) outer.items }

/-- A node around the focus. -/
structure Frame where
  node : Node
  place : Place

def Frame.fill (f : Frame) (inner : Node) : Node := f.place.fill inner f.node

/-- A tree that is being grown for a text of the given length. -/
structure Builder where
  size : Nat
  focus : Node
  /-- The nodes around the focus, innermost first. -/
  around : List Frame

namespace Builder

def start (size : Nat) : Builder := ⟨size, { kind := .stream, offset := 0 }, []⟩

/-- Finishes the focus. The root stays open. -/
def close (b : Builder) : Builder :=
  match b.around with
  | [] => b
  | f :: around => { b with focus := f.fill b.focus, around }

/-- Fills a node into the ones around it. -/
def fillAll (inner : Node) : List Frame → Node
  | [] => inner
  | f :: around => fillAll (f.fill inner) around

/-- The tree with every open node finished. -/
def root (b : Builder) : Node := fillAll b.focus b.around

def closeAll (b : Builder) : Builder := { b with focus := b.root, around := [] }

/-- Closes nodes until the focus satisfies `p`; none if no open node inside the root does. -/
def closeTo? (p : Node → Bool) (b : Builder) : Option Builder :=
  go b.focus b.around
where
  go (focus : Node) : List Frame → Option Builder
    | [] => none
    | f :: around =>
      if p focus then some { b with focus, around := f :: around } else go (f.fill focus) around

/-- Closes the indentless sequences that are being filled. -/
def closeIndentless (b : Builder) : Builder :=
  go b.focus b.around
where
  go (focus : Node) : List Frame → Builder
    | [] => { b with focus, around := [] }
    | f :: around =>
      if focus.kind == .blockSequence && focus.indentless then go (f.fill focus) around
      else { b with focus, around := f :: around }

/-- Starts a node in a place of the focus. -/
def openAt (place : Place) (n : Node) (b : Builder) : Builder :=
  { b with focus := n, around := ⟨b.focus, place⟩ :: b.around }

def modifyFocus (f : Node → Node) (b : Builder) : Builder := { b with focus := f b.focus }

/-- Changes the last item of the focus. -/
def modifyItem (f : Node → Node) (b : Builder) : Builder :=
  b.modifyFocus fun n => { n with items := mapLast f n.items }

def addItem (item : Node) (b : Builder) : Builder :=
  b.modifyFocus fun n => { n with items := n.items ++ [item] }

def isIn (kind : NodeKind) (b : Builder) : Bool := b.focus.kind == kind

/-! ## Documents -/

/-- Makes the innermost document the focus, a new one if none is open. -/
def toDocument (b : Builder) : Builder :=
  (b.closeTo? (·.kind == .document)).getD
    (b.closeAll.openAt .newItem { kind := .document, offset := b.size })

/-- Whether a document can take no more content. -/
def isComplete (document : Node) : Bool := !document.stop.isEmpty || document.value.isSome

/-- Makes a document that can take content the focus. -/
def toOpenDocument (b : Builder) : Builder :=
  let b := b.toDocument
  if isComplete b.focus then b.closeAll.toDocument else b

/-- Whether directives and a document start still belong to a document. -/
def isUnstarted (document : Node) : Bool :=
  !isComplete document && !document.start.any (·.kind == .documentStart)

/-- Makes the last document the focus again. -/
def reopen (b : Builder) (document : Node) : Builder :=
  (b.modifyFocus fun n => { n with items := n.items.dropLast }).openAt .newItem document

/-- A directive or a document start opens a document, or belongs to the one just begun. -/
def documentStart (leaf : Node) (b : Builder) : Builder :=
  let b := b.closeAll
  let started :=
    match b.focus.items.getLast? with
    | some document =>
      if isUnstarted document then b.reopen document
      else b.openAt .newItem { kind := .document, offset := leaf.offset }
    | none => b.openAt .newItem { kind := .document, offset := leaf.offset }
  started.modifyFocus fun n => { n with start := n.start ++ [leaf] }

/-! ## Items -/

/-- Whether an item still takes content. -/
def takesContent (item : Node) : Bool := item.value.isNone && item.stop.isEmpty

/-- Makes sure that the last item of the focus takes content; a new one starts at `offset`. -/
def ensureItem (offset : Nat) (b : Builder) : Builder :=
  if b.focus.items.getLast?.any takesContent then b else b.addItem { kind := .item, offset }

/-- Puts a leaf where properties go: before the key of an item or before its value. -/
def beside (leaf : Node) (b : Builder) : Builder :=
  match b.focus.kind with
  | .stream => b.toOpenDocument.modifyFocus fun n => { n with start := n.start ++ [leaf] }
  | .document =>
    b.modifyFocus fun n =>
      if n.stop.isEmpty then { n with start := n.start ++ [leaf] }
      else { n with stop := n.stop ++ [leaf] }
  | _ =>
    (b.ensureItem b.size).modifyItem fun item =>
      if item.separator.isEmpty then { item with start := item.start ++ [leaf] }
      else { item with separator := item.separator ++ [leaf] }

/-- An item starts no later than what stands in it. -/
def includeOffset (offset : Nat) (item : Node) : Node :=
  { item with offset := min item.offset offset }

def property (leaf : Node) (b : Builder) : Builder :=
  let b := b.beside leaf
  match b.focus.kind with
  | .stream | .document => b
  | _ => b.modifyItem (includeOffset leaf.offset)

/-- Where the content of an item goes: behind a value indicator it is the value, behind a key
indicator the key. -/
def contentPlace (item : Node) : Place :=
  if !item.separator.isEmpty then .itemValue
  else if item.key.isNone && item.start.any (·.kind.isKeyIndicator) then .itemKey
  else .itemValue

/-- Starts a node where content goes. -/
def openContent (n : Node) (b : Builder) : Builder :=
  match b.focus.kind with
  | .stream | .document => b.toOpenDocument.openAt .value n
  | _ =>
    let b := (b.ensureItem n.offset).modifyItem (includeOffset n.offset)
    b.openAt ((b.focus.items.getLast?.map contentPlace).getD .itemValue) n

def content (n : Node) (b : Builder) : Builder := (b.openContent n).close

/-- Whether an item has nothing but properties so far. -/
def hasPropertiesOnly (item : Node) : Bool :=
  item.stop.isEmpty && item.key.isNone && item.separator.isEmpty && item.value.isNone

def newItem (leaf : Node) (b : Builder) : Builder :=
  b.addItem { kind := .item, offset := leaf.offset, start := [leaf] }

def key (leaf : Node) (b : Builder) : Builder :=
  match b.focus.kind with
  | .blockMap => b.newItem leaf
  | .flowCollection =>
    if b.focus.items.getLast?.any hasPropertiesOnly then
      b.modifyItem fun item => { item with start := item.start ++ [leaf] }
    else b.newItem leaf
  | _ => b.beside leaf

/-- Whether an item still takes a value indicator. -/
def takesIndicator (item : Node) : Bool :=
  item.separator.isEmpty && item.value.isNone && item.stop.isEmpty

def valueIndicator (leaf : Node) (b : Builder) : Builder :=
  match b.focus.kind with
  | .blockMap | .flowCollection =>
    if b.focus.items.getLast?.any takesIndicator then
      b.modifyItem fun item => { item with separator := item.separator ++ [leaf] }
    else b.addItem { kind := .item, offset := leaf.offset, separator := [leaf] }
  | _ => b.beside leaf

def entryIndicator (leaf : Node) (b : Builder) : Builder :=
  match b.focus.kind with
  | .blockSequence => b.newItem leaf
  | .blockMap =>
    (b.openContent { kind := .blockSequence, offset := leaf.offset, indentless := true }).newItem leaf
  | _ => b.beside leaf

def comma (leaf : Node) (b : Builder) : Builder :=
  match b.focus.kind with
  | .flowCollection =>
    if b.focus.items.getLast?.any (·.stop.isEmpty) then
      b.modifyItem fun item => { item with stop := item.stop ++ [leaf] }
    else b.addItem { kind := .item, offset := leaf.offset, stop := [leaf] }
  | _ => b.beside leaf

def flowEnd (leaf : Node) (b : Builder) : Builder :=
  match b.closeTo? (·.kind == .flowCollection) with
  | some b => (b.modifyFocus fun n => { n with stop := n.stop ++ [leaf] }).close
  | none => b.beside leaf

def blockEnd (b : Builder) : Builder :=
  let b := b.closeIndentless
  let isBlock (n : Node) : Bool := n.kind == .blockMap || n.kind == .blockSequence
  match b.closeTo? isBlock with
  | some b => b.close
  | none => b

/-! ## Tokens -/

/-- The leaf for a token that starts at `offset` and stands for `source`; none if the token shows
only structure. -/
def leaf? (t : Yaml.Token) (offset : Nat) (source : String) : Option Node :=
  let leaf (kind : NodeKind) : Option Node := some { kind, offset, source }
  let valued (kind : NodeKind) (value : String) : Option Node :=
    some { kind, offset, source, resolved := some value }
  match t.kind with
  | .streamStart | .streamEnd | .blockEnd | .blockMappingStart | .blockSequenceStart => none
  | .directive _ => leaf .directive
  | .documentStart => leaf .documentStart
  | .documentEnd => leaf .documentEnd
  | .flowSequenceStart => leaf .flowSequenceStart
  | .flowSequenceEnd => leaf .flowSequenceEnd
  | .flowMappingStart => leaf .flowMapStart
  | .flowMappingEnd => leaf .flowMapEnd
  | .key => leaf (if t.start.offset < t.stop.offset then .explicitKey else .implicitKey)
  | .value => leaf .valueIndicator
  | .blockEntry => leaf .entryIndicator
  | .flowEntry => leaf .comma
  | .alias name => valued .alias name
  | .anchor name => valued .anchor name
  | .tag _ => leaf .tag
  | .scalar value .plain => valued .plainScalar value
  | .scalar value .single => valued .singleQuotedScalar value
  | .scalar value .double => valued .doubleQuotedScalar value
  | .scalar value .literal => valued .blockScalar value
  | .scalar value .folded => valued .blockScalar value

/-- Grows a tree by a leaf. -/
def feedLeaf (leaf : Node) (b : Builder) : Builder :=
  match leaf.kind with
  | .directive | .documentStart => b.documentStart leaf
  | .documentEnd => b.toDocument.modifyFocus fun n => { n with stop := n.stop ++ [leaf] }
  | .implicitKey | .explicitKey => b.closeIndentless.key leaf
  | .valueIndicator => b.closeIndentless.valueIndicator leaf
  | .entryIndicator => b.entryIndicator leaf
  | .comma => b.comma leaf
  | .flowMapStart | .flowSequenceStart =>
    b.openContent { kind := .flowCollection, offset := leaf.offset, start := [leaf] }
  | .flowMapEnd | .flowSequenceEnd => b.flowEnd leaf
  | .anchor | .tag => b.property leaf
  | _ => b.content leaf

/-- Grows a tree by a token that starts at `offset` and stands for `source`. -/
def feed (b : Builder) (t : Yaml.Token) (offset : Nat) (source : String) : Builder :=
  match t.kind with
  | .blockEnd => b.blockEnd
  | .blockMappingStart => b.openContent { kind := .blockMap, offset }
  | .blockSequenceStart => b.openContent { kind := .blockSequence, offset }
  | _ =>
    match leaf? t offset source with
    | some leaf => b.feedLeaf leaf
    | none => b

end Builder

end YamlStyle.Tree

/-! ## The tree of a text -/

namespace YamlStyle.Tree

/-- A scan that failed: where it started and why it stopped. -/
structure Halt where
  offset : Nat
  failure : Yaml.Failure
  deriving Repr

/-- The tree of a text, or what kept it from being read, and the scans that failed before. -/
structure Built where
  root : Except Yaml.Failure Node
  halts : List Halt

/-- Grows a tree by the tokens of the part of `t` that starts at `base`. -/
def feedAll (t : Text) (base : Nat) (b : Builder) (tokens : List Yaml.Released) : Builder :=
  let step (b : Builder) (r : Yaml.Released) : Builder :=
    let start := base + r.token.start.offset
    b.feed r.token start (String.ofList (t.slice start (base + r.token.stop.offset)))
  tokens.foldl step b

/-- How far a scan came: past all its tokens, and to the place of its fault. -/
def reached (base : Nat) (tokens : List Yaml.Released) (failure : Yaml.Failure) : Nat :=
  let ends := tokens.map (base + ·.token.stop.offset)
  max (ends.foldl max base) ((failure.mark?.map (base + ·.offset)).getD base)

/-- The start of the line after an offset; none at the end of the text. -/
def nextLine? (t : Text) (offset : Nat) : Option Nat :=
  match t.find? '\n' offset with
  | some i => if i + 1 < t.length then some (i + 1) else none
  | none => none

/-- Whether scanning can go on after a failure. -/
def isRecoverable : Yaml.Failure → Bool
  | .unprintable _ _ | .fault _ => true
  | _ => false

/-- Grows a tree by the part of `t` that starts at `offset`; `halts` has the scans that failed
before, latest first. -/
def grow (t : Text) (offset : Nat) (b : Builder) (halts : List Halt) : Built :=
  let stream := Yaml.TokenStream.ofText (t.drop offset)
  let b := (feedAll t offset b stream.tokens).closeAll
  match stream.failure with
  | none => ⟨.ok b.root, halts.reverse⟩
  | some failure =>
    if isRecoverable failure then
      let halts := ⟨offset, failure⟩ :: halts
      match nextLine? t (reached offset stream.tokens failure) with
      | some next =>
        if _h : offset < next ∧ next < t.length then grow t next b halts
        else ⟨.ok b.root, halts.reverse⟩
      | none => ⟨.ok b.root, halts.reverse⟩
    else ⟨.error failure, halts.reverse⟩
termination_by t.length - offset

def build (t : Text) : Built := grow t 0 (.start t.length) []

end YamlStyle.Tree
