import YamlStyle.Yaml.TokenStream

/-!
# Events of a YAML stream

The grammar of documents and nodes over tokens. Every step of the grammar yields one event and
says at which step to go on; the steps to return to are kept on a stack.
-/

namespace YamlStyle.Yaml

/-- The anchor and the tag of a node, the tag with its handle expanded. -/
structure Properties where
  anchor : Option String
  tag : Option String
  deriving DecidableEq, Repr

inductive EventKind where
  | streamStart | streamEnd
  /-- The start of a document, with the version that it names. -/
  | documentStart (version : Option Version)
  | documentEnd
  | alias (name : String)
  | scalar (properties : Properties) (value : String) (style : ScalarStyle)
  | sequenceStart (properties : Properties)
  | sequenceEnd
  | mappingStart (properties : Properties)
  | mappingEnd
  deriving DecidableEq, Repr

structure Event where
  kind : EventKind
  start : Mark
  deriving DecidableEq, Repr

/-- A step of the grammar. -/
inductive Step where
  | streamStart | implicitDocument | document | documentContent | documentEnd | blockNode
  | firstEntry | entry | indentlessEntry
  | firstKey | key | value
  | flowFirstEntry | flowEntry | pairKey | pairValue | pairEnd
  | flowFirstKey | flowKey | flowValue | flowMissingValue
  deriving DecidableEq, Repr

structure EventReader where
  /-- The tokens not yet taken, and why they stop. -/
  tokens : List Released
  failure : Option Failure
  /-- The step to go on at; none after the end of the stream. -/
  step : Option Step
  /-- The steps to return to, innermost first. -/
  returns : List Step
  /-- Where the open collections started, innermost first. -/
  marks : List Mark
  /-- What the handles of tags stand for. -/
  handles : List (String × String)
  deriving Repr

abbrev Parse := StateT EventReader (Except Failure)

namespace Parse

def defaultHandles : List (String × String) := [("!", "!"), ("!!", "tag:yaml.org,2002:")]

/-- The next token. After the last one there is only the end of the stream. -/
def peek : Parse Released := do
  let s ← get
  match s.tokens, s.failure with
  | t :: _, _ => return t
  | [], some e => throw e
  | [], none => return ⟨⟨.streamEnd, ⟨0, 0, 0⟩, ⟨0, 0, 0⟩⟩, .v1_2⟩

def peekToken : Parse Token := do return (← peek).token

def peekKind : Parse TokenKind := do return (← peekToken).kind

def take : Parse Token := do
  let t ← peekToken
  modify fun s => { s with tokens := s.tokens.tail }
  return t

def goto (step : Step) : Parse Unit := modify fun s => { s with step := some step }

def call (returnTo : Step) : Parse Unit :=
  modify fun s => { s with returns := returnTo :: s.returns }

def leave : Parse Unit :=
  modify fun s => { s with step := s.returns.head?, returns := s.returns.tail }

/-- Enters a collection whose start token has been peeked at. -/
def enter : Parse Unit := do
  let t ← take
  modify fun s => { s with marks := t.start :: s.marks }

/-- Takes the end token of a collection. -/
def finish (kind : EventKind) : Parse Event := do
  let t ← take
  leave
  modify fun s => { s with marks := s.marks.tail }
  return ⟨kind, t.start⟩

def emptyScalar (m : Mark) : Parse Event := return ⟨.scalar ⟨none, none⟩ "" .plain, m⟩

/-- Stops at the next token, inside the innermost collection. -/
def failInside {α : Type} (context : Context) (cause : TokenKind → Cause) : Parse α := do
  let t ← peekToken
  throw (.fault ⟨some context, (← get).marks.head?, some (cause t.kind), some t.start⟩)

/-! ## Documents -/

def isDirective : TokenKind → Bool
  | .directive _ => true
  | _ => false

/-- Takes the directives before a document, declares their handles, and gives the version that
they name. -/
def directives : Nat → Option Version → List (String × String) → Parse (Option Version)
  | 0, version, _ => return version
  | fuel + 1, version, handles => do
    let t ← peekToken
    match t.kind with
    | .directive d =>
      let _ ← take
      match d with
      | .yaml v =>
        if version.isSome then throw (.fault (.here .secondVersion t.start))
        if v.major != 1 then throw (.fault (.here .incompatibleVersion t.start))
        directives fuel (some v) handles
      | .tag handle lead =>
        if handles.any (·.1 == handle) then
          throw (.fault (.here (.secondHandle handle) t.start))
        directives fuel version (handles ++ [(handle, lead)])
      | .reserved _ => directives fuel version handles
    | _ =>
      match version with
      | some v => if v.minor != 1 && v.minor != 2 then throw (.unknownMinorVersion v)
      | none => pure ()
      let missing := defaultHandles.filter fun (h, _) => !handles.any (·.1 == h)
      modify fun s => { s with handles := handles ++ missing }
      return version

/-- Takes further end markers before a document. -/
def documentEnds : Nat → Parse Unit
  | 0 => return
  | fuel + 1 => do
    if (← peekKind) == .documentEnd then
      let _ ← take
      documentEnds fuel

def document : Parse Event := do
  documentEnds ((← get).tokens.length + 1)
  if (← peekKind) == .streamEnd then
    let t ← take
    modify fun s => { s with step := none }
    return ⟨.streamEnd, t.start⟩
  let version ← directives ((← get).tokens.length + 1) none []
  let found ← peekToken
  if found.kind != .documentStart then
    throw (.fault (.here (.expectedDocumentStart found.kind) found.start))
  let t ← take
  call .documentEnd
  goto .documentContent
  return ⟨.documentStart version, t.start⟩

def implicitDocument : Parse Event := do
  let t ← peekToken
  if isDirective t.kind || t.kind == .documentStart || t.kind == .streamEnd then document
  else
    modify fun s => { s with handles := defaultHandles }
    call .documentEnd
    goto .blockNode
    return ⟨.documentStart none, t.start⟩

def documentEnd : Parse Event := do
  let t ← peekToken
  let explicit := t.kind == .documentEnd
  if explicit then
    let _ ← take
    let next ← peekToken
    if next.kind != .streamEnd && t.stop.line == next.start.line then
      throw (.fault (.here (.contentAfterDocumentEnd next.kind) next.start))
  let version := (← peek).version
  goto (if version != .v1_1 && explicit then .implicitDocument else .document)
  return ⟨.documentEnd, t.start⟩

/-! ## Nodes -/

/-- The character that the two digits of an escape stand for, or fewer digits at the end. -/
def escapedChar (digits : Text) : Except Failure Char :=
  match Numeral.ofText 16 digits with
  | .ok n => if n < 0 then .error .escapeBeyondUnicode else .ok (Text.ofCode n.toNat)
  | .error f => .error (.notNumeral f)

/-- The suffix of a tag with its escapes read. A suffix has been read from a URI before, so only
what was escaped there as a percent sign is one here. -/
def unescaped : Text → Except Failure Text
  | [] => .ok []
  | c :: r =>
    if c == '%' then do return (← escapedChar (r.take 2)) :: (← unescaped (r.drop 2))
    else (unescaped r).map (c :: ·)
  termination_by t => t.length
  decreasing_by all_goals simp; try omega

/-- The tag that a handle and a suffix make. -/
def expandTag (start tagMark : Mark) (t : Tag) : Parse String := do
  let handles := (← get).handles
  let lead ← match t.handle with
    | none => pure ""
    | some h =>
      match handles.lookup h with
      | some lead => pure lead
      | none => throw (.fault ⟨some .node, some start, some (.undefinedHandle h), some tagMark⟩)
  return lead ++ String.ofList (← unescaped t.suffix.toList)

/-- The properties before a node, in either order, and where they start. Where a tag comes
first, messages about it point to the anchor after it. -/
def properties : Parse (Properties × Option Mark) := do
  let first ← peekToken
  match first.kind with
  | .anchor name =>
    let _ ← take
    let second ← peekToken
    match second.kind with
    | .tag t =>
      let _ ← take
      return (⟨some name, some (← expandTag first.start second.start t)⟩, some first.start)
    | _ => return (⟨some name, none⟩, some first.start)
  | .tag t =>
    let _ ← take
    let second ← peekToken
    match second.kind with
    | .anchor name =>
      let _ ← take
      return (⟨some name, some (← expandTag second.start second.start t)⟩, some second.start)
    | _ => return (⟨none, some (← expandTag first.start first.start t)⟩, some first.start)
  | _ => return (⟨none, none⟩, none)

/-- A node. Block collections are read only in block context, and sequences whose entries are
not indented only as the values of block mappings. -/
def node (block indentless : Bool) : Parse Event := do
  if let ⟨.alias name, start, _⟩ ← peekToken then
    let _ ← take
    leave
    return ⟨.alias name, start⟩
  let (props, propsStart) ← properties
  let t ← peekToken
  let start := propsStart.getD t.start
  if indentless && t.kind == .blockEntry then
    goto .indentlessEntry
    return ⟨.sequenceStart props, start⟩
  match t.kind, block with
  | .scalar value style, _ =>
    let _ ← take
    leave
    return ⟨.scalar props value style, start⟩
  | .flowSequenceStart, _ =>
    goto .flowFirstEntry
    return ⟨.sequenceStart props, start⟩
  | .flowMappingStart, _ =>
    goto .flowFirstKey
    return ⟨.mappingStart props, start⟩
  | .blockSequenceStart, true =>
    goto .firstEntry
    return ⟨.sequenceStart props, start⟩
  | .blockMappingStart, true =>
    goto .firstKey
    return ⟨.mappingStart props, start⟩
  | _, _ =>
    if propsStart.isSome then
      leave
      return ⟨.scalar props "" .plain, start⟩
    throw (.fault
      ⟨some (if block then .blockNode else .flowNode), some start, some (.expectedContent t.kind),
        some t.start⟩)

/-- A node, unless the next token is one that can only follow it; then an empty scalar at `m`.
`after` is the step after either. -/
def nodeUnless (followers : List TokenKind) (block indentless : Bool) (after : Step) (m : Mark) :
    Parse Event := do
  if followers.contains (← peekKind) then
    goto after
    emptyScalar m
  else
    call after
    node block indentless

/-! ## Block collections -/

def entry : Parse Event := do
  let t ← peekToken
  if t.kind == .blockEntry then
    let _ ← take
    nodeUnless [.blockEntry, .blockEnd] true false .entry t.stop
  else if t.kind == .blockEnd then finish .sequenceEnd
  else failInside .blockCollection .expectedBlockEnd

def indentlessEntry : Parse Event := do
  let t ← peekToken
  if t.kind == .blockEntry then
    let _ ← take
    nodeUnless [.blockEntry, .key, .value, .blockEnd] true false .indentlessEntry t.stop
  else
    leave
    return ⟨.sequenceEnd, t.start⟩

def key : Parse Event := do
  let ⟨t, version⟩ ← peek
  if t.kind == .key then
    let _ ← take
    nodeUnless [.key, .value, .blockEnd] true true .value t.stop
  else if version.after1_1 && t.kind == .value then
    goto .value
    emptyScalar t.start
  else if t.kind == .blockEnd then finish .mappingEnd
  else failInside .blockMapping .expectedBlockEnd

/-- The value of a pair. One that is missing is said to be where the next token stops. -/
def value : Parse Event := do
  let t ← peekToken
  if t.kind == .value then
    let _ ← take
    nodeUnless [.key, .value, .blockEnd] true true .key (← peekToken).stop
  else
    goto .key
    emptyScalar t.start

/-! ## Flow collections -/

/-- Takes the comma before an item that is not the first. -/
def comma (context : Context) (cause : TokenKind → Cause) : Parse Unit := do
  if (← peekKind) == .flowEntry then
    let _ ← take
  else failInside context cause

def flowEntry (first : Bool) : Parse Event := do
  if (← peekKind) == .flowSequenceEnd then finish .sequenceEnd
  else
    if !first then comma .flowSequence .expectedInSequence
    let t ← peekToken
    if t.kind == .key then
      goto .pairKey
      return ⟨.mappingStart ⟨none, none⟩, t.start⟩
    else if t.kind == .flowSequenceEnd then finish .sequenceEnd
    else
      call .flowEntry
      node false false

def pairKey : Parse Event := do
  let t ← take
  nodeUnless [.value, .flowEntry, .flowSequenceEnd] false false .pairValue t.stop

def pairValue : Parse Event := do
  let t ← peekToken
  if t.kind == .value then
    let _ ← take
    nodeUnless [.flowEntry, .flowSequenceEnd] false false .pairEnd t.stop
  else
    goto .pairEnd
    emptyScalar t.start

def pairEnd : Parse Event := do
  goto .flowEntry
  return ⟨.mappingEnd, (← peekToken).start⟩

def flowKey (first : Bool) : Parse Event := do
  if (← peekKind) == .flowMappingEnd then finish .mappingEnd
  else
    if !first then comma .flowMapping .expectedInMapping
    let ⟨t, version⟩ ← peek
    if t.kind == .key then
      let _ ← take
      nodeUnless [.value, .flowEntry, .flowMappingEnd] false false .flowValue t.stop
    else if version.after1_1 && t.kind == .value then
      goto .flowValue
      emptyScalar t.stop
    else if t.kind == .flowMappingEnd then finish .mappingEnd
    else
      call .flowMissingValue
      node false false

def flowValue : Parse Event := do
  let t ← peekToken
  if t.kind == .value then
    let _ ← take
    nodeUnless [.flowEntry, .flowMappingEnd] false false .flowKey t.stop
  else
    goto .flowKey
    emptyScalar t.start

/-- Takes one step. -/
def perform : Step → Parse Event
  | .streamStart => do
    let t ← take
    goto .implicitDocument
    return ⟨.streamStart, t.start⟩
  | .implicitDocument => implicitDocument
  | .document => document
  | .documentContent => do
    let t ← peekToken
    if isDirective t.kind || [.documentStart, .documentEnd, .streamEnd].contains t.kind then
      leave
      emptyScalar t.start
    else node true false
  | .documentEnd => documentEnd
  | .blockNode => node true false
  | .firstEntry => do enter; entry
  | .entry => entry
  | .indentlessEntry => indentlessEntry
  | .firstKey => do enter; key
  | .key => key
  | .value => value
  | .flowFirstEntry => do enter; flowEntry true
  | .flowEntry => flowEntry false
  | .pairKey => pairKey
  | .pairValue => pairValue
  | .pairEnd => pairEnd
  | .flowFirstKey => do enter; flowKey true
  | .flowKey => flowKey false
  | .flowValue => flowValue
  | .flowMissingValue => do
    goto .flowKey
    emptyScalar (← peekToken).start

end Parse

/-- All that a text yields: its events, and why they stop, if not at the end of the stream. -/
structure EventStream where
  events : List Event
  failure : Option Failure
  deriving Repr

namespace EventReader

def start (s : TokenStream) : EventReader where
  tokens := s.tokens
  failure := s.failure
  step := some .streamStart
  returns := []
  marks := []
  handles := Parse.defaultHandles

/-- Takes steps to the end; `events` holds the earlier events, latest first. -/
def drain : Nat → EventReader → List Event → EventStream
  | 0, _, events => ⟨events.reverse, none⟩
  | fuel + 1, p, events =>
    match p.step with
    | none => ⟨events.reverse, none⟩
    | some step =>
      match StateT.run (Parse.perform step) p with
      | .error e => ⟨events.reverse, some e⟩
      | .ok (event, p) => drain fuel p (event :: events)

end EventReader

/-- Steps enough for any tokens: between two of them only a few steps take none. -/
def parseFuel (s : TokenStream) : Nat := 8 * (s.tokens.length + 4)

/-- The events of a text. -/
def EventStream.ofText (t : Text) : EventStream :=
  let tokens := TokenStream.ofText t
  (EventReader.start tokens).drain (parseFuel tokens) []

end YamlStyle.Yaml
