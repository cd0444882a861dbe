import YamlStyle.Yaml.Scalar

/-!
# Cutting a text into tokens

The reader keeps a queue, because a colon may turn a token already read into a key: the start
of the key, and of its mapping, are then put in front of it. A token is handed out once no
later colon can claim it, so a fault hides the tokens still in the queue.
-/

namespace YamlStyle.Yaml

inductive Bracket where
  | square | curly
  deriving DecidableEq, Repr

/-- A token that a later colon may turn into a key. -/
structure SimpleKey where
  number : Nat
  required : Bool
  mark : Mark
  deriving Repr

structure TokenReader where
  cursor : Cursor
  /-- The open flow collections, innermost first. -/
  flow : List Bracket
  /-- The column of the innermost block collection, and those of the ones around it. -/
  indent : Int
  indents : List Int
  keyAllowed : Bool
  /-- Possible keys by flow depth. -/
  keys : List (Nat × SimpleKey)
  queue : List Token
  /-- How many tokens have been handed out. -/
  taken : Nat
  version : Version
  done : Bool
  deriving Repr

abbrev Scan := StateT TokenReader (Except Failure)

namespace Scan

/-- The longest distance between the start of a key and its colon. -/
def keyReach : Nat := 1024

def lex {α : Type} (read : Lex α) : Scan α := do
  let s ← get
  let (a, cursor) ← read.run s.cursor
  set { s with cursor }
  return a

def mark : Scan Mark := do return (← get).cursor.mark

def peek : Scan (Option Char) := do return (← get).cursor.peek

def inFlow : Scan Bool := do return !(← get).flow.isEmpty

def push (kind : TokenKind) (start stop : Mark) : Scan Unit :=
  modify fun s => { s with queue := s.queue ++ [⟨kind, start, stop⟩] }

/-- Adds a token of no width at the current place. -/
def pushHere (kind : TokenKind) : Scan Unit := do
  let m ← mark
  push kind m m

/-- Adds a token for the next `width` characters. -/
def pushIndicator (kind : TokenKind) (width : Nat) : Scan Unit := do
  let start ← mark
  lex (Lex.advance width)
  push kind start (← mark)

def allowKey (allowed : Bool) : Scan Unit := modify fun s => { s with keyAllowed := allowed }

/-! ## Possible keys -/

def keyFault (key : SimpleKey) : Scan Unit := do
  throw (.fault ⟨some .simpleKey, some key.mark, some .keyWithoutValue, some (← mark)⟩)

/-- Forgets the possible keys that no colon can claim any more: a key stays on one line. -/
def dropStaleKeys : Scan Unit := do
  let s ← get
  let here := s.cursor.mark
  let isStale (key : SimpleKey) : Bool :=
    key.mark.line != here.line || keyReach < here.offset - key.mark.offset
  match s.keys.find? fun (_, key) => isStale key && key.required with
  | some (_, key) => keyFault key
  | none => set { s with keys := s.keys.filter fun (_, key) => !isStale key }

/-- Forgets the possible key at the current flow depth. -/
def dropKey : Scan Unit := do
  let s ← get
  match s.keys.lookup s.flow.length with
  | some key =>
    if key.required then keyFault key
    set { s with keys := s.keys.filter (·.1 != s.flow.length) }
  | none => return

/-- Notes that the next token may turn out to be a key. -/
def saveKey : Scan Unit := do
  let s ← get
  let required := s.flow.isEmpty && s.indent == s.cursor.mark.column
  if s.keyAllowed then
    dropKey
    modify fun s =>
      { s with keys := s.keys ++ [(s.flow.length, ⟨s.taken + s.queue.length, required, s.cursor.mark⟩)] }

/-! ## Indentation -/

/-- Closes the block collections that are deeper than a column. -/
def closeBlocks (column : Int) : List Int → Scan Unit
  | [] => return
  | outer :: outers => do
    if column < (← get).indent then
      pushHere .blockEnd
      modify fun s => { s with indent := outer, indents := outers }
      closeBlocks column outers

/-- Closes the deeper block collections, unless a flow collection is open. -/
def unwind (column : Int) : Scan Unit := do
  if !(← inFlow) then closeBlocks column (← get).indents

/-- Opens a block collection at a column that is deeper than the current one. -/
def indentTo (column : Nat) : Scan Bool := do
  let s ← get
  if s.indent < column then
    set { s with indents := s.indent :: s.indents, indent := (column : Int) }
    return true
  else return false

/-! ## Reading one token -/

/-- Skips blanks, comments and line breaks. -/
def skipGap : Nat → Scan Unit
  | 0 => return
  | fuel + 1 => do
    let flow ← inFlow
    let _ ← lex (Lex.span fun c => c == ' ' || (flow && c == '\t'))
    if (← peek) == some '#' then
      let _ ← lex (Lex.span (!isBreak ·))
    match ← lex Lex.lineBreak with
    | some _ =>
      if !flow then allowKey true
      skipGap fuel
    | none => return

def skipToToken : Scan Unit := do
  let c := (← get).cursor
  if c.mark.offset == 0 && c.peek == some '\ufeff' then lex (Lex.advance 1)
  skipGap (c.rest.length + 1)

def streamEnd : Scan Unit := do
  unwind (-1)
  dropKey
  modify fun s => { s with keyAllowed := false, keys := [], done := true }
  pushHere .streamEnd

def directive : Scan Unit := do
  unwind (-1)
  dropKey
  allowKey false
  let start ← mark
  let (d, stop) ← lex (Lex.directive (← get).version)
  if let .yaml v := d then modify fun s => { s with version := v }
  push (.directive d) start stop

def documentMarker (kind : TokenKind) : Scan Unit := do
  unwind (-1)
  dropKey
  allowKey false
  pushIndicator kind 3

def flowStart (kind : TokenKind) (bracket : Bracket) : Scan Unit := do
  saveKey
  modify fun s => { s with flow := bracket :: s.flow, keyAllowed := true }
  pushIndicator kind 1

def flowEnd (kind : TokenKind) : Scan Unit := do
  dropKey
  modify fun s => { s with flow := s.flow.tail, keyAllowed := false }
  pushIndicator kind 1

def flowEntry : Scan Unit := do
  allowKey true
  dropKey
  pushIndicator .flowEntry 1

/-- Opens a block collection here, if the place allows one and is deep enough. -/
def openBlock (kind : TokenKind) (cause : Cause) : Scan Unit := do
  if !(← get).keyAllowed then throw (.fault (.here cause (← mark)))
  if ← indentTo (← mark).column then pushHere kind

def blockEntry : Scan Unit := do
  if !(← inFlow) then openBlock .blockSequenceStart .entryNotAllowed
  allowKey true
  dropKey
  pushIndicator .blockEntry 1

def explicitKey : Scan Unit := do
  let flow ← inFlow
  if !flow then openBlock .blockMappingStart .keyNotAllowed
  allowKey !flow
  dropKey
  pushIndicator .key 1

/-- Puts a token of no width into the queue, before the token that has the given number. -/
def insertBefore (number : Nat) (kind : TokenKind) (m : Mark) : Scan Unit :=
  modify fun s =>
    let k := number - s.taken
    { s with queue := s.queue.take k ++ [⟨kind, m, m⟩] ++ s.queue.drop k }

def value : Scan Unit := do
  let s ← get
  let flow := !s.flow.isEmpty
  match s.keys.lookup s.flow.length with
  | some key =>
    set { s with keys := s.keys.filter (·.1 != s.flow.length) }
    insertBefore key.number .key key.mark
    if !flow then
      if ← indentTo key.mark.column then insertBefore key.number .blockMappingStart key.mark
    allowKey false
  | none =>
    if !flow then openBlock .blockMappingStart .valueNotAllowed
    allowKey !flow
    dropKey
  pushIndicator .value 1

/-- Adds a token that may start a key. -/
def keyCandidate (read : Lex TokenKind) : Scan Unit := do
  saveKey
  allowKey false
  let start ← mark
  let kind ← lex read
  push kind start (← mark)

def blockScalar (isFolded : Bool) : Scan Unit := do
  allowKey true
  dropKey
  let start ← mark
  let (value, stop, blankLines) ← lex (Lex.blockScalar isFolded (← get).indent)
  if blankLines then skipToToken
  push (.scalar value (if isFolded then .folded else .literal)) start stop

def plainScalar : Scan Unit := do
  saveKey
  allowKey false
  let s ← get
  let start ← mark
  let read ← lex (Lex.plainScalar ⟨!s.flow.isEmpty, s.version, s.indent + 1⟩)
  if read.afterBreak then allowKey true
  push (.scalar (String.ofList read.text) .plain) start read.stop

/-! ## What the next character starts -/

/-- Whether the colon at hand separates a key from a value. -/
def isValueIndicator (s : TokenReader) : Bool :=
  let wordEnds := endsWord (s.cursor.peekAt 1)
  match s.flow with
  | [] => wordEnds
  | bracket :: _ =>
    if s.version == .v1_1 then true
    else if bracket == .square then wordEnds
    else if s.queue.getLast?.any (·.kind == .value) then wordEnds
    else true

/-- Characters that start no plain scalar, or one only before certain others. -/
def isIndicator (c : Char) : Bool :=
  c == ' ' || c == '\t' || isBreak c || "-?:,[]\x7b\x7d#&*!|>'\"%@`".toList.contains c

/-- Whether the character at hand starts a plain scalar. -/
def startsPlain (s : TokenReader) (c : Char) : Bool :=
  let following := s.cursor.peekAt 1
  let flow := !s.flow.isEmpty
  !isIndicator c ||
    (c == '-' && !endsWord following) ||
    (s.version != .v1_1 && c == ':' && flow && following != some ' ' && following != some '\t') ||
    (!flow && (c == '?' || c == ':') && !endsWord following)

/-- Reads the token that starts with `c`. -/
def tokenAt (c : Char) : Scan Unit := do
  let s ← get
  let cursor := s.cursor
  let atLineStart := cursor.mark.column == 0
  let wordEnds := endsWord (cursor.peekAt 1)
  let flow := !s.flow.isEmpty
  if c == '%' && atLineStart then directive
  else if atLineStart && cursor.atMarker '-' then documentMarker .documentStart
  else if atLineStart && cursor.atMarker '.' then documentMarker .documentEnd
  else if c == '[' then flowStart .flowSequenceStart .square
  else if c == '\x7b' then flowStart .flowMappingStart .curly
  else if c == ']' then flowEnd .flowSequenceEnd
  else if c == '\x7d' then flowEnd .flowMappingEnd
  else if c == ',' then flowEntry
  else if c == '-' && wordEnds then blockEntry
  else if c == '?' && (flow || wordEnds) then explicitKey
  else if c == ':' && isValueIndicator s then value
  else if c == '*' then keyCandidate (TokenKind.alias <$> Lex.anchorName .alias)
  else if c == '&' then keyCandidate (TokenKind.anchor <$> Lex.anchorName .anchor)
  else if c == '!' then keyCandidate (TokenKind.tag <$> Lex.tag s.version)
  else if c == '|' && !flow then blockScalar false
  else if c == '>' && !flow then blockScalar true
  else if c == '\'' then keyCandidate ((TokenKind.scalar · .single) <$> Lex.quotedScalar false)
  else if c == '"' then keyCandidate ((TokenKind.scalar · .double) <$> Lex.quotedScalar true)
  else if startsPlain s c then plainScalar
  else throw (.fault ⟨some .nextToken, none, some (.cannotStart (some c)), some (← mark)⟩)

/-- Reads as much as one more token takes. -/
def fetch : Scan Unit := do
  skipToToken
  dropStaleKeys
  unwind (← mark).column
  match ← peek with
  | none => streamEnd
  | some c => tokenAt c

/-- Whether the first token of the queue is missing or may still turn out to be a key. -/
def needsMore : Scan Bool := do
  if (← get).done then return false
  if (← get).queue.isEmpty then return true
  dropStaleKeys
  let s ← get
  return s.keys.any fun (_, key) => key.number == s.taken

end Scan

/-- A token handed out, with the version in force by then. -/
structure Released where
  token : Token
  version : Version
  deriving Repr

/-- All that a text yields: its tokens, and why they stop, if not at the end of the stream. -/
structure TokenStream where
  tokens : List Released
  failure : Option Failure
  deriving Repr

namespace TokenReader

def start (t : Text) : TokenReader where
  cursor := .ofText t
  flow := []
  indent := -1
  indents := []
  keyAllowed := true
  keys := []
  queue := [⟨.streamStart, ⟨0, 0, 0⟩, ⟨0, 0, 0⟩⟩]
  taken := 0
  version := .v1_2
  done := false

/-- Hands out the tokens of a reader; `released` holds the earlier ones, latest first. -/
def drain : Nat → TokenReader → List Released → TokenStream
  | 0, _, released => ⟨released.reverse, none⟩
  | fuel + 1, s, released =>
    match Scan.needsMore.run s with
    | .error e => ⟨released.reverse, some e⟩
    | .ok (true, s) =>
      match Scan.fetch.run s with
      | .error e => ⟨released.reverse, some e⟩
      | .ok (_, s) => drain fuel s released
    | .ok (false, s) =>
      match s.queue with
      | [] => ⟨released.reverse, none⟩
      | t :: queue =>
        drain fuel { s with queue, taken := s.taken + 1 } (⟨t, s.version⟩ :: released)

end TokenReader

/-- The characters that may stand in a text. Halves of pairs may not, and with them those from
U+FD800 to U+FDFFF, which stand for halves: they are named by the codes of the halves. -/
def isAllowed (c : Char) : Bool :=
  let n := c.toNat
  c == '\t' || c == '\n' || c == '\r' || (0x20 ≤ n && n ≤ 0x7e) || n == 0x85 ||
    (0xa0 ≤ n && n ≤ 0xd7ff) || (0xe000 ≤ n && n ≤ 0xfffd) || (0x10000 ≤ n && !Text.isHalf c)

/-- Steps enough for any text: every read takes a character, and adds at most a few tokens. -/
def scanFuel (t : Text) : Nat := 8 * (t.length + 4)

/-- The tokens of a text. A character that may not occur hides them all. -/
def TokenStream.ofText (t : Text) : TokenStream :=
  match t.findIdx? (!isAllowed ·) with
  | some offset => ⟨[], some (.unprintable (t[offset]?.getD '\x00') offset)⟩
  | none => (TokenReader.start t).drain (scanFuel t) []

end YamlStyle.Yaml
