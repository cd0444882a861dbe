import YamlStyle.Rule.Basic

/-!
# Lines

Rules on the blanks and the breaks at the end of lines, and on lines without content.
-/

namespace YamlStyle.Rule

namespace TrailingSpaces

/-- White space at the end of a line counts if its first character is a space or a tab. -/
def check (t : Text) (l : Line) : List Finding :=
  let content := l.content t
  let kept := (Text.trimEnd Text.isAsciiSpace content).length
  match content[kept]? with
  | some c => if c == ' ' || c == '\t' then [⟨l.number, kept + 1, "trailing spaces"⟩] else []
  | none => []

end TrailingSpaces

namespace FinalBreak

def check (t : Text) (l : Line) : List Finding :=
  if l.stop == t.length && l.start < l.stop then
    [⟨l.number, ↑(l.stop - l.start) + 1, "no new line character at the end of file"⟩]
  else []

end FinalBreak

namespace LineBreaks

/-- The line break that is wanted. -/
inductive Break where
  | lineFeed | returnLineFeed
  deriving DecidableEq, Repr

def Break.text : Break → Text
  | lineFeed => ['\n']
  | returnLineFeed => ['\r', '\n']

def Break.shown : Break → String
  | lineFeed => "\\n"
  | returnLineFeed => "\\r\\n"

structure Options where
  wanted : Break
  deriving Repr

def specs : List OptionSpec :=
  [⟨"type", .oneOf [.text "unix", .text "dos", .text "platform"], .text "unix"⟩]

def Options.ofValues (vs : OptionValues) : Options :=
  ⟨if vs.text "type" == "dos" then .returnLineFeed else .lineFeed⟩

/-- Only the break of the first line is looked at. -/
def check (o : Options) (t : Text) (l : Line) : List Finding :=
  let found := t.slice l.stop (l.stop + o.wanted.text.length)
  if l.start == 0 && l.stop < t.length && found != o.wanted.text then
    [⟨1, ↑(l.stop - l.start) + 1, s!"wrong new line character: expected {o.wanted.shown}"⟩]
  else []

end LineBreaks

namespace EmptyLines

structure Options where
  most : Int
  mostAtStart : Int
  mostAtEnd : Int
  deriving Repr

def specs : List OptionSpec :=
  [⟨"max", .ofType .int, .int 2⟩, ⟨"max-start", .ofType .int, .int 0⟩,
   ⟨"max-end", .ofType .int, .int 0⟩]

def Options.ofValues (vs : OptionValues) : Options :=
  ⟨vs.int "max", vs.int "max-start", vs.int "max-end"⟩

/-- The number of leading pairs of a line feed and a return, and the rest. -/
def returnBreaks : Text → Nat × Text
  | '\n' :: '\r' :: r =>
    let (n, rest) := returnBreaks r
    (n + 1, rest)
  | t => (0, t)

def breaks : Text → Nat × Text
  | '\n' :: r =>
    let (n, rest) := breaks r
    (n + 1, rest)
  | t => (0, t)

/-- The number of line breaks right before an offset, and whether they start the text: breaks
with a return are counted first, then those without. -/
def breaksBefore (t : Text) (offset : Nat) : Nat × Bool :=
  let (n, rest) := returnBreaks (t.take offset).reverse
  let (m, rest) := breaks rest
  (n + m, rest.isEmpty)

/-- Whether a blank line is followed by another one. -/
def isContinued (rest : Text) : Bool :=
  rest.take 2 == ['\n', '\n'] || rest.take 4 == ['\r', '\n', '\r', '\n']

/-- A run of blank lines is reported at the last of them. A text that is one line break has no
run. -/
def check (o : Options) (t : Text) (l : Line) : List Finding :=
  let rest := t.drop l.stop
  if l.start != l.stop || rest.isEmpty || isContinued rest then []
  else
    let (count, fromStart) := breaksBefore t l.start
    let isLast := rest == ['\n'] || rest == ['\r', '\n']
    let blank := if fromStart then count + 1 else count
    let limit := if isLast then o.mostAtEnd else if fromStart then o.mostAtStart else o.most
    if !(isLast && l.stop == 0) && limit < blank then
      [⟨l.number, 1, s!"too many blank lines ({blank} > {limit})"⟩]
    else []

end EmptyLines

namespace LineLength

structure Options where
  most : Int
  allowWords : Bool
  allowMappings : Bool
  deriving Repr

def specs : List OptionSpec :=
  [⟨"max", .ofType .int, .int 80⟩,
   ⟨"allow-non-breakable-words", .ofType .bool, .bool true⟩,
   ⟨"allow-non-breakable-inline-mappings", .ofType .bool, .bool false⟩]

def Options.ofValues (vs : OptionValues) : Options :=
  ⟨vs.int "max", vs.bool "allow-non-breakable-words",
    vs.bool "allow-non-breakable-inline-mappings"⟩

/-- What a line holds after its indentation and the mark of a comment or an entry. -/
def body (content : Text) : Text :=
  let t := content.dropWhile (· == ' ')
  match t with
  | '#' :: _ => (t.dropWhile (· == '#')).drop 1
  | '-' :: _ => t.drop 2
  | _ => t

/-- The first scalar that follows a value indicator directly. -/
def valueScalar? : List Lexeme → Option Lexeme
  | x :: y :: rest =>
    if x.kind == .value && y.kind == .scalar then some y else valueScalar? (y :: rest)
  | _ => none

/-- Whether a line is a mapping whose value has no space. -/
def isInlineMapping (content : Text) : Check Bool := do
  let xs ← Lexeme.probe content
  match xs.dropWhile (·.kind != .blockMappingStart) with
  | _ :: rest =>
    match valueScalar? rest with
    | some x => return !(content.drop x.start.column).contains ' '
    | none => return false
  | [] => return false

/-- Whether a line cannot be broken, so that its length is no fault. -/
def isUnbreakable (o : Options) (content : Text) : Check Bool := do
  if !(o.allowWords || o.allowMappings) || content.all (· == ' ') then return false
  if !(body content).contains ' ' then return true
  if o.allowMappings then isInlineMapping content else return false

def check (o : Options) (t : Text) (l : Line) : Check (List Finding) := do
  let length := l.stop - l.start
  if length ≤ o.most then return []
  if ← isUnbreakable o (l.content t) then return []
  return [⟨l.number, o.most + 1, s!"line too long ({length} > {o.most} characters)"⟩]

end LineLength

end YamlStyle.Rule
