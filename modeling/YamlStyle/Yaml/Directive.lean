import YamlStyle.Yaml.Cursor
import YamlStyle.Text.Encoding.Utf

/-!
# Tags and directives

Handles, URIs with their escapes, tags, and the lines that start with a percent sign.
-/

namespace YamlStyle.Yaml.Lex

open Text (isDigit isAsciiLetter isHexDigit numberIn)

/-- A handle: a lone bang, or a word between two. `context` names what it belongs to. -/
def handle (context : Context) (start : Mark) : Lex String := do
  let c ← get
  if c.peek != some '!' then fail context start (.expectedHandle c.peek)
  if c.peekAt 1 == some ' ' then
    advance 1
    return "!"
  let word := (c.rest.drop 1).takeWhile isWordChar
  let found := c.peekAt (1 + word.length)
  if found != some '!' then
    advance (1 + word.length)
    fail context start (.expectedHandleEnd found)
  advance (word.length + 2)
  return String.ofList ('!' :: word ++ ['!'])

/-- One or more escapes in a row, decoded together. -/
def uriEscapes (context : Context) (start : Mark) : Nat → List UInt8 → Lex (List UInt8)
  | 0, bytes => return bytes
  | fuel + 1, bytes => do
    if (← peek) != some '%' then return bytes
    advance 1
    let c ← get
    let digits := c.rest.take 2
    match ([0, 1].map c.peekAt).find? fun d => !(d.map isHexDigit).getD false with
    | some found => fail context start (.expectedUriEscape found)
    | none =>
      advance 2
      uriEscapes context start fuel (bytes ++ [UInt8.ofNat (numberIn 16 digits)])

def isUriChar (version : Version) (c : Char) : Bool :=
  isDigit c || isAsciiLetter c || "-;/?:@&=+$,_.!~*'()[]%".toList.contains c ||
    (version.after1_1 && c == '#')

/-- The characters of a URI. The contexts name what the URI and its escapes belong to. -/
def uriParts (version : Version) (escapes : Context) (start : Mark) : Nat → Text → Lex Text
  | 0, read => return read
  | fuel + 1, read => do
    let plain ← span fun c => isUriChar version c && c != '%'
    let read := read ++ plain
    if (← peek) != some '%' then return read
    let escapesAt ← mark
    let bytes ← uriEscapes escapes start (← get).rest.length []
    match Text.Utf8.decode bytes with
    | .ok decoded => uriParts version escapes start fuel (read ++ decoded)
    | .error reason =>
      throw (.fault ⟨some escapes, some start, some (.undecodableUri reason.message), some escapesAt⟩)

def uri (version : Version) (context escapes : Context) (start : Mark) : Lex String := do
  let before ← mark
  let read ← uriParts version escapes start ((← get).rest.length + 1) []
  if (← mark).offset == before.offset then fail context start (.expectedUri (← peek))
  return String.ofList read

/-- A tag, from its first bang on. -/
def tag (version : Version) : Lex Tag := do
  let start ← mark
  let short := if (← get).peekAt 1 == some '!' then "!!" else "!"
  advance (short.length - 1)
  let c ← get
  let read : Tag ←
    if c.peekAt 1 == some '<' then
      advance 2
      let suffix ← uri version .tagUri .tag start
      if (← peek) != some '>' then fail .tagUri start (.expectedAngle (← peek))
      advance 1
      pure ⟨none, suffix⟩
    else if endsWord (c.peekAt 1) then
      advance 1
      pure ⟨none, short⟩
    else if ((c.rest.drop 1).takeWhile fun ch => !endsName (some ch)).contains '!' then
      let h ← handle .tag start
      pure ⟨some h, ← uri version .tagUri .tag start⟩
    else
      advance 1
      pure ⟨some short, ← uri version .tagUri .tag start⟩
  if !endsName (← peek) then fail .tag start (.expectedSpace (← peek))
  return read

/-- A character of the name of an anchor or an alias. -/
def isAnchorChar (c : Char) : Bool :=
  let n := c.toNat
  !(",[]\x7b\x7d".toList.contains c) &&
    ((0x21 ≤ n && n ≤ 0x7e) || (0xa0 ≤ n && n ≤ 0xd7ff) ||
      (0xe000 ≤ n && n ≤ 0xfffd && n != 0xfeff) || 0x10000 ≤ n)

/-- The name of an anchor or alias, from its indicator on. -/
def anchorName (context : Context) : Lex String := do
  let start ← mark
  advance 1
  let name ← span isAnchorChar
  let found ← peek
  let closed := endsName found || endsWord found ||
    (found.map "?:,[]\x7b\x7d%@`".toList.contains).getD false
  if name.isEmpty || !closed then fail context start (.expectedName found)
  return String.ofList name

/-- A number of a version. -/
def versionNumber (start : Mark) : Lex Nat := do
  let digits ← span isDigit
  if digits.isEmpty then fail .directive start (.expectedDigit (← peek))
  match Numeral.ofText 10 digits with
  | .ok n => return n.toNat
  | .error f => throw (.notNumeral f)

def versionValue (start : Mark) : Lex Version := do
  let _ ← span (· == ' ')
  let major ← versionNumber start
  if (← peek) != some '.' then fail .directive start (.expectedDigitOrDot (← peek))
  advance 1
  let minor ← versionNumber start
  if !endsName (← peek) then fail .directive start (.expectedDigitOrDot (← peek))
  return ⟨major, minor⟩

def tagValue (version : Version) (start : Mark) : Lex (String × String) := do
  let _ ← span (· == ' ')
  let h ← handle .directive start
  if (← peek) != some ' ' then fail .directive start (.expectedSpace (← peek))
  let _ ← span (· == ' ')
  let lead ← uri version .directiveUri .directive start
  if !endsName (← peek) then fail .directive start (.expectedSpace (← peek))
  return (h, lead)

/-- Skips what may follow on the line of a directive or of the head of a block scalar. -/
def restOfLine (context : Context) (start : Mark) : Lex Unit := do
  let _ ← span (· == ' ')
  if (← peek) == some '#' then
    let _ ← span (!isBreak ·)
  if !endsLine (← peek) then fail context start (.expectedCommentOrBreak (← peek))
  let _ ← lineBreak

/-- A directive line, with the mark at which the directive proper stops. -/
def directive (version : Version) : Lex (Directive × Mark) := do
  let start ← mark
  advance 1
  let name ← span fun c => isWordChar c || c == ':' || c == '.'
  if name.isEmpty || !endsName (← peek) then fail .directive start (.expectedName (← peek))
  let read ←
    if name == "YAML".toList then
      let v ← versionValue start
      pure (Directive.yaml v, ← mark)
    else if name == "TAG".toList then
      let (h, lead) ← tagValue version start
      pure (.tag h lead, ← mark)
    else
      let stop ← mark
      let _ ← span (!isBreak ·)
      pure (.reserved (String.ofList name), stop)
  restOfLine .directive start
  return read

end YamlStyle.Yaml.Lex
