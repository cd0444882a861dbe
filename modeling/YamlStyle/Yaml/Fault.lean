import YamlStyle.Number.Numeral
import YamlStyle.Text.Quoted
import YamlStyle.Yaml.Token

/-!
# Faults of YAML texts

What can be wrong with a text, and where. A fault has a context, what was being read when it
was found, and a cause, each with the mark it refers to.
-/

namespace YamlStyle.Yaml

open Text (quotedChar quoted)

/-- What was being read. -/
inductive Context where
  | nextToken | simpleKey | directive | directiveUri | alias | anchor | tag | tagUri
  | blockScalar | doubleQuoted | quotedScalar | deeperFollowUp
  | node | blockNode | flowNode | blockCollection | blockMapping | flowSequence | flowMapping
  | singleDocument | mapping | orderedMap | pairs
  deriving DecidableEq, Repr

def Context.phrase : Context → String
  | .nextToken => "while scanning for the next token"
  | .simpleKey => "while scanning a simple key"
  | .directive => "while scanning a directive"
  | .directiveUri => "while parsing a directive"
  | .alias => "while scanning an alias"
  | .anchor => "while scanning an anchor"
  | .tag => "while scanning a tag"
  | .tagUri => "while parsing a tag"
  | .blockScalar => "while scanning a block scalar"
  | .doubleQuoted => "while scanning a double-quoted scalar"
  | .quotedScalar => "while scanning a quoted scalar"
  | .deeperFollowUp => "more indented follow up line than first in a block scalar"
  | .node => "while parsing a node"
  | .blockNode => "while parsing a block node"
  | .flowNode => "while parsing a flow node"
  | .blockCollection => "while parsing a block collection"
  | .blockMapping => "while parsing a block mapping"
  | .flowSequence => "while parsing a flow sequence"
  | .flowMapping => "while parsing a flow mapping"
  | .singleDocument => "expected a single document in the stream"
  | .mapping => "while constructing a mapping"
  | .orderedMap => "while constructing an ordered map"
  | .pairs => "while constructing pairs"

/-- The kinds of nodes that messages tell apart. -/
inductive NodeSort where
  | scalar | sequence | mapping
  deriving DecidableEq, Repr

def NodeSort.label : NodeSort → String
  | .scalar => "scalar"
  | .sequence => "sequence"
  | .mapping => "mapping"

/-- What is wrong. A character is missing where the text ended. -/
inductive Cause where
  | cannotStart (found : Option Char)
  | keyWithoutValue
  | expectedName (found : Option Char)
  | expectedDigit (found : Option Char)
  | expectedDigitOrDot (found : Option Char)
  | expectedSpace (found : Option Char)
  | expectedCommentOrBreak (found : Option Char)
  | expectedHandle (found : Option Char)
  | expectedHandleEnd (found : Option Char)
  | expectedUri (found : Option Char)
  | expectedAngle (found : Option Char)
  | expectedUriEscape (found : Option Char)
  | undecodableUri (reason : String)
  | expectedBlockIndicator (found : Option Char)
  | zeroIndentation
  | expectedEscapeDigits (count : Nat) (found : Option Char)
  | unknownEscape (found : Option Char)
  | endInQuotes
  | separatorInQuotes
  | entryNotAllowed
  | keyNotAllowed
  | valueNotAllowed
  | secondVersion
  | incompatibleVersion
  | secondHandle (handle : String)
  | undefinedHandle (handle : String)
  | expectedDocumentStart (found : TokenKind)
  | contentAfterDocumentEnd (found : TokenKind)
  | expectedContent (found : TokenKind)
  | expectedBlockEnd (found : TokenKind)
  | expectedInSequence (found : TokenKind)
  | expectedInMapping (found : TokenKind)
  | anotherDocument
  | undefinedAlias (name : String)
  | secondKey (key value first : String)
  | secondMergeKey
  | unusableKey
  | notMergeable (found : NodeSort)
  | notMergeableItem (found : NodeSort)
  | unknownTag (tag : String)
  | expectedNode (wanted found : NodeSort)
  | expectedSequenceOfPairs (found : NodeSort)
  | expectedPair (found : NodeSort)
  | expectedOnePair (count : Nat)
  | notTimestamp (value : String)
  | binaryNotAscii (reason : String)
  | binaryNotBase64 (reason : String)
  deriving DecidableEq, Repr

def Cause.phrase : Cause → String
  | .cannotStart c => s!"found character {quotedChar c} that cannot start any token"
  | .keyWithoutValue => "could not find expected ':'"
  | .expectedName c => s!"expected alphabetic or numeric character, but found {quotedChar c}"
  | .expectedDigit c => s!"expected a digit, but found {quotedChar c}"
  | .expectedDigitOrDot c => s!"expected a digit or '.', but found {quotedChar c}"
  | .expectedSpace c => s!"expected ' ', but found {quotedChar c}"
  | .expectedCommentOrBreak c => s!"expected a comment or a line break, but found {quotedChar c}"
  | .expectedHandle c => s!"expected '!', but found {quotedChar c}"
  | .expectedHandleEnd c => s!"expected '!' but found {quotedChar c}"
  | .expectedUri c => s!"expected URI, but found {quotedChar c}"
  | .expectedAngle c => s!"expected '>' but found {quotedChar c}"
  | .expectedUriEscape c =>
    s!"expected URI escape sequence of 2 hexdecimal numbers, but found {quotedChar c}"
  | .undecodableUri reason => reason
  | .expectedBlockIndicator c =>
    s!"expected chomping or indentation indicators, but found {quotedChar c}"
  | .zeroIndentation => "expected indentation indicator in the range 1-9, but found 0"
  | .expectedEscapeDigits n c =>
    s!"expected escape sequence of {n} hexdecimal numbers, but found {quotedChar c}"
  | .unknownEscape c => s!"found unknown escape character {quotedChar c}"
  | .endInQuotes => "found unexpected end of stream"
  | .separatorInQuotes => "found unexpected document separator"
  | .entryNotAllowed => "sequence entries are not allowed here"
  | .keyNotAllowed => "mapping keys are not allowed here"
  | .valueNotAllowed => "mapping values are not allowed here"
  | .secondVersion => "found duplicate YAML directive"
  | .incompatibleVersion => "found incompatible YAML document (version 1.* is required)"
  | .secondHandle h => s!"duplicate tag handle {quoted h.toList}"
  | .undefinedHandle h => s!"found undefined tag handle {quoted h.toList}"
  | .expectedDocumentStart t =>
    s!"expected '<document start>', but found ({quoted t.label.toList},)"
  | .contentAfterDocumentEnd t =>
    s!"found non-comment content after document end marker, ({quoted t.label.toList},)"
  | .expectedContent t => s!"expected the node content, but found {quoted t.label.toList}"
  | .expectedBlockEnd t => s!"expected <block end>, but found {quoted t.label.toList}"
  | .expectedInSequence t => s!"expected ',' or ']', but got {quoted t.label.toList}"
  | .expectedInMapping t => s!"expected ',' or '\x7d', but got {quoted t.label.toList}"
  | .anotherDocument => "but found another document"
  | .undefinedAlias n => s!"found undefined alias {quoted n.toList}"
  | .secondKey k v o => s!"found duplicate key \"{k}\" with value \"{v}\" (original value: \"{o}\")"
  | .secondMergeKey => "found duplicate merge key \"<<\""
  | .unusableKey => "found unhashable key"
  | .notMergeable s => s!"expected a mapping or list of mappings for merging, but found {s.label}"
  | .notMergeableItem s => s!"expected a mapping for merging, but found {s.label}"
  | .unknownTag t => s!"could not determine a constructor for the tag {quoted t.toList}"
  | .expectedNode w f => s!"expected a {w.label} node, but found {f.label}"
  | .expectedSequenceOfPairs f => s!"expected a sequence, but found {f.label}"
  | .expectedPair f => s!"expected a mapping of length 1, but found {f.label}"
  | .expectedOnePair n => s!"expected a single mapping item, but found {n} items"
  | .notTimestamp v => s!"failed to construct timestamp from \"{v}\""
  | .binaryNotAscii r => s!"failed to convert base64 data into ascii: {r}"
  | .binaryNotBase64 r => s!"failed to decode base64 data: {r}"

/-- Advice after a fault about repeated keys. -/
def Cause.note : Cause → Option String
  | .secondKey .. => some
      "\nTo suppress this check see:\n    https://yaml.dev/doc/ruamel.yaml/api/#Duplicate_keys\n"
  | .secondMergeKey => some
      "Duplicate merge keys are never allowed, not even when\n`.allow_duplicate_keys` is set to True\n"
  | _ => none

structure Fault where
  context : Option Context
  contextMark : Option Mark
  cause : Option Cause
  mark : Option Mark
  deriving DecidableEq, Repr

namespace Fault

/-- A fault with nothing but a cause and its place. -/
def here (cause : Cause) (mark : Mark) : Fault := ⟨none, none, some cause, some mark⟩

end Fault

/-- Longest distance from the mark that an excerpt shows on either side. -/
def excerptReach : Nat := 37

/-- How far an excerpt reaches over the characters on one side of the mark, and whether it was
cut: a side that comes to the longest distance gives back five characters. -/
def excerptSide (side : Text) : Nat × Bool :=
  let n := (side.takeWhile fun c => !("\x00\r\n\x85\u2028\u2029".toList.contains c)).length
  if excerptReach ≤ n then (excerptReach - 5, true) else (n, false)

/-- The line around a mark with a caret under the place. -/
def excerpt (source : Text) (m : Mark) : String :=
  let (left, cutLeft) := excerptSide (source.take m.offset).reverse
  let (right, cutRight) := excerptSide (source.drop m.offset)
  let head := if cutLeft then " ... " else ""
  let shown := String.ofList (source.slice (m.offset - left) (m.offset + right))
  let tail := if cutRight then " ... " else ""
  "    " ++ head ++ shown ++ tail ++ "\n" ++
    String.ofList (List.replicate (4 + left + head.length) ' ') ++ s!"^ (line: {m.line + 1})"

/-- Where a mark is, with an excerpt. -/
def describeMark (source : Text) (m : Mark) : String :=
  s!"  in \"<unicode string>\", line {m.line + 1}, column {m.column + 1}:\n" ++ excerpt source m

/-- The whole report of a fault. The mark of the context is left out where the cause is at the
same place. -/
def Fault.describe (source : Text) (f : Fault) : String :=
  let samePlace := f.cause.isSome &&
    match f.contextMark, f.mark with
    | some a, some b => a.line == b.line && a.column == b.column
    | _, _ => false
  let parts : List (Option String) :=
    [f.context.map Context.phrase,
     if samePlace then none else f.contextMark.map (describeMark source),
     f.cause.map Cause.phrase,
     f.mark.map (describeMark source),
     f.cause.bind Cause.note]
  "\n".intercalate (parts.filterMap id)

/-- Why a text could not be read as YAML. A fault, or a character that must not occur, is an
error of the text; the rest are values that no text may carry. -/
inductive Failure where
  | unprintable (c : Char) (offset : Nat)
  | fault (f : Fault)
  | escapeBeyondUnicode
  | escapeBeyondWord
  | notNumeral (f : Numeral.Fault)
  | unknownMinorVersion (version : Version)
  deriving DecidableEq, Repr

namespace Failure

/-- The report of an error of the text; none for the values that no text may carry. -/
def describe? (source : Text) : Failure → Option String
  | .unprintable c offset => some
      (s!"unacceptable character #x{Text.hexDigits 4 (Text.codeOf c)}: special characters are not allowed\n" ++
        s!"  in \"<unicode string>\", position {offset}")
  | .fault f => some (f.describe source)
  | _ => none

/-- What is said of any failure. -/
def message (source : Text) : Failure → String
  | .escapeBeyondUnicode => "chr() arg not in range(0x110000)"
  | .escapeBeyondWord => "Python int too large to convert to C int"
  | .notNumeral f => f.message
  | .unknownMinorVersion v => s!"version minor part can only be 2 or 1, got ({v.major}, {v.minor})"
  | f => (f.describe? source).getD ""

/-- Where an error of the text was noticed. -/
def mark? : Failure → Option Mark
  | .fault f => f.mark
  | _ => none

/-- The cause alone, or the whole report where there is none. -/
def summary? (source : Text) : Failure → Option String
  | .fault ⟨_, _, some cause, _⟩ => some cause.phrase
  | e => e.describe? source

end Failure

end YamlStyle.Yaml
