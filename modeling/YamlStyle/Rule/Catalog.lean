import YamlStyle.Rule.Anchors
import YamlStyle.Rule.Comments
import YamlStyle.Rule.Documents
import YamlStyle.Rule.Indentation
import YamlStyle.Rule.Keys
import YamlStyle.Rule.Lines
import YamlStyle.Rule.Quotes
import YamlStyle.Rule.Scalars
import YamlStyle.Rule.Spacing

/-!
# The rules

The rules by what they look at, with the options each of them takes, the state each of them
keeps, and its check.
-/

namespace YamlStyle

open Rule

/-- The rules that look at lexemes. -/
inductive LexemeRule where
  | braces | brackets | colons | commas | hyphens | documentStart | documentEnd | emptyValues
  | truthy | octalValues | floatValues | keyDuplicates | anchors | keyOrdering | quotedStrings
  | indentation
  deriving DecidableEq, Repr

namespace LexemeRule

def name : LexemeRule → String
  | braces => "braces"
  | brackets => "brackets"
  | colons => "colons"
  | commas => "commas"
  | hyphens => "hyphens"
  | documentStart => "document-start"
  | documentEnd => "document-end"
  | emptyValues => "empty-values"
  | truthy => "truthy"
  | octalValues => "octal-values"
  | floatValues => "float-values"
  | keyDuplicates => "key-duplicates"
  | anchors => "anchors"
  | keyOrdering => "key-ordering"
  | quotedStrings => "quoted-strings"
  | indentation => "indentation"

def specs : LexemeRule → List OptionSpec
  | braces | brackets => FlowCollections.specs
  | colons => Colons.specs
  | commas => Commas.specs
  | hyphens => Hyphens.specs
  | documentStart | documentEnd => DocumentMark.specs
  | emptyValues => EmptyValues.specs
  | truthy => Truthy.specs
  | octalValues => Octals.specs
  | floatValues => Floats.specs
  | keyDuplicates => KeyDuplicates.specs
  | anchors => Anchors.specs
  | keyOrdering => KeyOrdering.specs
  | quotedStrings => Quotes.specs
  | indentation => Indentation.specs

abbrev Options : LexemeRule → Type
  | braces | brackets => FlowCollections.Options
  | colons => Colons.Options
  | commas => Commas.Options
  | hyphens => Hyphens.Options
  | documentStart | documentEnd => DocumentMark
  | emptyValues => EmptyValues.Options
  | truthy => Truthy.Options
  | octalValues => Octals.Options
  | floatValues => Floats.Options
  | keyDuplicates => KeyDuplicates.Options
  | anchors => Anchors.Options
  | keyOrdering => KeyOrdering.Options
  | quotedStrings => Quotes.Options
  | indentation => Indentation.Options

/-- What a rule keeps from one lexeme to the next. -/
abbrev State : LexemeRule → Type
  | truthy => Truthy.State
  | keyDuplicates | keyOrdering => Keys.State
  | anchors => Anchors.State
  | quotedStrings => Quotes.State
  | indentation => Indentation.State
  | _ => Unit

def options (vs : OptionValues) : (r : LexemeRule) → r.Options
  | braces | brackets => FlowCollections.Options.ofValues vs
  | colons => Colons.Options.ofValues vs
  | commas => Commas.Options.ofValues vs
  | hyphens => Hyphens.Options.ofValues vs
  | documentStart | documentEnd => DocumentMark.ofValues vs
  | emptyValues => EmptyValues.Options.ofValues vs
  | truthy => Truthy.Options.ofValues vs
  | octalValues => Octals.Options.ofValues vs
  | floatValues => Floats.Options.ofValues vs
  | keyDuplicates => KeyDuplicates.Options.ofValues vs
  | anchors => Anchors.Options.ofValues vs
  | keyOrdering => KeyOrdering.Options.ofValues vs
  | quotedStrings => Quotes.Options.ofValues vs
  | indentation => Indentation.Options.ofValues vs

/-- The state before the first lexeme. -/
def start : (r : LexemeRule) → r.Options → r.State
  | truthy, _ => none
  | keyDuplicates, _ | keyOrdering, _ => ([] : Keys.State)
  | anchors, _ => ([] : Anchors.State)
  | quotedStrings, _ => Quotes.State.start
  | indentation, o => Indentation.State.start o
  | braces, _ | brackets, _ | colons, _ | commas, _ | hyphens, _ | documentStart, _
  | documentEnd, _ | emptyValues, _ | octalValues, _ | floatValues, _ => ()

/-- What a rule has to say about a lexeme of the text `t`, and its state after it. -/
def check (t : Text) (w : Window) :
    (r : LexemeRule) → r.Options → r.State → Check (r.State × List Finding)
  | braces, o, s => pure (s, FlowCollections.check FlowCollections.mappings o t w)
  | brackets, o, s => pure (s, FlowCollections.check FlowCollections.sequences o t w)
  | colons, o, s => pure (s, Colons.check o t w)
  | commas, o, s => pure (s, Commas.check o t w)
  | hyphens, o, s => pure (s, Hyphens.check o w)
  | documentStart, o, s => pure (s, o.checkStart w)
  | documentEnd, o, s => pure (s, o.checkStop w)
  | emptyValues, o, s => pure (s, EmptyValues.check o w)
  | truthy, o, s => Truthy.check o w s
  | octalValues, o, s => pure (s, Octals.check o w)
  | floatValues, o, s => pure (s, Floats.check o w)
  | keyDuplicates, o, s => pure (KeyDuplicates.check o w s)
  | anchors, o, s => pure (Anchors.check o w s)
  | keyOrdering, o, s => KeyOrdering.check o w s
  | quotedStrings, o, s => Quotes.check o w s
  | indentation, o, s => pure (Indentation.check o t w s)

end LexemeRule

/-- The rules that look at comments. -/
inductive CommentRule where
  | comments | commentsIndentation
  deriving DecidableEq, Repr

namespace CommentRule

def name : CommentRule → String
  | comments => "comments"
  | commentsIndentation => "comments-indentation"

def specs : CommentRule → List OptionSpec
  | comments => Comments.specs
  | commentsIndentation => []

def check (vs : OptionValues) (t : Text) (c : Comment) : CommentRule → List Finding
  | comments => Comments.check (.ofValues vs) t c
  | commentsIndentation => CommentIndentation.check t c

end CommentRule

/-- The rules that look at lines. -/
inductive LineRule where
  | trailingSpaces | newLineAtEndOfFile | newLines | lineLength | emptyLines
  deriving DecidableEq, Repr

namespace LineRule

def name : LineRule → String
  | trailingSpaces => "trailing-spaces"
  | newLineAtEndOfFile => "new-line-at-end-of-file"
  | newLines => "new-lines"
  | lineLength => "line-length"
  | emptyLines => "empty-lines"

def specs : LineRule → List OptionSpec
  | newLines => LineBreaks.specs
  | lineLength => LineLength.specs
  | emptyLines => EmptyLines.specs
  | trailingSpaces | newLineAtEndOfFile => []

def check (vs : OptionValues) (t : Text) (l : Line) : LineRule → Check (List Finding)
  | trailingSpaces => pure (TrailingSpaces.check t l)
  | newLineAtEndOfFile => pure (FinalBreak.check t l)
  | newLines => pure (LineBreaks.check (.ofValues vs) t l)
  | lineLength => LineLength.check (.ofValues vs) t l
  | emptyLines => pure (EmptyLines.check (.ofValues vs) t l)

end LineRule

inductive Rule where
  | lexeme (r : LexemeRule)
  | comment (r : CommentRule)
  | line (r : LineRule)
  deriving DecidableEq, Repr

namespace Rule

def name : Rule → String
  | lexeme r => r.name
  | comment r => r.name
  | line r => r.name

def specs : Rule → List OptionSpec
  | lexeme r => r.specs
  | comment r => r.specs
  | line r => r.specs

/-- All rules: those for lines first, then those for comments, then those for lexemes. -/
def all : List Rule :=
  [.trailingSpaces, .newLineAtEndOfFile, .newLines, .lineLength, .emptyLines].map line ++
    [.comments, .commentsIndentation].map comment ++
    [.braces, .brackets, .colons, .commas, .hyphens, .documentStart, .documentEnd, .emptyValues,
     .truthy, .octalValues, .floatValues, .keyDuplicates, .anchors, .keyOrdering, .quotedStrings,
     .indentation].map lexeme

def ofName? (s : String) : Option Rule := all.find? (·.name == s)

/-- The names of all rules in order. -/
def names : List String := (all.map name).mergeSort fun a b => a ≤ b

/-- What is said of a name that no rule has. -/
def unknown (s : String) : String :=
  s!"no such rule: \"{s}\". Available: " ++ ", ".intercalate names

/-- What a rule looks at. -/
def category : Rule → String
  | lexeme _ => "token"
  | comment _ => "comment"
  | line _ => "line"

/-- The name of a rule in one word. -/
def title (r : Rule) : String :=
  String.join ((r.name.splitOn "-").map String.capitalize) ++ "Rule"

/-- A rule as messages show it. -/
def shown (r : Rule) : String := s!"<{r.title} {r.name}>"

/-- The values of the options of a rule where none is given. -/
def defaults (r : Rule) : OptionValues := r.specs.map fun s => (s.name, s.default)

/-- What is wrong with a combination of values that are all accepted. -/
def conflict? (vs : OptionValues) : Rule → Option String
  | lexeme .quotedStrings => Quotes.conflict? vs
  | _ => none

end Rule

end YamlStyle
