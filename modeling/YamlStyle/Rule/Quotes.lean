import YamlStyle.Rule.Basic
import YamlStyle.Yaml.Plain

/-!
# Quotes around strings

A rule that asks for quotes, for one style of quotes, or for no quotes where a string reads the
same without them. What is no string when plain, and what has a tag of its own, is never reported.
-/

namespace YamlStyle.Rule.Quotes

inductive QuoteType where
  /-- Either style. -/
  | any
  | single
  | double
  /-- The style of the first quoted string. -/
  | consistent
  deriving DecidableEq, Repr

def QuoteType.name : QuoteType → String
  | any => "any"
  | single => "single"
  | double => "double"
  | consistent => "consistent"

def QuoteType.ofName (s : String) : QuoteType :=
  ([single, double, consistent].find? (·.name == s)).getD any

/-- When strings have to be quoted. -/
inductive Need where
  | always | free | onlyWhenNeeded
  deriving DecidableEq, Repr

def Need.ofValue : Option OptionValue → Need
  | some (.bool true) => always
  | some (.text "only-when-needed") => onlyWhenNeeded
  | _ => free

structure Options where
  quoteType : QuoteType
  need : Need
  /-- Patterns of strings that must be quoted. -/
  extraRequired : List String
  /-- Patterns of strings that may be quoted without need. -/
  extraAllowed : List String
  allowQuotedQuotes : Bool
  checkKeys : Bool
  deriving Repr

def specs : List OptionSpec :=
  [⟨"quote-type", .oneOf [.text "any", .text "single", .text "double", .text "consistent"],
     .text "any"⟩,
   ⟨"required", .oneOf [.bool true, .bool false, .text "only-when-needed"], .bool true⟩,
   ⟨"extra-required", .listOf [.anyOf .text], .list []⟩,
   ⟨"extra-allowed", .listOf [.anyOf .text], .list []⟩,
   ⟨"allow-quoted-quotes", .ofType .bool, .bool false⟩,
   ⟨"check-keys", .ofType .bool, .bool false⟩]

def Options.ofValues (vs : OptionValues) : Options where
  quoteType := .ofName (vs.text "quote-type")
  need := .ofValue (vs.lookup "required")
  extraRequired := vs.list "extra-required"
  extraAllowed := vs.list "extra-allowed"
  allowQuotedQuotes := vs.bool "allow-quoted-quotes"
  checkKeys := vs.bool "check-keys"

/-- What is wrong with a combination of values, each of which is accepted. -/
def conflict? (vs : OptionValues) : Option String :=
  let o := Options.ofValues vs
  if o.need == .always && !o.extraAllowed.isEmpty then
    some "cannot use both \"required: true\" and \"extra-allowed\""
  else if o.need == .always && !o.extraRequired.isEmpty then
    some "cannot use both \"required: true\" and \"extra-required\""
  else if o.need == .free && !o.extraAllowed.isEmpty then
    some "cannot use both \"required: false\" and \"extra-allowed\""
  else none

/-- The number of open flow collections, and the style that the first quoted string has set. -/
structure State where
  flowDepth : Nat
  style : Option Style
  deriving DecidableEq, Repr

def State.start : State := ⟨0, none⟩

def State.follow (s : State) (x : Lexeme) : State :=
  if x.kind.isFlowStart then { s with flowDepth := s.flowDepth + 1 }
  else if x.kind.isFlowEnd then { s with flowDepth := s.flowDepth - 1 }
  else s

/-- Whether a scalar is one to look at: what may be before a string is before it. -/
def isCandidate (o : Options) (w : Window) : Bool :=
  w.curr.kind == .scalar &&
    isOneOf w.prev [.blockEntry, .flowEntry, .flowSequenceStart, .tag, .value, .key] &&
    (o.checkKeys || !isOneOf w.prev [.key]) &&
    !w.prev.any fun p => p.kind == .tag && (p.value.getD "").startsWith "!!"

def resolvesToText (value : String) : Bool := Yaml.Plain.sort .v1_1 value.toList == .text

/-- The style that quoted strings have from here on. -/
def State.settle (s : State) (o : Options) (style : Option Style) : State :=
  match style with
  | some style =>
    if o.quoteType == .consistent && style.isQuoted && s.style.isNone then
      { s with style := some style }
    else s
  | none => s

/-- Whether quotes are of the wanted style, once the style is settled. -/
def State.accepts (s : State) (o : Options) (style : Option Style) : Bool :=
  match o.quoteType with
  | .any => true
  | .single => style == some .single
  | .double => style == some .double
  | .consistent => style.any (·.isQuoted) && style == s.style

/-- Whether a quoted string holds quotes of the other style. -/
def hasQuotedQuotes (x : Lexeme) : Bool :=
  let value := (x.value.getD "").toList
  (x.style == some .single && value.contains '"') ||
    (x.style == some .double && value.contains '\'')

/-- The lexemes of a mapping with a plain value. -/
def mappingShape : List LexemeKind :=
  [.streamStart, .blockMappingStart, .key, .scalar, .value, .scalar, .blockEnd, .streamEnd]

/-- Whether a value would not read the same as the plain value of a mapping. -/
def needsQuotes (value : String) (inFlow : Bool) : Check Bool := do
  if inFlow && value.toList.any ",[]\x7b\x7d".toList.contains then return true
  let xs ← Lexeme.probe ("key: ".toList ++ value.toList)
  if xs.map (·.kind) != mappingShape then return true
  return !xs[5]?.any fun x => x.style == some .plain && x.value == some value

/-- What to say about a string, if anything; `isOk` tells whether its quotes have the style that
is wanted. -/
def complaint (o : Options) (node value : String) (isQuoted isText isOk inFlow : Bool) :
    Check (Option String) := do
  let wrongQuotes := s!"string {node} is not quoted with {o.quoteType.name} quotes"
  let notQuoted := s!"string {node} is not quoted"
  match o.need with
  | .always => return if !isQuoted || !isOk then some wrongQuotes else none
  | .free =>
    if isQuoted then return if isOk then none else some wrongQuotes
    else return if ← searchAny value.toList o.extraRequired then some notQuoted else none
  | .onlyWhenNeeded =>
    if isQuoted then
      if isText && value != "" then
        if !(← needsQuotes value inFlow) then
          if ← searchAny value.toList o.extraRequired then return none
          if ← searchAny value.toList o.extraAllowed then return none
          return some s!"string {node} is redundantly quoted with {o.quoteType.name} quotes"
      return if isOk then none else some wrongQuotes
    else return if ← searchAny value.toList o.extraRequired then some notQuoted else none

def check (o : Options) (w : Window) (s : State) : Check (State × List Finding) := do
  let x := w.curr
  let s := s.follow x
  if !isCandidate o w then return (s, [])
  let value := x.value.getD ""
  let isText := resolvesToText value
  if (x.style == some .plain && !isText) || x.style == some .block then return (s, [])
  let s := s.settle o x.style
  let isOk := s.accepts o x.style || (o.allowQuotedQuotes && hasQuotedQuotes x)
  let node := if isOneOf w.prev [.key] then "key" else "value"
  let isQuoted := x.style.any (·.isQuoted)
  match ← complaint o node value isQuoted isText isOk (0 < s.flowDepth) with
  | some desc => return (s, [.atStart x desc])
  | none => return (s, [])

end YamlStyle.Rule.Quotes
