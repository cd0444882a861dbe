import YamlStyle.Number.Numeral
import YamlStyle.Rule.Basic
import YamlStyle.Yaml.Plain

/-!
# What scalars look like

Rules against values left out, and against plain scalars that may be read as truth values or as
numbers where a text is meant.
-/

namespace YamlStyle.Rule

namespace EmptyValues

structure Options where
  inBlockMappings : Bool
  inFlowMappings : Bool
  inBlockSequences : Bool
  deriving Repr

def specs : List OptionSpec :=
  [⟨"forbid-in-block-mappings", .ofType .bool, .bool true⟩,
   ⟨"forbid-in-flow-mappings", .ofType .bool, .bool true⟩,
   ⟨"forbid-in-block-sequences", .ofType .bool, .bool true⟩]

def Options.ofValues (vs : OptionValues) : Options :=
  ⟨vs.bool "forbid-in-block-mappings", vs.bool "forbid-in-flow-mappings",
    vs.bool "forbid-in-block-sequences"⟩

def check (o : Options) (w : Window) : List Finding :=
  let finding (isForbidden : Bool) (kind : LexemeKind) (followers : List LexemeKind)
      (place : String) : List Finding :=
    if isForbidden && w.curr.kind == kind && isOneOf w.next followers then
      [.atStop w.curr s!"empty value in {place}"]
    else []
  finding o.inBlockMappings .value [.key, .blockEnd] "block mapping" ++
    finding o.inFlowMappings .value [.flowEntry, .flowMappingEnd] "flow mapping" ++
    finding o.inBlockSequences .blockEntry [.key, .blockEnd, .blockEntry] "block sequence"

end EmptyValues

/-- Whether a tag says what a lexeme stands for. -/
def isTagged (w : Window) : Bool := isOneOf w.prev [.tag]

/-- The value of a plain scalar without a tag. -/
def untaggedPlain? (w : Window) : Option String :=
  if isTagged w || w.curr.kind != .scalar || w.curr.style != some .plain then none
  else w.curr.value

namespace Truthy

structure Options where
  allowed : List String
  checkKeys : Bool
  deriving Repr

/-- The truth values of version 1.2. -/
def values1_2 : List String := ["TRUE", "True", "true", "FALSE", "False", "false"]

def values1_1 : List String :=
  ["YES", "Yes", "yes", "NO", "No", "no"] ++ values1_2 ++ ["ON", "On", "on", "OFF", "Off", "off"]

def specs : List OptionSpec :=
  [⟨"allowed-values", .listOf (values1_1.map .text), .list ["true", "false"]⟩,
   ⟨"check-keys", .ofType .bool, .bool true⟩]

def Options.ofValues (vs : OptionValues) : Options := ⟨vs.list "allowed-values", vs.bool "check-keys"⟩

/-- The version that the document at hand has been given by a directive. -/
abbrev State := Option Yaml.Version

/-- Whether a text is made of digits, be they of any script, raised or circled. -/
def isDigits (t : Text) : Bool := !t.isEmpty && t.all Text.isAnyDigit

/-- The version that a directive names, if it names one. Not all digits write numbers. -/
def directiveVersion? (directive : Text) : Except Numeral.Fault (Option Yaml.Version) :=
  match directive.words Text.isSpace with
  | [name, version] => do
    let major := version.takeWhile (· != '.')
    let minor := version.drop (major.length + 1)
    if name == "%YAML".toList && isDigits major && isDigits minor then
      let major ← Numeral.ofText 10 major
      return some ⟨major.toNat, (← Numeral.ofText 10 minor).toNat⟩
    else return none
  | _ => return none

def State.follow (s : State) (x : Lexeme) : Except Numeral.Fault State :=
  match x.kind with
  | .directive => return (← directiveVersion? (x.value.getD "").toList).or s
  | .documentEnd => return none
  | _ => return s

/-- The values that are truth values in the version at hand. -/
def State.values (s : State) : List String := if s == some .v1_2 then values1_2 else values1_1

def desc (o : Options) : String :=
  let allowed := o.allowed.mergeSort fun a b => a ≤ b
  "truthy value should be one of [" ++ ", ".intercalate allowed ++ "]"

/-- What there is to say about a lexeme, given the version at hand. -/
def findings (o : Options) (w : Window) (s : State) : List Finding :=
  match untaggedPlain? w with
  | some value =>
    let isSkipped := !o.checkKeys && isOneOf w.prev [.key]
    if !isSkipped && s.values.contains value && !o.allowed.contains value then
      [.atStart w.curr (desc o)]
    else []
  | none => []

def check (o : Options) (w : Window) (s : State) : Check (State × List Finding) := do
  let s ← Logged.ofExcept ((s.follow w.curr).mapError .notNumeral)
  return (s, findings o w s)

end Truthy

/-- A text without a line feed at its end. -/
def dropFinalBreak (t : Text) : Text := if t.getLast? == some '\n' then t.dropLast else t

namespace Octals

structure Options where
  implicit : Bool
  explicit : Bool
  deriving Repr

def specs : List OptionSpec :=
  [⟨"forbid-implicit-octal", .ofType .bool, .bool true⟩,
   ⟨"forbid-explicit-octal", .ofType .bool, .bool true⟩]

def Options.ofValues (vs : OptionValues) : Options :=
  ⟨vs.bool "forbid-implicit-octal", vs.bool "forbid-explicit-octal"⟩

def isOctal (t : Text) : Bool := !t.isEmpty && t.all Text.isOctalDigit

/-- A zero and digits below eight. -/
def isImplicit : Text → Bool
  | '0' :: r => isOctal r
  | _ => false

/-- `0o` and digits below eight. A line feed at the end does not count. -/
def isExplicit : Text → Bool
  | '0' :: 'o' :: r => isOctal (dropFinalBreak r)
  | _ => false

def check (o : Options) (w : Window) : List Finding :=
  match untaggedPlain? w with
  | some value =>
    let finding (isForbidden : Bool) (sort : String) : List Finding :=
      if isForbidden then [.atStop w.curr s!"forbidden {sort} octal value \"{value}\""] else []
    finding (o.implicit && isImplicit value.toList) "implicit" ++
      finding (o.explicit && isExplicit value.toList) "explicit"
  | none => []

end Octals

namespace Floats

structure Options where
  requireNumeral : Bool
  forbidScientific : Bool
  forbidNaN : Bool
  forbidInfinity : Bool
  deriving Repr

def specs : List OptionSpec :=
  [⟨"require-numeral-before-decimal", .ofType .bool, .bool false⟩,
   ⟨"forbid-scientific-notation", .ofType .bool, .bool false⟩,
   ⟨"forbid-nan", .ofType .bool, .bool false⟩,
   ⟨"forbid-inf", .ofType .bool, .bool false⟩]

def Options.ofValues (vs : OptionValues) : Options :=
  ⟨vs.bool "require-numeral-before-decimal", vs.bool "forbid-scientific-notation",
    vs.bool "forbid-nan", vs.bool "forbid-inf"⟩

/-- The digits in front, and the rest. -/
def digits (t : Text) : Text × Text := (t.takeWhile Text.isDigit, t.dropWhile Text.isDigit)

/-- Whether a number starts with its point. -/
def lacksNumeral (t : Text) : Bool :=
  match Yaml.Plain.unsigned t with
  | '.' :: r =>
    let (fraction, rest) := digits r
    !fraction.isEmpty && (rest.isEmpty || Yaml.Plain.isExponent true rest)
  | _ => false

/-- Whether a number has an exponent. -/
def isScientific (t : Text) : Bool :=
  let (whole, rest) := digits (Yaml.Plain.unsigned t)
  match rest with
  | '.' :: r =>
    let (fraction, rest) := digits r
    !(whole.isEmpty && fraction.isEmpty) && Yaml.Plain.isExponent true rest
  | _ => !whole.isEmpty && Yaml.Plain.isExponent true rest

def check (o : Options) (w : Window) : List Finding :=
  match untaggedPlain? w with
  | some value =>
    let t := dropFinalBreak value.toList
    let finding (isForbidden : Bool) (desc : String) : List Finding :=
      if isForbidden then [.atStart w.curr s!"{desc} \"{value}\""] else []
    finding (o.forbidNaN && Yaml.Plain.isNotANumber t) "forbidden not a number value" ++
      finding (o.forbidInfinity && Yaml.Plain.isInfinite t) "forbidden infinite value" ++
      finding (o.forbidScientific && isScientific t) "forbidden scientific notation" ++
      finding (o.requireNumeral && lacksNumeral t) "forbidden decimal missing 0 prefix"
  | none => []

end Floats

end YamlStyle.Rule
