import YamlStyle.Rule.Catalog
import YamlStyle.Text.Encoding.Detect
import YamlStyle.Yaml.ScalarValue
import YamlStyle.Host.Basic

/-!
# Faults of configurations

Why a configuration is refused, and what stops one from being looked at.
-/

namespace YamlStyle

/-- What is said of a type or a value that an option accepts. -/
def Rule.Choice.describe : Rule.Choice → String
  | .anyOf type => type.name
  | .bool b => if b then "True" else "False"
  | .text s => Text.quoted s.toList

/-- The choices that an option has. -/
def Rule.describeChoices (choices : List Rule.Choice) : String :=
  "[" ++ ", ".intercalate (choices.map Rule.Choice.describe) ++ "]"

namespace Config

/-- The fields of a configuration that have a value of their own type. -/
inductive Field where
  | base | rules | ignore | ignoreFromFile | yamlFiles | locale
  deriving DecidableEq, Repr

def Field.complaint : Field → String
  | base => "extends should be a string"
  | rules => "rules should be a mapping"
  | ignore => "ignore should contain file patterns"
  | ignoreFromFile =>
    "ignore-from-file should contain filename(s), either as a list or string"
  | yamlFiles => "yaml-files should be a list of file patterns"
  | locale => "locale should be a string"

/-- What is wrong with the entry of a rule. -/
inductive EntryFault where
  | notEntry
  | ignore
  | ignoreFromFile
  | level
  | unknownOption (key : String)
  /-- An unknown option that is called by a number of too many digits. -/
  | unwritableOption
  | notOfType (key : String) (type : Rule.OptionType)
  | notOneOf (key : String) (choices : List Rule.Choice)
  | notListOf (key : String) (choices : List Rule.Choice)
  | conflict (complaint : String)
  deriving DecidableEq, Repr

def EntryFault.message (rule : String) : EntryFault → String
  | notEntry => s!"rule \"{rule}\": should be either \"enable\", \"disable\" or a mapping"
  | ignore => "ignore should contain file patterns"
  | ignoreFromFile =>
    "ignore-from-file should contain valid filename(s), either as a list or string"
  | level => "level should be \"error\" or \"warning\""
  | unwritableOption => Numeral.tooLongMessage ""
  | unknownOption key => s!"unknown option \"{key}\" for rule \"{rule}\""
  | notOfType key type => s!"option \"{key}\" of \"{rule}\" should be {type.name}"
  | notOneOf key choices =>
    s!"option \"{key}\" of \"{rule}\" should be in {Rule.describeChoices choices}"
  | notListOf key choices =>
    s!"option \"{key}\" of \"{rule}\" should only contain values in {Rule.describeChoices choices}"
  | conflict complaint => s!"{rule}: {complaint}"

inductive Fault where
  /-- Both a text and a file have been given. -/
  | twoSources
  | unreadable (report : String)
  | notMapping
  | field (f : Field)
  /-- A field under its other name has something other than text, or than a list. -/
  | notText
  | notList
  | bothIgnores
  | cannotRead (path reason : String)
  | cannotReadIgnore (reason : String)
  | unknownRule (name : String)
  | entry (rule : String) (f : EntryFault)
  deriving DecidableEq, Repr

def Fault.message : Fault → String
  | twoSources => "LintConfig takes either content or file, not both"
  | unreadable report => s!"invalid config: {report}"
  | notMapping => "invalid config: not a mapping"
  | field f => s!"invalid config: {f.complaint}"
  | notText => "invalid config: Input should be a valid string"
  | notList => "invalid config: Input should be a valid list"
  | bothIgnores => "invalid config: ignore and ignore-from-file keys cannot be used together"
  | cannotRead path reason => s!"invalid config: cannot read {path}: {reason}"
  | cannotReadIgnore reason => s!"invalid config: cannot read ignore file: {reason}"
  | unknownRule name => s!"invalid config: {Rule.unknown name}"
  | entry rule f => s!"invalid config: {f.message rule}"

/-- Why there is no configuration: it is at fault, or something in it is no value, or bytes or
paths are such that nothing can be read. -/
inductive Failure where
  | fault (f : Fault)
  | valueless (source : Text) (f : Yaml.LoadFailure)
  | undecodable (f : Text.DecodeFailure)
  | unreachable (e : FileError)
  /-- A number that a message should show has too many digits. -/
  | unwritable
  /-- The configurations that it extends have no end. -/
  | endless
  deriving Repr

/-- Whether a failure is told as a message: a fault, or one that the system finds with a file. -/
def Failure.isTold : Failure → Bool
  | fault _ => true
  | unreachable e => e.fault.isOfSystem
  | _ => false

def Failure.message : Failure → String
  | fault f => f.message
  | valueless source f => f.message source
  | undecodable f => f.message
  | unreachable e => e.message
  | unwritable => Numeral.tooLongMessage ""
  | endless => "maximum recursion depth exceeded"

end Config

end YamlStyle
