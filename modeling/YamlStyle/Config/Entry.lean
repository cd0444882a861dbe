import YamlStyle.Config.Document
import YamlStyle.Path.Pattern

/-!
# Entries of rules

What a configuration says of one rule: off, on, or on with some options. An option that is not
given has the value that the rule has for it.
-/

namespace YamlStyle

/-- A rule that is on, with the level of its problems, the values of all its options, and the
files that it leaves alone. -/
structure ConfiguredRule where
  rule : Rule
  level : Level
  options : OptionValues
  ignore : Option PathPatterns
  deriving DecidableEq, Repr

namespace Rule

/-- The value of an option, if a choice accepts it. -/
def Choice.accept? : Choice → Yaml.Value → Option OptionValue
  | .anyOf .bool, .bool b => some (.bool b)
  | .anyOf .int, .int n => some (.int n)
  | .anyOf .text, .text s => some (.text s)
  | .bool b, .bool b' => if b == b' then some (.bool b) else none
  | .text s, .text s' => if s == s' then some (.text s) else none
  | _, _ => none

/-- The value of an option, if one of the choices accepts it. -/
def acceptAny? (choices : List Choice) (v : Yaml.Value) : Option OptionValue :=
  choices.findSome? (·.accept? v)

/-- The value of an item of a list, if one of the choices accepts it. -/
def acceptItem? (choices : List Choice) (v : Yaml.Value) : Option String :=
  match acceptAny? choices v with
  | some (.text s) => some s
  | _ => none

/-- The value of an option, if its schema accepts it. -/
def Schema.accept? : Schema → Yaml.Value → Option OptionValue
  | .ofType type, v => (Choice.anyOf type).accept? v
  | .oneOf choices, v => acceptAny? choices v
  | .listOf choices, .list xs => (xs.mapM (acceptItem? choices)).map .list
  | .listOf _, _ => none

end Rule

namespace Config

/-- What is said where a schema does not accept the value of an option. -/
def schemaFault (key : String) : Rule.Schema → EntryFault
  | .ofType type => .notOfType key type
  | .oneOf choices => .notOneOf key choices
  | .listOf choices => .notListOf key choices

/-- Where the patterns of files to leave alone come from. -/
inductive IgnoreSource where
  | none
  | lines (ls : List Text)
  | files (names : List String)
  deriving DecidableEq, Repr

namespace Entry

open Yaml (Item Value)

/-- The keys that the entry of any rule may have. -/
def commonKeys : List String := ["level", "ignore", "ignore-from-file"]

def isOff : Value → Bool
  | .bool false | .text "disable" => true
  | _ => false

/-- The settings of a rule that is on. -/
def settings? : Value → Option (List (Item × Value))
  | .bool true | .text "enable" => some []
  | .map pairs => some pairs
  | _ => none

def ignoreSource (pairs : List (Item × Value)) : Except EntryFault IgnoreSource :=
  match Yaml.Value.get? pairs "ignore-from-file", Yaml.Value.get? pairs "ignore" with
  | some v, _ =>
    match Value.namesOf? v with
    | some names => .ok (.files names)
    | none => .error .ignoreFromFile
  | none, some v =>
    match Value.lines? v with
    | some ls => .ok (.lines ls)
    | none => .error .ignore
  | none, none => .ok .none

def level (pairs : List (Item × Value)) : Except EntryFault Level :=
  match Yaml.Value.get? pairs "level" with
  | none => .ok .error
  | some (.text s) =>
    match Level.ofName? s with
    | some l => .ok l
    | none => .error .level
  | some _ => .error .level

def isCommon : Item → Bool
  | .atom (.text s) => commonKeys.contains s
  | _ => false

/-- The option of a rule that a key names. -/
def spec? (rule : Rule) : Item → Option Rule.OptionSpec
  | .atom (.text s) => rule.specs.find? (·.name == s)
  | _ => none

/-- The options that the settings give, each accepted by its schema. -/
def given (rule : Rule) : List (Item × Value) → Except EntryFault OptionValues
  | [] => .ok []
  | (key, value) :: rest =>
    if isCommon key then given rule rest
    else
      match spec? rule key with
      | none => .error ((Value.shownKey? key).elim .unwritableOption .unknownOption)
      | some spec =>
        match spec.schema.accept? value with
        | none => .error (schemaFault spec.name spec.schema)
        | some v => (given rule rest).map ((spec.name, v) :: ·)

/-- All options of a rule: those given, and its own values for the others. -/
def completed (rule : Rule) (given : OptionValues) : OptionValues :=
  rule.defaults.map fun (name, value) => (name, (given.lookup name).getD value)

/-- The rule that an entry with these settings turns on. `ignore` has the patterns of files to
leave alone. -/
def configure (rule : Rule) (pairs : List (Item × Value)) (ignore : Option PathPatterns) :
    Except EntryFault ConfiguredRule := do
  let level ← level pairs
  let options := completed rule (← given rule pairs)
  match rule.conflict? options with
  | some complaint => .error (.conflict complaint)
  | none => return ⟨rule, level, options, ignore⟩

end Entry

/-- The entries of a configuration together with those of the one it extends. The settings of a
rule in both are put together; otherwise the later entry counts. -/
def mergeEntry (entries : List (String × Yaml.Value)) (name : String) (own : Yaml.Value) :
    List (String × Yaml.Value) :=
  let own : Yaml.Value := match own with
    | .text "enable" => .map []
    | v => v
  let merged : Yaml.Value := match entries.lookup name, own with
    | some (.map base), .map pairs =>
      .map (pairs.foldl (fun all (k, v) => Yaml.Value.insert all k v) base)
    | _, v => v
  if (entries.lookup name).isSome then
    entries.map fun e => if e.1 == name then (name, merged) else e
  else entries ++ [(name, merged)]

def mergeEntries (base own : List (String × Yaml.Value)) : List (String × Yaml.Value) :=
  own.foldl (fun entries (name, v) => mergeEntry entries name v) base

end Config

end YamlStyle
