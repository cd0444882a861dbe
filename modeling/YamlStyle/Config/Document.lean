import YamlStyle.Config.Fault
import YamlStyle.Text.Basic
import YamlStyle.Yaml.Load

/-!
# Documents of configurations

The fields of a configuration as written. Fields that are not known are passed over.
-/

namespace YamlStyle.Config

open Yaml (Item Value)

structure Document where
  /-- The configuration that this one extends. -/
  base : Option String
  rules : List (String × Value)
  /-- The lines with patterns of files to leave alone. -/
  ignore : Option (List Text)
  /-- The files with such lines. -/
  ignoreFromFile : Option (List String)
  yamlFiles : Option (List Text)
  locale : Option String
  deriving Repr

namespace Value

def text? : Value → Option String
  | .text s => some s
  | _ => none

/-- The texts of a list of nothing else. -/
def texts? : Value → Option (List String)
  | .list xs => xs.mapM text?
  | _ => none

/-- The lines of a text, or the texts of a list. -/
def lines? : Value → Option (List Text)
  | .text s => some (Text.lines s.toList)
  | v => (texts? v).map fun xs => xs.map String.toList

/-- One name, or the names of a list. -/
def namesOf? : Value → Option (List String)
  | .text s => some [s]
  | v => texts? v

/-- The pairs of a map whose keys are all texts. -/
def entries? : Value → Option (List (String × Value))
  | .map pairs => pairs.mapM fun (k, v) =>
      match k with
      | .atom (.text name) => some (name, v)
      | _ => none
  | _ => none

end Value

namespace Document

/-- Reads a field that may be missing or null. -/
def field {α : Type} (value : Option Value) (read? : Value → Option α) (fault : Fault) :
    Except Fault (Option α) :=
  match value with
  | none | some .null => .ok none
  | some v =>
    match read? v with
    | some a => .ok (some a)
    | none => .error fault

/-- The value of a field under its usual name, or else its other one, and whether it is the
usual one. -/
def underEither (pairs : List (Item × Value)) (usual other : String) : Option Value × Bool :=
  match Yaml.Value.get? pairs usual with
  | some v => (some v, true)
  | none => (Yaml.Value.get? pairs other, false)

/-- Reads the fields of a configuration. Of several faults the first in the order of fields
counts. -/
def ofPairs (pairs : List (Item × Value)) : Except Fault Document := do
  let get := Yaml.Value.get? pairs
  let base ← field (get "extends") Value.text? (.field .base)
  let rules ← field (get "rules") Value.entries? (.field .rules)
  let ignore ← field (get "ignore") Value.lines? (.field .ignore)
  let (names, isUsual) := underEither pairs "ignore-from-file" "ignore_from_file"
  let ignoreFromFile ←
    field names Value.namesOf? (if isUsual then .field .ignoreFromFile else .notText)
  let (files, isUsual) := underEither pairs "yaml-files" "yaml_files"
  let isList := match files with
    | some (.list _) => true
    | _ => false
  let yamlFiles ← field files (fun v => (Value.texts? v).map fun xs => xs.map String.toList)
    (if isUsual then .field .yamlFiles else if isList then .notText else .notList)
  let locale ← field (get "locale") Value.text? (.field .locale)
  return ⟨base, rules.getD [], ignore, ignoreFromFile, yamlFiles, locale⟩

/-- How deep the fields of a configuration go: rules, their entries, and options that are lists. -/
def depth : Nat := 4

/-- Reads the document that a text is. -/
def ofText (t : Text) : Except Failure Document :=
  match (Yaml.load t).map (Value.ofLoaded depth) with
  | .ok (.map pairs) => (ofPairs pairs).mapError .fault
  | .ok _ => .error (.fault .notMapping)
  | .error (.unreadable f) =>
    match f.describe? t with
    | some report => .error (.fault (.unreadable report))
    | none => .error (.valueless t (.unreadable f))
  | .error f => .error (.valueless t f)

end Document

end YamlStyle.Config
