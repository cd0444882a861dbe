import YamlStyle.Problem

/-!
# Options of rules

The values that an option can take, and the schema that tells which of them a rule accepts.
-/

namespace YamlStyle

inductive OptionValue where
  | bool (b : Bool)
  | int (n : Int)
  | text (s : String)
  | list (xs : List String)
  deriving DecidableEq, Repr

namespace Rule

/-- The types that an option can ask for. -/
inductive OptionType where
  | bool | int | text
  deriving DecidableEq, Repr

def OptionType.name : OptionType → String
  | bool => "bool"
  | int => "int"
  | text => "str"

/-- One of the things an option accepts: all values of a type, or one value. -/
inductive Choice where
  | anyOf (type : OptionType)
  | bool (b : Bool)
  | text (s : String)
  deriving DecidableEq, Repr

/-- What an option accepts: a value of a type, one of some choices, or a list of them. -/
inductive Schema where
  | ofType (type : OptionType)
  | oneOf (choices : List Choice)
  | listOf (choices : List Choice)
  deriving DecidableEq, Repr

/-- An option of a rule: its name, what it accepts, and its value where none is given. -/
structure OptionSpec where
  name : String
  schema : Schema
  default : OptionValue
  deriving DecidableEq, Repr

end Rule

/-- The values of all options of a rule, by name. -/
abbrev OptionValues := List (String × OptionValue)

namespace OptionValues

def bool (vs : OptionValues) (name : String) : Bool :=
  match vs.lookup name with
  | some (.bool b) => b
  | _ => false

def int (vs : OptionValues) (name : String) : Int :=
  match vs.lookup name with
  | some (.int n) => n
  | _ => 0

def text (vs : OptionValues) (name : String) : String :=
  match vs.lookup name with
  | some (.text s) => s
  | _ => ""

def list (vs : OptionValues) (name : String) : List String :=
  match vs.lookup name with
  | some (.list xs) => xs
  | _ => []

end OptionValues

end YamlStyle
