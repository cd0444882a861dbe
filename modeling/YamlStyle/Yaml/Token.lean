import YamlStyle.Text.Basic

/-!
# Tokens of a YAML stream

The lexical units that a YAML text is cut into, with the marks between which each one stands.
Starts and ends of block collections, and the keys found by a later colon, have no width.
-/

namespace YamlStyle.Yaml

/-- The version a `%YAML` directive names. -/
structure Version where
  major : Nat
  minor : Nat
  deriving DecidableEq, Repr

namespace Version

def v1_1 : Version := ⟨1, 1⟩
def v1_2 : Version := ⟨1, 2⟩

/-- Whether a version is later than 1.1. -/
def after1_1 (v : Version) : Bool := 1 < v.major || (v.major == 1 && 1 < v.minor)

end Version

inductive ScalarStyle where
  | plain | single | double | literal | folded
  deriving DecidableEq, Repr

/-- A tag as written: an optional handle and a suffix. -/
structure Tag where
  handle : Option String
  suffix : String
  deriving DecidableEq, Repr

inductive Directive where
  | yaml (version : Version)
  | tag (handle lead : String)
  | reserved (name : String)
  deriving DecidableEq, Repr

inductive TokenKind where
  | streamStart | streamEnd
  | directive (d : Directive)
  | documentStart | documentEnd
  | blockSequenceStart | blockMappingStart | blockEnd
  | flowSequenceStart | flowSequenceEnd | flowMappingStart | flowMappingEnd
  | key | value | blockEntry | flowEntry
  | alias (name : String)
  | anchor (name : String)
  | tag (t : Tag)
  | scalar (value : String) (style : ScalarStyle)
  deriving DecidableEq, Repr

/-- How messages name a token. -/
def TokenKind.label : TokenKind → String
  | .streamStart => "<stream start>"
  | .streamEnd => "<stream end>"
  | .directive _ => "<directive>"
  | .documentStart => "<document start>"
  | .documentEnd => "<document end>"
  | .blockSequenceStart => "<block sequence start>"
  | .blockMappingStart => "<block mapping start>"
  | .blockEnd => "<block end>"
  | .flowSequenceStart => "["
  | .flowSequenceEnd => "]"
  | .flowMappingStart => "\x7b"
  | .flowMappingEnd => "\x7d"
  | .key => "?"
  | .value => ":"
  | .blockEntry => "-"
  | .flowEntry => ","
  | .alias _ => "<alias>"
  | .anchor _ => "<anchor>"
  | .tag _ => "<tag>"
  | .scalar _ _ => "<scalar>"

structure Token where
  kind : TokenKind
  start : Mark
  stop : Mark
  deriving DecidableEq, Repr

end YamlStyle.Yaml
