import YamlStyle.Problem
import YamlStyle.Regex.Match

/-!
# Directives

Comments that turn rules off and on: from a comment on, on one line, or in a whole file. They are told by
patterns, one for each kind of them.
-/

namespace YamlStyle

/-- What a comment asks for, with the rules that it names; none for all rules. -/
inductive Directive where
  | disable (rules : List String)
  | enable (rules : List String)
  | disableLine (rules : List String)
  deriving DecidableEq, Repr

namespace Directive

open Regex

/-- The kinds of directives that may name rules. -/
inductive Kind where
  | disable | enable | disableLine
  deriving DecidableEq, Repr

def Kind.keyword : Kind → Text
  | disable => "disable".toList
  | enable => "enable".toList
  | disableLine => "disable-line".toList

def Kind.directive : Kind → List String → Directive
  | disable => .disable
  | enable => .enable
  | disableLine => .disableLine

/-- `\s` -/
def space : Regex := .oneOf ⟨[.ofClass .space false], false⟩

/-- `\S` -/
def visible : Regex := .oneOf ⟨[.ofClass .space true], false⟩

/-- `[#\s]` -/
def mark : Regex := .oneOf ⟨[.char '#', .ofClass .space false], false⟩

/-- `^#[#\s]*yamllint\s+`, a keyword, what may come after it, and `\s*$` -/
def pattern (keyword : Text) (more : Regex → Regex) : Pattern :=
  ⟨.none, .seq (.boundary .start) (literal ['#'] (.seq (many 0 mark) (literal "yamllint".toList (.seq (many 1 space)
    (literal keyword (more (.seq (many 0 space) (.boundary .stop))))))))⟩

/-- `((?:\s+rule:\S+)*)` -/
def names : Regex :=
  .group 1 (many 0 (.part .same (.seq (many 1 space) (literal "rule:".toList (many 1 visible)))))

/-- `rule:(\S+)` -/
def name : Pattern := ⟨.none, literal "rule:".toList (.group 1 (many 1 visible))⟩

def Kind.pattern (k : Kind) : Pattern := Directive.pattern k.keyword (.seq names)

/-- The rules that a comment names if it is a directive of a kind. -/
def Kind.named? (k : Kind) (comment : Text) : Option (List String) := do
  let p ← k.pattern.at? comment.toArray 0
  let list ← p.group? comment 1
  return (name.groups 1 list).map String.ofList

def ofComment? (comment : Text) : Option Directive :=
  [Kind.disable, .enable, .disableLine].findSome? fun k => (k.named? comment).map k.directive

/-- Whether the first line of a file turns all rules off in it. -/
def isDisableFile (line : Text) : Bool :=
  ((Directive.pattern "disable-file".toList id).at? (line.trimEnd (· == '\r')).toArray 0).isSome

end Directive

/-- The rules that are off, each of them once. -/
abbrev DisabledRules := List String

namespace DisabledRules

/-- Turns off the rules that are named, or all, as far as there are such rules. -/
def turnOff (all : List String) (off : DisabledRules) (named : List String) : DisabledRules :=
  if named.isEmpty then all.eraseDups
  else
    named.foldl (fun off r => if all.contains r && !off.contains r then off ++ [r] else off) off

/-- Turns on the rules that are named, or all. -/
def turnOn (off : DisabledRules) (named : List String) : DisabledRules :=
  if named.isEmpty then [] else off.filter fun r => !named.contains r

/-- What is off after a comment, from there on. -/
def after (all : List String) (off : DisabledRules) (comment : Text) : DisabledRules :=
  match Directive.ofComment? comment with
  | some (.disable named) => off.turnOff all named
  | some (.enable named) => off.turnOn named
  | _ => off

/-- What is off on one line after a comment about it. -/
def afterOnLine (all : List String) (off : DisabledRules) (comment : Text) : DisabledRules :=
  match Directive.ofComment? comment with
  | some (.disableLine named) => off.turnOff all named
  | _ => off

def covers (off : DisabledRules) (p : Problem) : Bool := p.rule.any off.contains

end DisabledRules

end YamlStyle
