import YamlStyle.Lexeme.OffSide
import YamlStyle.Problem
import YamlStyle.Regex.Parse
import YamlStyle.Rule.Option
import YamlStyle.Stream

/-!
# What rules are made of

A rule for lexemes keeps a state from one lexeme to the next; rules for comments and lines look
at one element alone. The line of a finding may be the one before.
-/

namespace YamlStyle

/-- Why a rule cannot tell what it thinks of an element. -/
inductive Rule.Failure where
  /-- A text that the rule tries out cannot be read. -/
  | unreadable (source : Text) (failure : Yaml.Failure)
  | badPattern (pattern : Text) (fault : Regex.Fault)
  /-- A key with a NUL character has no place in the order of keys. -/
  | unorderedKey
  /-- Digits do not write a number. -/
  | notNumeral (fault : Numeral.Fault)
  deriving Repr

def Rule.Failure.message : Rule.Failure → String
  | unreadable source f => f.message source
  | badPattern pattern f => f.describe pattern
  | unorderedKey => "embedded null character"
  | notNumeral fault => fault.message

/-- The findings of a rule on one element, unless it fails. -/
abbrev Check (α : Type) := Logged Rule.Failure α

namespace Finding

/-- At the start of a lexeme. -/
def atStart (x : Lexeme) (desc : String) : Finding :=
  ⟨x.start.line + 1, x.start.column + 1, desc⟩

/-- On the line where a lexeme starts, at the column after its end. -/
def atStop (x : Lexeme) (desc : String) : Finding :=
  ⟨x.start.line + 1, x.stop.column + 1, desc⟩

/-- In the first column of the line where a lexeme starts. -/
def atLine (x : Lexeme) (desc : String) : Finding := ⟨x.start.line + 1, 1, desc⟩

end Finding

namespace Lexeme

/-- The lexemes of a text that a rule tries out. -/
def probe (t : Text) : Check (List Lexeme) :=
  (Lexeme.ofText t).mapError (.unreadable t)

/-- Whether a key is marked by a question mark. -/
def isExplicitKey (t : Text) (x : Lexeme) : Bool :=
  x.start.offset < x.stop.offset && t[x.start.offset]? == some '?'

/-- How far the line on which a lexeme starts is indented. -/
def lineIndent (t : Text) (x : Lexeme) : Nat :=
  let head := ((t.take x.start.offset).reverse.takeWhile (· != '\n')).length
  ((t.drop (x.start.offset - head)).takeWhile (· == ' ')).length

/-- The line, from one, on which a lexeme really ends: a scalar may end after line breaks that
follow its content. -/
def realEndLine (t : Text) (x : Lexeme) : Int :=
  let stop : Int := x.stop.line + 1
  if x.kind == .scalar then
    let back := (t.slice (x.start.offset - 1) x.stop.offset).reverse
    stop - ((back.takeWhile Text.isAsciiSpace).filter (· == '\n')).length
  else stop

end Lexeme

/-- Whether there is a lexeme of one of some kinds. -/
def isOneOf (x : Option Lexeme) (kinds : List LexemeKind) : Bool :=
  x.any fun x => kinds.contains x.kind

namespace Rule

/-- Whether a pattern, given as text, matches somewhere in a text. -/
def search (t : Text) (pattern : String) : Check Bool :=
  match Regex.Pattern.ofText pattern.toList with
  | .ok p => pure (p.isIn t)
  | .error fault => throw (.badPattern pattern.toList fault)

/-- Whether one of some patterns matches; the first that does ends the search. -/
def searchAny (t : Text) : List String → Check Bool
  | [] => pure false
  | p :: ps => do if ← search t p then return true else searchAny t ps

end Rule

end YamlStyle
