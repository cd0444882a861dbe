/-!
# Problems

What is reported about a text: a place, a description, the rule that is broken and how much it
matters. Problems are ordered by place alone.
-/

namespace YamlStyle

/-- What a rule has to say about a place; line and column count from one. -/
structure Finding where
  line : Int
  column : Int
  desc : String
  deriving DecidableEq, Repr

inductive Level where
  | warning | error
  deriving DecidableEq, Repr

namespace Level

def name : Level → String
  | warning => "warning"
  | error => "error"

def ofName? (s : String) : Option Level := [warning, error].find? (·.name == s)

end Level

/-- A finding with the rule it comes from, none for a fault of syntax, and its level. -/
structure Problem where
  line : Int
  column : Int
  desc : String := "<no description>"
  rule : Option String := none
  level : Option Level := none
  deriving DecidableEq, Repr

namespace Problem

def message (p : Problem) : String :=
  match p.rule with
  | some rule => s!"{p.desc} ({rule})"
  | none => p.desc

def position (p : Problem) : Int × Int := (p.line, p.column)

/-- Whether a problem stands at an earlier place than another. -/
def isBefore (p q : Problem) : Bool := p.line < q.line || (p.line == q.line && p.column < q.column)

def isAt (p q : Problem) : Bool := p.line == q.line && p.column == q.column

/-- Whether two problems are the same breach of the same rule. -/
def isSame (p q : Problem) : Bool := p.isAt q && p.rule == q.rule

/-- Problems by place; those at one place stay in their order. -/
def sort (ps : List Problem) : List Problem := ps.mergeSort fun p q => !q.isBefore p

/-- The place and the message in one line. -/
def summary (p : Problem) : String := s!"{p.line}:{p.column}: {p.message}"

end Problem

end YamlStyle
