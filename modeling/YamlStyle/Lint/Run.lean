import YamlStyle.Journal
import YamlStyle.Lint.Walk
import YamlStyle.Problem
import YamlStyle.Yaml.Event

/-!
# Linting

All problems of a text under a configuration: those of the rules, and the fault of syntax in its
place among them. Rules are asked about texts with a fault too.
-/

namespace YamlStyle.Lint

/-! ## Faults of syntax

The first fault of the grammar in a text, as a problem.
-/

def origin : String := "yamlsieve.engine"

/-- Where a failure is reported: its mark, or else the start of the text. -/
def syntaxPlace (f : Yaml.Failure) : Nat × Nat :=
  match f.mark? with
  | some m => (m.line + 1, m.column + 1)
  | none => (1, 1)

/-- The problem that a failure with this summary is. -/
def syntaxProblem (f : Yaml.Failure) (summary : String) : Problem :=
  let (line, column) := syntaxPlace f
  { line, column, desc := s!"syntax error: {summary} (syntax)", level := some .error }

/-- The fault of syntax of a text, unless it has none. Values that no text may carry are failures
of their own. -/
def syntaxError (t : Text) : Logged Yaml.Failure (Option Problem) := do
  match (Yaml.EventStream.ofText t).failure with
  | none => return none
  | some f =>
    match f.summary? t with
    | none => throw f
    | some summary =>
      let (line, column) := syntaxPlace f
      Logged.debug origin s!"syntax error at {line}:{column}: {summary}"
      return some (syntaxProblem f summary)

/-! ## Runs -/

/-- Puts the fault of syntax before the first problem that is not before it. A problem at the
same place is likely a result of the fault and left out. -/
def splice (fault : Option Problem) : List Problem → List Problem
  | [] => fault.toList
  | p :: rest =>
    match fault with
    | none => p :: rest
    | some f =>
      if p.isBefore f then p :: splice fault rest
      else if f.isAt p then f :: rest
      else f :: p :: rest

/-- The name of a text in records. -/
def shownPath (path : Option String) : String := (path.filter (· != "")).getD "<string>"

/-- The first line of a text. -/
def firstLine (t : Text) : Text := ((Line.ofText t).head?.map (Line.content t)).getD []

/-- The problems of a text that is not ignored. -/
def ofText (t : Text) (c : Config) (path : Option String) : Check (List Problem) := do
  if Directive.isDisableFile (firstLine t) then
    Logged.debug origin s!"linting disabled by directive: {shownPath path}"
    return []
  else
    let fault ← (syntaxError t).mapError (Rule.Failure.unreadable t)
    return splice fault (← cosmeticProblems t (c.rulesFor path))

/-- What is linted: a text, or bytes that are decoded first. -/
inductive Input where
  | text (t : Text)
  | bytes (bs : Text.Bytes)

/-- Why there is no answer to what the problems are. -/
inductive Failure where
  | undecodable (f : Text.DecodeFailure)
  | rule (f : Rule.Failure)
  deriving Repr

def Failure.message : Failure → String
  | undecodable f => f.message
  | rule f => f.message

def Input.decode (asked : Text.Asked) : Input → Logged Failure Text
  | .text t => pure t
  | .bytes bs => (Text.decode asked bs).mapError .undecodable

/-- The problems of an input; none for a file to be left alone. -/
def run (asked : Text.Asked) (input : Input) (c : Config) (path : Option String) :
    Logged Failure (List Problem) := do
  if path.any c.isIgnored then
    Logged.debug origin ("ignored by config: " ++ path.getD "")
    return []
  else
    let t ← input.decode asked
    Logged.debug origin s!"linting {shownPath path} ({t.length} chars)"
    (ofText t c path).mapError .rule

end YamlStyle.Lint
