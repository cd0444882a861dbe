import YamlStyle.Config.Load
import YamlStyle.Lint.Directive

/-!
# Walking over a text

The elements of a text are shown to the rules that are on, one after another. At the end of each
line the problems of that line are sifted by the directives, and those on earlier lines than the
last one seen are given out in order.
-/

namespace YamlStyle.Lint

/-- A rule for lexemes at work. -/
structure Watch where
  rule : LexemeRule
  level : Level
  options : rule.Options
  state : rule.State

/-- The problem that a finding of a rule is. -/
def stamp (rule : String) (level : Level) (f : Finding) : Problem :=
  ⟨f.line, f.column, f.desc, some rule, some level⟩

def Watch.check (t : Text) (w : Window) (watch : Watch) : Check (Watch × List Problem) := do
  let (state, findings) ← watch.rule.check t w watch.options watch.state
  return ({ watch with state }, findings.map (stamp watch.rule.name watch.level))

/-- The rules at work on a text. -/
structure Watches where
  lexeme : List Watch
  comment : List (CommentRule × ConfiguredRule)
  line : List (LineRule × ConfiguredRule)

namespace Watches

def ofRules (rules : List ConfiguredRule) : Watches where
  lexeme := rules.filterMap fun c =>
    match c.rule with
    | .lexeme r =>
      let options := r.options c.options
      some ⟨r, c.level, options, r.start options⟩
    | _ => none
  comment := rules.filterMap fun c =>
    match c.rule with
    | .comment r => some (r, c)
    | _ => none
  line := rules.filterMap fun c =>
    match c.rule with
    | .line r => some (r, c)
    | _ => none

/-- Shows a lexeme to the rules for lexemes. -/
def checkLexeme (t : Text) (w : Window) : List Watch → Check (List Watch × List Problem)
  | [] => pure ([], [])
  | watch :: rest => do
    let (watch, found) ← watch.check t w
    let (rest, foundLater) ← checkLexeme t w rest
    return (watch :: rest, found ++ foundLater)

/-- Shows a line to the rules for lines. -/
def checkLine (t : Text) (l : Line) : List (LineRule × ConfiguredRule) → Check (List Problem)
  | [] => pure []
  | (r, c) :: rest => do
    let found ← r.check c.options t l
    return found.map (stamp r.name c.level) ++ (← checkLine t l rest)

/-- Shows an element to the rules that look at elements of its kind. -/
def check (t : Text) (e : Element) (ws : Watches) : Check (Watches × List Problem) :=
  match e with
  | .lexeme w => do
    let (lexeme, found) ← checkLexeme t w ws.lexeme
    return ({ ws with lexeme }, found)
  | .comment c =>
    pure (ws, ws.comment.flatMap fun (r, configured) =>
      (r.check configured.options t c).map (stamp r.name configured.level))
  | .line l => do return (ws, ← checkLine t l ws.line)

end Watches

/-- Each element with the problems that the rules have with it. -/
def emissions (t : Text) (ws : Watches) : List Element → Check (List (Element × List Problem))
  | [] => pure []
  | e :: rest => do
    let (ws, found) ← ws.check t e
    return (e, found) :: (← emissions t ws rest)

/-! ## Directives -/

/-- The rules that directives have turned off, and the problems of the current line. -/
structure Sieve where
  off : DisabledRules
  offOnLine : DisabledRules
  offOnNextLine : DisabledRules
  held : List Problem
  deriving Repr

namespace Sieve

def start : Sieve := ⟨[], [], [], []⟩

/-- Follows the directive that a comment may be. One that has its line for itself is about the
next line. -/
def note (t : Text) (all : List String) (c : Comment) (s : Sieve) : Sieve :=
  let text := c.text t
  let s := { s with off := s.off.after all text }
  if c.isInline t then { s with offOnLine := s.offOnLine.afterOnLine all text }
  else { s with offOnNextLine := s.offOnNextLine.afterOnLine all text }

/-- The problems of the current line that are not turned off. -/
def kept (s : Sieve) : List Problem :=
  s.held.filter fun p => !(s.offOnLine.covers p || s.off.covers p)

/-- Goes on to the next line. -/
def next (s : Sieve) : Sieve :=
  { s with held := [], offOnLine := s.offOnNextLine, offOnNextLine := [] }

end Sieve

/-- The problems that directives leave, line by line, with the number of the line at whose end
they are known. -/
def sift (t : Text) (all : List String) : Sieve → List (Element × List Problem) →
    List (Nat × List Problem)
  | _, [] => []
  | s, (e, found) :: rest =>
    let s := { s with held := s.held ++ found }
    match e with
    | .lexeme _ => sift t all s rest
    | .comment c => sift t all (s.note t all c) rest
    | .line l => (l.number, s.kept) :: sift t all s.next rest

/-! ## Release -/

/-- Gives out problems in order: at the end of each line those on earlier lines, and at last the
others. -/
def release : List Problem → List (Nat × List Problem) → List Problem
  | pending, [] => Problem.sort pending
  | pending, (number, found) :: rest =>
    let sorted := Problem.sort (pending ++ found)
    let isEarlier (p : Problem) : Bool := p.line < number
    sorted.takeWhile isEarlier ++ release (sorted.dropWhile isEarlier) rest

/-- The problems of the rules with a text, in the order they are given out. -/
def cosmeticProblems (t : Text) (rules : List ConfiguredRule) : Check (List Problem) := do
  let lexemes ← (Lexeme.ofText t).mapError (Rule.Failure.unreadable t)
  let emitted ← emissions t (.ofRules rules) (Element.ofLexemes t lexemes)
  return release [] (sift t (rules.map (·.rule.name)) .start emitted)

end YamlStyle.Lint
