import YamlStyle.Host.Variables
import YamlStyle.Problem
import YamlStyle.Text.Quoted

/-!
# Reports

How the problems of a file are shown, for people, for programs, or for the log of a workflow.
-/

namespace YamlStyle

namespace Level

/-- How much a problem counts; one without a level counts for nothing. -/
def rank : Option Level → Nat
  | none => 0
  | some warning => 1
  | some error => 2

/-- A level as reports show it. -/
def shown (l : Option Level) : String := (l.map name).getD "None"

end Level

namespace Report

inductive Format where
  /-- A problem a line, with the name of the file. -/
  | parsable
  /-- The name of the file, and below it a problem a line. -/
  | standard
  | colored
  /-- Commands for the log of a workflow. -/
  | github
  /-- As the environment asks for. -/
  | auto
  deriving DecidableEq, Repr

namespace Format

def all : List Format := [parsable, standard, colored, github, auto]

def name : Format → String
  | parsable => "parsable"
  | standard => "standard"
  | colored => "colored"
  | github => "github"
  | auto => "auto"

def ofName? (s : String) : Option Format := all.find? (·.name == s)

/-- What is said of a name that no format has. -/
def unknown (s : String) : String := s!"{Text.quoted s.toList} is not a valid OutputFormat"

/-- The format that is meant in an environment. Output is never taken for a terminal. -/
def resolve (vars : Environment) : Format → Format
  | auto =>
    if (vars.filled? "GITHUB_ACTIONS").isSome && (vars.filled? "GITHUB_WORKFLOW").isSome then github
    else standard
  | f => f

end Format

/-- A text filled up with spaces on the right. -/
def padded (width : Nat) (s : String) : String :=
  s ++ String.ofList (List.replicate (width - s.length) ' ')

/-- A text in a style for terminals, given by its number. -/
def styled (style : Nat) (s : String) : String := s!"\x1b[{style}m{s}\x1b[0m"

def underline : Nat := 4
def dim : Nat := 2
def red : Nat := 31
def yellow : Nat := 33

/-- The text after a code that sets a style, given what follows its first two characters. -/
def pastCode? (t : Text) : Option Text :=
  match t.dropWhile fun c => c == ';' || c == '?' || Text.isDigit c with
  | c :: r => if Text.isAsciiLetter c then some r else none
  | [] => none

/-- A text without codes that set styles; `fuel` bounds its length. -/
def unstyledText : Nat → Text → Text
  | 0, t => t
  | _, [] => []
  | fuel + 1, '\x1b' :: '[' :: r =>
    match pastCode? r with
    | some rest => unstyledText fuel rest
    | none => '\x1b' :: unstyledText fuel ('[' :: r)
  | fuel + 1, c :: r => c :: unstyledText fuel r

def unstyled (s : String) : String := String.ofList (unstyledText s.length s.toList)

/-- A rule in front of or behind a description; a rule without a name is not shown. -/
def ruleShown (p : Problem) (f : String → String) : String := (p.rule.filter (· != "")).elim "" f

def parsableLine (file : String) (p : Problem) : String :=
  s!"{file}:{p.line}:{p.column}: [{Level.shown p.level}] {p.message}"

def standardLine (p : Problem) : String :=
  padded 21 (padded 12 s!"  {p.line}:{p.column}" ++ Level.shown p.level) ++ p.desc ++
    ruleShown p fun rule => s!"  ({rule})"

def coloredLine (p : Problem) : String :=
  let place := s!"{p.line}:{p.column}"
  let level := Level.shown p.level
  let color := if p.level == some .warning then yellow else red
  let gap (width : Nat) (s : String) : String := String.ofList (List.replicate (width - s.length) ' ')
  "  " ++ styled dim place ++ gap 10 place ++ styled color level ++ gap 9 level ++ p.desc ++
    ruleShown p fun rule => "  " ++ styled dim s!"({rule})"

def githubLine (file : String) (p : Problem) : String :=
  s!"::{Level.shown p.level} file={file},line={p.line},col={p.column}::{p.line}:{p.column} " ++
    (ruleShown p fun rule => s!"[{rule}] ") ++ p.desc

/-- The line for one problem. -/
def problemLine (file : String) (p : Problem) : Format → String
  | .parsable => unstyled (parsableLine file p)
  | .standard | .auto => unstyled (standardLine p)
  | .colored => coloredLine p
  | .github => unstyled (githubLine file p)

/-- The lines before the problems of a file. -/
def head (file : String) : Format → List String
  | .parsable => []
  | .standard | .auto => [unstyled file]
  | .colored => [styled underline file]
  | .github => [unstyled s!"::group::{file}"]

/-- The lines after the problems of a file. -/
def foot : Format → List String
  | .parsable => []
  | .standard | .auto | .colored => [""]
  | .github => ["::endgroup::", ""]

/-- The problems that are shown. -/
def visible (noWarnings : Bool) (ps : List Problem) : List Problem :=
  ps.filter fun p => !noWarnings || p.level == some .error

/-- The lines that show the problems of a file, if any are to be shown. -/
def lines (ps : List Problem) (file : String) (format : Format) (noWarnings : Bool) : List String :=
  match visible noWarnings ps with
  | [] => []
  | shown => head file format ++ shown.map (problemLine file · format) ++ foot format

/-- The highest rank of the problems of a file, shown or not. -/
def rank (ps : List Problem) : Nat := ps.foldl (fun r p => max r (Level.rank p.level)) 0

/-- Lines as they are printed, each with its end. -/
def printed (ls : List String) : String := String.join (ls.map (· ++ "\n"))

end Report

end YamlStyle
