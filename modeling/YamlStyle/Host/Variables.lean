import YamlStyle.Journal
import YamlStyle.Text.Class

/-!
# Variables

The variables of an environment, and files that set more of them line by line. A value between
quotes may run over several lines. A line that sets nothing is passed over.
-/

namespace YamlStyle

/-- Variables and their values. -/
abbrev Environment := List (String × String)

namespace Environment

/-- The value of a variable, unless that is empty. -/
def filled? (vars : Environment) (name : String) : Option String :=
  (vars.lookup name).filter (· != "")

/-- The value of the last variable with a name in any case. -/
def anyCase? (vars : Environment) (name : String) : Option String :=
  (vars.reverse.find? fun v => v.1.toLower == name.toLower).map (·.2)

end Environment

namespace EnvFile

/-- What a statement says of a variable; without a value it only names it. -/
structure Statement where
  name : Text
  value : Option Text
  deriving DecidableEq, Repr

/-- White space within a line. -/
def isBlank (c : Char) : Bool := Text.isSpace c && c != '\n'

/-- What follows the line that a text starts in. -/
def nextLine (t : Text) : Text := (t.dropWhile (· != '\n')).drop 1

/-! ## Values -/

/-- What stands before the closing quote, and what follows it. A quote after a backslash does not
close, unless no other one does. -/
def upToQuote (quote : Char) : Text → Option (Text × Text)
  | [] => none
  | [c] => if c == quote then some ([], []) else none
  | c :: d :: r =>
    if c == quote then some ([], d :: r)
    else if c == '\\' && d == quote then
      match upToQuote quote r with
      | some (t, rest) => some (c :: d :: t, rest)
      | none => some ([c], r)
    else (upToQuote quote (d :: r)).map fun (t, rest) => (c :: t, rest)

/-- The character that an escape stands for. Between single quotes only these are escaped: the
quote and the backslash. -/
def escape? (quote c : Char) : Option Char :=
  if quote == '\'' then
    if c == '\'' || c == '\\' then some c else none
  else
    [('n', '\n'), ('r', '\r'), ('t', '\t'), ('\\', '\\'), ('"', '"'), ('\'', '\''), ('a', '\x07'),
      ('b', '\x08'), ('f', '\x0c'), ('v', '\x0b')].lookup c

/-- Puts in what escapes stand for; a backslash that starts none stays. -/
def unescape (quote : Char) : Text → Text
  | '\\' :: c :: r =>
    match escape? quote c with
    | some k => k :: unescape quote r
    | none => '\\' :: unescape quote (c :: r)
  | c :: r => c :: unescape quote r
  | [] => []
termination_by t => t.length

/-- A value without quotes, which a `#` after white space ends. -/
def bare (afterSpace : Bool) : Text → Text
  | [] => []
  | c :: r =>
    if c == '#' && afterSpace then [] else c :: bare (Text.isSpace c) r

/-- Reads the value that a text starts with. -/
def value? (t : Text) : Option (Text × Text) :=
  match t with
  | '\'' :: r => (upToQuote '\'' r).map fun (v, rest) => (unescape '\'' v, rest)
  | '"' :: r => (upToQuote '"' r).map fun (v, rest) => (unescape '"' v, rest)
  | t =>
    some (Text.trimEnd Text.isSpace (bare false (t.takeWhile (· != '\n'))),
      t.dropWhile (· != '\n'))

/-! ## Statements -/

/-- What follows the word that a statement may start with. -/
def afterExport (t : Text) : Text :=
  if "export".toList.isPrefixOf t && (t.drop 6).head?.any isBlank then (t.drop 6).dropWhile isBlank
  else t

/-- Reads a name, between quotes or not. -/
def name? (t : Text) : Option (Text × Text) :=
  let isInside (c : Char) : Bool :=
    if t.head? == some '\'' then c != '\'' else c != '=' && c != '#' && !Text.isSpace c
  let body := if t.head? == some '\'' then t.drop 1 else t
  let name := body.takeWhile isInside
  let rest := body.drop name.length
  if name.isEmpty then none
  else if t.head? == some '\'' then
    if rest.isEmpty then none else some (name, rest.drop 1)
  else some (name, rest)

/-- What follows the line when nothing but a remark is left on it. -/
def afterRemark? (t : Text) : Option Text :=
  match t.dropWhile isBlank with
  | [] => some []
  | '\n' :: r => some r
  | '#' :: r => some (nextLine r)
  | _ => none

/-- What stands on a line. -/
inductive Entry where
  | statement (s : Statement)
  | remark
  | malformed
  deriving DecidableEq, Repr

/-- Reads the entry that a text starts with, to the end of its last line. -/
def entry (t : Text) : Entry × Text :=
  let body := afterExport t
  if body.head? == some '#' then (.remark, nextLine t)
  else
    match name? body with
    | none => (.malformed, nextLine t)
    | some (name, rest) =>
      match rest.dropWhile isBlank with
      | '=' :: r =>
        match value? (r.dropWhile isBlank) with
        | none => (.malformed, nextLine r)
        | some (v, rest) =>
          match afterRemark? rest with
          | some rest => (.statement ⟨name, some v⟩, rest)
          | none => (.malformed, nextLine rest)
      | r =>
        match afterRemark? r with
        | some rest => (.statement ⟨name, none⟩, rest)
        | none => (.malformed, nextLine r)

/-- The entries of a text, each with the line that it is counted to: the one after the entry before
it. An entry takes a character at least, so the length of the text is fuel enough. -/
def entriesWithin : Nat → Nat → Text → List (Nat × Entry)
  | 0, _, _ => []
  | fuel + 1, line, t =>
    match t.dropWhile Text.isSpace with
    | [] => []
    | body =>
      let (e, rest) := entry body
      let passed := t.take (t.length - rest.length)
      (line, e) :: entriesWithin fuel (line + passed.count '\n') rest

def entries (t : Text) : List (Nat × Entry) := entriesWithin t.length 1 t

/-! ## References -/

/-- A variable in braces after a dollar sign, with the text that stands for one that is not set. -/
structure Reference where
  name : Text
  fallback : Text
  deriving DecidableEq, Repr

/-- Reads the reference that a text starts with. -/
def reference? : Text → Option (Reference × Text)
  | '$' :: '\x7b' :: r =>
    let name := r.takeWhile fun c => c != '\x7d' && c != ':'
    match r.drop name.length with
    | '\x7d' :: rest => some (⟨name, []⟩, rest)
    | ':' :: '-' :: rest =>
      let fallback := rest.takeWhile (· != '\x7d')
      match rest.drop fallback.length with
      | '\x7d' :: rest => some (⟨name, fallback⟩, rest)
      | _ => none
    | _ => none
  | _ => none

/-- Puts in the values of the variables that a text refers to. The length of the text is fuel
enough. -/
def expandWithin (valueOf : Text → Option Text) : Nat → Text → Text
  | 0, t => t
  | _ + 1, [] => []
  | fuel + 1, c :: r =>
    match reference? (c :: r) with
    | some (x, rest) => (valueOf x.name).getD x.fallback ++ expandWithin valueOf fuel rest
    | none => c :: expandWithin valueOf fuel r

def expand (valueOf : Text → Option Text) (t : Text) : Text := expandWithin valueOf t.length t

/-- A list with a statement in the place of one of the same name, or else at the end. -/
def setStatement (s : Statement) (set : List Statement) : List Statement :=
  if set.any (·.name == s.name) then set.map fun known => if known.name == s.name then s else known
  else set ++ [s]

/-- The variables after one more statement. A value may refer to the ones set before it, or else to
the environment. -/
def assign (vars : Environment) (set : List Statement) (s : Statement) : List Statement :=
  let valueOf (name : Text) : Option Text :=
    match set.find? (·.name == name) with
    | some known => some (known.value.getD [])
    | none => (vars.lookup (String.ofList name)).map String.toList
  setStatement ⟨s.name, s.value.map (expand valueOf)⟩ set

/-- Lines end with a line feed, a return, or both. -/
def unifyBreaks : Text → Text
  | [] => []
  | '\r' :: '\n' :: r => '\n' :: unifyBreaks r
  | c :: r => (if c == '\r' then '\n' else c) :: unifyBreaks r

def malformedRecord (line : Nat) : Record :=
  ⟨.warning, "dotenv.main", s!"python-dotenv could not parse statement starting at line {line}"⟩

/-- What a file says of variables, references put in, one after another. An entry that makes no
sense is passed over with a record. -/
def assignments {ε : Type} (vars : Environment) (t : Text) : Logged ε (List Statement) :=
  let found := entries (unifyBreaks t)
  let statements := found.filterMap fun (_, e) =>
    match e with
    | .statement s => some s
    | _ => none
  let malformed := found.filter (·.2 == .malformed)
  ⟨malformed.map fun (line, _) => malformedRecord line, .ok (statements.foldl (assign vars) [])⟩

/-- The value that the last statement gives to a variable with a name in any case. -/
def anyCase? (set : List Statement) (name : String) : Option String :=
  (set.reverse.find? fun s => (String.ofList s.name).toLower == name.toLower).bind fun s =>
    s.value.map String.ofList

end EnvFile

end YamlStyle
