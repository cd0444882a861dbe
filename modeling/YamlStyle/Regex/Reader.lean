import YamlStyle.Regex.Basic
import YamlStyle.Regex.Fault
import YamlStyle.Text.Identifier

/-!
# Readers of regular expressions

What is known while a pattern is read from left to right, and the steps by which it is read. A
pattern is read piece by piece: a character, or a backslash together with the character after it.
-/

namespace YamlStyle.Regex

/-- A pattern that is being read. -/
structure Reader where
  size : Nat
  /-- What is left of the pattern. -/
  rest : Text
  /-- The flags for the whole pattern. -/
  flags : Flags
  /-- The groups that have been opened, with their widths once they are closed, latest first. -/
  groups : List (Nat × Option Width)
  names : List (String × Nat)
  /-- The first group of the outermost look behind that is being read. -/
  lookBehind : Option Nat
  /-- The numbers of groups that conditions ask for, each with the first place that does. -/
  awaited : List (Nat × Nat)

namespace Reader

def start (t : Text) : Reader := ⟨t.length, t, {}, [], [], none, []⟩

/-- The number that the next group has. -/
def nextGroup (r : Reader) : Nat := r.groups.length + 1

end Reader

abbrev Read := StateT Reader (Except Fault)

namespace Read

def offset : Read Nat := do
  let s ← get
  return s.size - s.rest.length

/-- Fails at a place a few characters before the current one. -/
def fail {α : Type} (cause : Cause) (back : Nat) : Read α := do
  throw ⟨cause, some ((← offset) - back)⟩

/-- A lone backslash at the end is noticed as soon as it comes next. -/
def checkEnd : Read Unit := do
  let s ← get
  if s.rest == ['\\'] then throw ⟨.danglingEscape, some (s.size - 1)⟩

def peek : Read (Option Char) := do return (← get).rest.head?

def isAtEnd : Read Bool := do return (← peek).isNone

/-- Takes a piece. -/
def take : Read Text := do
  let s ← get
  let n := if s.rest.head? == some '\\' then 2 else 1
  set { s with rest := s.rest.drop n }
  checkEnd
  return s.rest.take n

/-- Takes a character if it is the next. -/
def accept (c : Char) : Read Bool := do
  if (← peek) == some c then
    let _ ← take
    return true
  else return false

/-- Takes at most `most` characters that satisfy `p`. -/
def takeWhile (most : Nat) (p : Char → Bool) : Read Text := do
  let s ← get
  let taken := (s.rest.take most).takeWhile p
  set { s with rest := s.rest.drop taken.length }
  checkEnd
  return taken

/-- Takes pieces up to one character, and that too. -/
def skipPast (c : Char) : Nat → Read Unit
  | 0 => return
  | fuel + 1 => do
    if ← isAtEnd then return
    if (← take) == [c] then return
    skipPast c fuel

/-- Takes a name up to one character, and that too; `read` is what has been taken of it. -/
def nameUntil (what : String) (terminator : Char) : Nat → Text → Read Text
  | 0, read => return read
  | fuel + 1, read => do
    if ← isAtEnd then
      if read.isEmpty then fail (.missingName what) 0
      else fail (.unterminatedName terminator) read.length
    let piece ← take
    if piece == [terminator] then
      if read.isEmpty then fail (.missingName what) 1 else return read
    nameUntil what terminator fuel (read ++ piece)

/-- Takes a name and the character after it. -/
def takeName (what : String) (terminator : Char) : Read Text := do
  nameUntil what terminator ((← get).size + 1) []

/-- Takes the name of a group and the character after it. -/
def groupName (terminator : Char) : Read Text := do
  let name ← takeName "group name" terminator
  if !Text.isIdentifier name then fail (.badName (String.ofList name)) (name.length + 1)
  return name

/-! ## Groups -/

/-- Opens a group and gives its number. -/
def openGroup (name : Option Text) : Read Nat := do
  let s ← get
  let number := s.nextGroup
  if let some name := name then
    if let some first := s.names.lookup (String.ofList name) then
      fail (.secondName (String.ofList name) number first) (name.length + 1)
  set { s with
    groups := (number, none) :: s.groups
    names := (name.map fun name => (String.ofList name, number)).toList ++ s.names }
  return number

def closeGroup (number : Nat) (width : Width) : Read Unit :=
  modify fun s =>
    { s with groups := s.groups.map fun (n, w) => (n, if n == number then some width else w) }

/-- The width of a group, if it has been closed. -/
def closedWidth? (number : Nat) : Read (Option Width) := do
  return ((← get).groups.lookup number).join

/-- Fails inside a look behind for a group that is open or part of it. -/
def checkLookBehind (number : Nat) : Read Unit := do
  match (← get).lookBehind with
  | some first =>
    if (← closedWidth? number).isNone then fail .openGroup 0
    if first ≤ number then fail .groupOfLookBehind 0
  | none => return

/-- What a group has matched, the reference to it being `length` characters long. -/
def reference (number length : Nat) : Read Regex := do
  match ← closedWidth? number with
  | some width =>
    checkLookBehind number
    return .same number width
  | none => fail .openGroup length

/-- Notes that a condition asks for a group by its number. -/
def await (number place : Nat) : Read Unit :=
  modify fun s =>
    if (s.awaited.lookup number).isSome then s
    else { s with awaited := s.awaited ++ [(number, place)] }

end Read

end YamlStyle.Regex
