import YamlStyle.Regex.Escape
import YamlStyle.Regex.Match

/-!
# Reading regular expressions

The written form of patterns. A pattern is first read as a whole; what concerns the whole of it,
such as the groups that conditions ask for and the widths of looks behind, is checked at the end.
-/

namespace YamlStyle.Regex

namespace Read

/-! ## Repetitions -/

/-- No repetition has a count that is written and reaches this number. -/
def countLimit : Nat := 0xffffffff

/-- A count of a repetition; none where there are no digits. -/
def count? (digits : Text) : Read (Option Nat) := do
  if digits.isEmpty then return none
  match Numeral.ofText 10 digits with
  | .error f => throw ⟨.notNumeral f, none⟩
  | .ok n => if countLimit ≤ n.toNat then throw ⟨.countTooLarge, none⟩ else return some n.toNat

/-- The bounds of a repetition, or none if the brace stands for itself. -/
def braces : Read (Option (Nat × Option Nat)) := do
  let before ← get
  if (← peek) == some '\x7d' then return none
  let low ← takeWhile before.size Text.isDigit
  let high ← if ← accept ',' then takeWhile before.size Text.isDigit else pure low
  if !(← accept '\x7d') then
    set before
    return none
  let least := (← count? low).getD 0
  let most ← count? high
  if most.any (· < least) then
    throw ⟨.repeatsReversed, some (before.size - before.rest.length)⟩
  return some (least, most)

/-- How the repetition just read chooses its count. -/
def greed : Read Greed := do
  if ← accept '?' then return .lazy
  else if ← accept '+' then return .possessive
  else return .greedy

/-- Repeats the last item; `here` is where the repetition begins. -/
def repeatLast (here least : Nat) (most : Option Nat) (items : List Regex) :
    Read (List Regex) := do
  match items.getLast? with
  | none | some (.boundary _) => throw ⟨.nothingToRepeat, some here⟩
  | some (.repetition _ _ _ _) => throw ⟨.multipleRepeat, some here⟩
  | some item => return items.dropLast ++ [.repetition least most (← greed) item]

/-! ## Flags -/

/-- Fails at a piece that is no letter of a flag. -/
def notFlag {α : Type} (piece : Text) (missing : Cause) : Read α :=
  let isLetter := match piece with
    | [c] => Text.isLetter c
    | _ => false
  fail (if isLetter then .unknownFlag else missing) piece.length

/-- The flags that a piece turns on. -/
def flag? : Text → Option Flags
  | [c] => Flags.ofLetter? c
  | _ => none

/-- Reads flags to turn on, of which `letter` is the first, up to what ends them. -/
def flagsOn : Nat → Text → Flags → Read (Flags × Text)
  | 0, _, flags => return (flags, [])
  | fuel + 1, letter, flags => do
    match flag? letter with
    | none => notFlag letter .missingFlagEnd
    | some flag =>
      if letter == ['L'] then fail .localeFlag 0
      let flags := flags.union flag
      if (flag.ascii && flags.unicode) || (flag.unicode && flags.ascii) then
        fail .incompatibleFlags 0
      if ← isAtEnd then fail .missingFlagEnd 0
      let next ← take
      if [[')'], ['-'], [':']].contains next then return (flags, next)
      flagsOn fuel next flags

/-- Reads flags to turn off, of which `letter` is the first. -/
def flagsOff : Nat → Text → Flags → Read Flags
  | 0, _, flags => return flags
  | fuel + 1, letter, flags => do
    match flag? letter with
    | none => notFlag letter (if flags == {} then .missingFlag else .missingColon)
    | some flag =>
      if letter == ['L'] || flag.ascii || flag.unicode then fail .typeFlagOff 0
      let flags := flags.union flag
      if ← isAtEnd then fail .missingColon 0
      let next ← take
      if next == [':'] then return flags
      flagsOff fuel next flags

/-- Reads flags in parentheses, of which `letter` is the first piece: those of a part, or none if
they were for the whole pattern. -/
def flagGroup (letter : Text) : Read (Option Scope) := do
  let fuel := (← get).size + 1
  let (on, stop) ← if letter == ['-'] then pure (({} : Flags), letter) else flagsOn fuel letter {}
  if stop == [')'] then
    modify fun s => { s with flags := s.flags.union on }
    return none
  if on.template then fail .globalFlagOn 1
  if stop == [':'] then return some ⟨on, {}⟩
  if ← isAtEnd then fail .missingFlag 0
  let off ← flagsOff fuel (← take) {}
  if off.template then fail .globalFlagOff 1
  if on.minus off != on then fail .flagOnAndOff 1
  return some ⟨on, off⟩

/-! ## Parentheses -/

/-- What an open parenthesis starts. -/
inductive Opening where
  | group (name : Option Text)
  | part (scope : Scope)
  | atomic
  | look (behind negated : Bool)
  | condition (number : Nat)
  | reference (r : Regex)
  | comment
  | allFlags

/-- Reads what follows `(?P`. -/
def namedOpening : Read Opening := do
  if ← accept '<' then return .group (some (← groupName '>'))
  else if ← accept '=' then
    let name ← groupName ')'
    match (← get).names.lookup (String.ofList name) with
    | some n => return .reference (← reference n (name.length + 1))
    | none => fail (.unknownName (String.ofList name)) (name.length + 1)
  else
    if ← isAtEnd then fail .unexpectedEnd 0
    let d ← take
    fail (.unknownExtension ("?P" ++ String.ofList d)) (d.length + 2)

/-- The number of the group that a condition asks for by name or number. -/
def condition : Read Nat := do
  let name ← takeName "group name" ')'
  let length := name.length + 1
  let number ←
    if Text.isIdentifier name then
      match (← get).names.lookup (String.ofList name) with
      | some n => pure n
      | none => fail (.unknownName (String.ofList name)) length
    else
      match Numeral.ofText 10 name with
      | .error _ => fail (.badName (String.ofList name)) length
      | .ok n =>
        if n < 0 then fail (.badName (String.ofList name)) length
        if n == 0 then fail .groupZero length
        if 0x3fffffff ≤ n then fail (.unknownGroup n.toNat) length
        await n.toNat ((← offset) - length)
        pure n.toNat
  checkLookBehind number
  return number

/-- Reads what follows an open parenthesis at `start`, as far as it tells what it starts. -/
def opening (start : Nat) : Read Opening := do
  if !(← accept '?') then return .group none
  if ← isAtEnd then fail .unexpectedEnd 0
  let c ← take
  match c with
  | ['P'] => namedOpening
  | [':'] => return .part .same
  | ['>'] => return .atomic
  | ['='] => return .look false false
  | ['!'] => return .look false true
  | ['<'] =>
    if ← isAtEnd then fail .unexpectedEnd 0
    let d ← take
    match d with
    | ['='] => return .look true false
    | ['!'] => return .look true true
    | _ => fail (.unknownExtension ("?<" ++ String.ofList d)) (d.length + 2)
  | ['('] => return .condition (← condition)
  | ['#'] =>
    let closed := (← get).rest.contains ')'
    skipPast ')' ((← get).size + 1)
    if !closed then throw ⟨.unterminatedComment, some start⟩
    return .comment
  | _ =>
    if c == ['-'] || (flag? c).isSome then
      match ← flagGroup c with
      | some scope => return .part scope
      | none => return .allFlags
    else fail (.unknownExtension ("?" ++ String.ofList c)) (c.length + 1)

/-! ## Patterns -/

/-- Whether a pattern is one step, so that it is the same wherever it stands. -/
def isStep : Regex → Bool
  | .char .. | .any | .oneOf _ | .boundary _ | .same .. => true
  | _ => false

/-- The steps that all of some patterns begin with, and what is left of each. -/
def commonSteps : Nat → List (List Regex) → List Regex × List (List Regex)
  | 0, branches => ([], branches)
  | fuel + 1, branches =>
    match branches with
    | (step :: _) :: _ =>
      if isStep step && branches.all (·.head? == some step) then
        let (steps, rest) := commonSteps fuel (branches.map List.tail)
        (step :: steps, rest)
      else ([], branches)
    | _ => ([], branches)

/-- The members of the set that a branch of one character is. -/
def branchMembers? : List Regex → Option (List Member)
  | [.char c false] => some [.char c]
  | [.oneOf ⟨members, false⟩] => some members
  | _ => none

/-- Alternatives put together: what they all begin with is taken out, and what is left is one set
if each is a character or a set. -/
def joined (branches : List (List Regex)) : Regex :=
  match branches with
  | [branch] => sequence branch
  | _ =>
    let (steps, rest) := commonSteps (branches.flatten.length + 1) branches
    let last := match rest.mapM branchMembers? with
      | some members => Regex.oneOf ⟨members.flatten.eraseDups, false⟩
      | none => Regex.alternatives (rest.map sequence)
    sequence (steps ++ [last])

/-- A part that changes no flags is nothing but its items. -/
def unpacked (r : Regex) : List Regex :=
  match r with
  | .part scope r => if scope == .same then r.items else [.part scope r]
  | r => [r]

mutual

/-- Reads alternatives; `isTop` outside all parentheses. -/
def branches (fuel : Nat) (verbose isTop : Bool) : Read Regex :=
  match fuel with
  | 0 => return .empty
  | fuel + 1 => do
    let first ← items fuel verbose isTop []
    return joined (first :: (← laterBranches fuel verbose isTop))

/-- Reads the alternatives after the first. Flags for the whole pattern hold for them outside all
parentheses. -/
def laterBranches (fuel : Nat) (verbose isTop : Bool) : Read (List (List Regex)) :=
  match fuel with
  | 0 => return []
  | fuel + 1 => do
    if ← accept '|' then
      let s ← get
      let verbose := if isTop then s.flags.verbose else verbose
      let branch ← items fuel verbose false []
      return branch :: (← laterBranches fuel verbose isTop)
    else return []

/-- Reads items up to the end of an alternative; `before` holds those already read. -/
def items (fuel : Nat) (verbose isFirst : Bool) (before : List Regex) : Read (List Regex) :=
  match fuel with
  | 0 => return before
  | fuel + 1 => do
    let s ← get
    match s.rest with
    | [] | '|' :: _ | ')' :: _ => return before.flatMap unpacked
    | c :: _ =>
      let start := s.size - s.rest.length
      let piece ← take
      let add (r : Regex) : Read (List Regex) := items fuel verbose isFirst (before ++ [r])
      let repeated (least : Nat) (most : Option Nat) : Read (List Regex) := do
        items fuel verbose isFirst (← repeatLast start least most before)
      if verbose && Text.isAsciiSpace c then items fuel verbose isFirst before
      else if verbose && c == '#' then
        skipPast '\n' (s.size + 1)
        items fuel verbose isFirst before
      else
        match c with
        | '\\' => add (← escape ((piece[1]?).getD '\\'))
        | '[' => add (← charSet)
        | '.' => add .any
        | '^' => add (.boundary .start)
        | '$' => add (.boundary .stop)
        | '?' => repeated 0 (some 1)
        | '*' => repeated 0 none
        | '+' => repeated 1 none
        | '\x7b' =>
          match ← braces with
          | some (least, most) => repeated least most
          | none => add (literal c)
        | '(' => parenthesis fuel start verbose isFirst before
        | _ => add (literal c)

/-- Reads what an open parenthesis at `start` starts, and the items after it. -/
def parenthesis (fuel start : Nat) (verbose isFirst : Bool) (before : List Regex) :
    Read (List Regex) :=
  match fuel with
  | 0 => return before
  | fuel + 1 => do
    let add (r : Regex) : Read (List Regex) := items fuel verbose isFirst (before ++ [r])
    let close : Read Unit := do
      if !(← accept ')') then throw ⟨.unterminatedGroup, some start⟩
    match ← opening start with
    | .comment => items fuel verbose isFirst before
    | .reference r => add r
    | .allFlags =>
      if !isFirst || !before.isEmpty then throw ⟨.flagsNotFirst, some start⟩
      let s ← get
      items fuel s.flags.verbose isFirst before
    | .group name =>
      let number ← openGroup name
      let r ← branches fuel verbose false
      close
      closeGroup number r.width
      add (.group number r)
    | .part scope =>
      let r ← branches fuel ((verbose || scope.on.verbose) && !scope.off.verbose) false
      close
      add (.part scope r)
    | .atomic =>
      let r ← branches fuel verbose false
      close
      add (.atomic r)
    | .look behind negated =>
      let outer := (← get).lookBehind
      if behind then
        modify fun s => { s with lookBehind := s.lookBehind.or (some s.nextGroup) }
      let r ← branches fuel verbose false
      modify fun s => { s with lookBehind := outer }
      close
      add (.look behind negated r)
    | .condition number =>
      let matched ← items fuel verbose false []
      let missing ← if ← accept '|' then items fuel verbose false [] else pure []
      if (← peek) == some '|' then fail .thirdBranch 0
      close
      add (.ifGroup number (sequence matched) (sequence missing))

end

/-! ## Whole patterns -/

def Greed.operator : Greed → String
  | .greedy => "MAX_REPEAT"
  | .lazy => "MIN_REPEAT"
  | .possessive => "POSSESSIVE_REPEAT"

/-- The longest look behind. -/
def farthest : Nat := 0xffffffff

/-- Fails for a repetition that the flags do not allow, or a look behind whose width is not always
the same; the first fault from left to right counts. -/
def check (flags : Flags) : Regex → Except Fault Unit
  | .seq a b | .alt a b | .ifGroup _ a b => do
    check flags a
    check flags b
  | .repetition _ _ greed r => do
    if flags.template then throw ⟨.repetitionInTemplate (Greed.operator greed), none⟩
    check flags r
  | .group _ r | .part _ r | .atomic r => check flags r
  | .look behind _ r => do
    if behind then
      let w := r.width
      if farthest < w.least then throw ⟨.farLookBehind, none⟩
      if w.least != w.most then throw ⟨.variableLookBehind, none⟩
    check flags r
  | _ => .ok ()

/-- Reads a whole pattern. -/
def pattern : Read Pattern := do
  checkEnd
  let r ← branches (4 * (← get).size + 4) false true
  let s ← get
  if s.flags.ascii && s.flags.unicode then throw ⟨.incompatibleScripts, none⟩
  if !(← isAtEnd) then fail .unbalancedParenthesis 0
  if let some (number, place) := s.awaited.find? fun (number, _) => s.nextGroup ≤ number then
    throw ⟨.unknownGroup number, some place⟩
  match check s.flags r with
  | .error f => throw f
  | .ok () => return ⟨s.flags, r⟩

end Read

/-- Reads a pattern. -/
def Pattern.ofText (t : Text) : Except Fault Pattern := (Read.pattern.run (.start t)).map (·.1)

end YamlStyle.Regex
