import YamlStyle.Regex.Reader
import YamlStyle.Text.CharacterName

/-!
# Escapes in regular expressions

What a backslash and the characters after it stand for: a character, a class of characters, a
boundary, or what a group has matched.
-/

namespace YamlStyle.Regex.Read

/-- The class of characters that a letter after a backslash stands for. -/
def class? : Char → Option Member
  | 'd' => some (.ofClass .digit false)
  | 'D' => some (.ofClass .digit true)
  | 's' => some (.ofClass .space false)
  | 'S' => some (.ofClass .space true)
  | 'w' => some (.ofClass .word false)
  | 'W' => some (.ofClass .word true)
  | _ => none

def boundary? : Char → Option Boundary
  | 'A' => some .textStart
  | 'Z' => some .textStop
  | 'b' => some (.word false)
  | 'B' => some (.word true)
  | _ => none

/-- The control character that a letter after a backslash stands for. -/
def control? : Char → Option Char
  | 'a' => some '\x07'
  | 'b' => some '\x08'
  | 'f' => some '\x0c'
  | 'n' => some '\n'
  | 'r' => some '\r'
  | 't' => some '\t'
  | 'v' => some '\x0b'
  | '\\' => some '\\'
  | _ => none

/-- The character whose number follows in exactly `count` digits. -/
def hexEscape (letter : Char) (count : Nat) : Read Char := do
  let digits ← takeWhile count Text.isHexDigit
  let escape := '\\' :: letter :: digits
  let shown := String.ofList escape
  if digits.length != count then fail (.incompleteEscape shown) escape.length
  let n := Text.numberIn 16 digits
  if 0x10ffff < n then fail (.badEscape shown) escape.length
  return Text.ofCode n

/-- The character whose name follows between braces. -/
def namedEscape : Read Char := do
  if !(← accept '\x7b') then fail .noNameBrace 0
  let name ← takeName "character name" '\x7d'
  match Text.named? name with
  | some c => return c
  | none => fail (.unknownCharacter (String.ofList name)) (name.length + 4)

/-- The character that an escape with no other meaning stands for. -/
def otherEscape (c : Char) : Read Char := do
  match c with
  | 'x' => hexEscape c 2
  | 'u' => hexEscape c 4
  | 'U' => hexEscape c 8
  | 'N' => namedEscape
  | _ =>
    if Text.isAsciiLetter c || Text.isDigit c then
      fail (.badEscape (String.ofList ['\\', c])) 2
    else return c

def octalEscape (digits : Text) : Read Char := do
  let n := Text.numberIn 8 digits
  if 0o377 < n then
    fail (.octalTooLarge (String.ofList ('\\' :: digits))) (digits.length + 1)
  return Char.ofNat n

def literal (c : Char) : Regex := .char c false

/-- A backslash and a digit: an octal number, or the number of a group. -/
def numberEscape (c : Char) : Read Regex := do
  if c == '0' then
    return literal (← octalEscape ('0' :: (← takeWhile 2 Text.isOctalDigit)))
  else
    let second ← takeWhile 1 Text.isDigit
    let digits := c :: second
    let third := (← get).rest.take 1
    if !second.isEmpty && !third.isEmpty && (digits ++ third).all Text.isOctalDigit then
      return literal (← octalEscape (digits ++ (← takeWhile 1 Text.isOctalDigit)))
    else
      let number := Text.numberIn 10 digits
      if (← get).nextGroup ≤ number then fail (.unknownGroup number) digits.length
      reference number (digits.length + 1)

/-- What a backslash and a character stand for. -/
def escape (c : Char) : Read Regex := do
  match boundary? c, class? c, control? c with
  | some b, _, _ => return .boundary b
  | none, some m, _ => return .oneOf ⟨[m], false⟩
  | none, none, some c => return literal c
  | none, none, none =>
    if Text.isDigit c then numberEscape c else return literal (← otherEscape c)

/-- The member that a piece of a set stands for. -/
def setMember (piece : Text) : Read Member := do
  match piece with
  | ['\\', c] =>
    match control? c, class? c with
    | some d, _ => return .char d
    | none, some m => return m
    | none, none =>
      if Text.isOctalDigit c then
        return .char (← octalEscape (c :: (← takeWhile 2 Text.isOctalDigit)))
      else return .char (← otherEscape c)
  | c :: _ => return .char c
  | [] => return .char '\x00'

/-- The members of a set up to its closing bracket; `here` is where the set began. -/
def setMembers (here : Nat) : Nat → List Member → Read (List Member)
  | 0, members => return members
  | fuel + 1, members => do
    let unterminated : Read (List Member) := throw ⟨.unterminatedSet, some here⟩
    if ← isAtEnd then unterminated
    else
      let low ← take
      if low == [']'] && !members.isEmpty then return members
      else
        let first ← setMember low
        if !(← accept '-') then setMembers here fuel (members ++ [first])
        else if ← isAtEnd then unterminated
        else
          let high ← take
          if high == [']'] then return members ++ [first, .char '-']
          else
            let last ← setMember high
            match first, last with
            | .char a, .char b =>
              if Text.codeOf a ≤ Text.codeOf b then
                setMembers here fuel (members ++ [.range a b])
              else
                fail (.badRange (String.ofList low) (String.ofList high))
                  (low.length + 1 + high.length)
            | _, _ =>
              fail (.badRange (String.ofList low) (String.ofList high))
                (low.length + 1 + high.length)

/-- A set, its opening bracket read. One of a single character is no set. -/
def charSet : Read Regex := do
  let here := (← offset) - 1
  let negated ← accept '^'
  let members := (← setMembers here ((← get).rest.length + 1) []).eraseDups
  match members with
  | [.char c] => return .char c negated
  | _ => return .oneOf ⟨members, negated⟩

end YamlStyle.Regex.Read
