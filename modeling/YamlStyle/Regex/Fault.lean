import YamlStyle.Number.Numeral
import YamlStyle.Text.Quoted

/-!
# Faults of regular expressions

What can be wrong with the written form of a pattern, and where.
-/

namespace YamlStyle.Regex

open Text (quoted)

/-- What is wrong with a pattern. -/
inductive Cause where
  | nothingToRepeat
  | multipleRepeat
  | repeatsReversed
  | unterminatedSet
  | badRange (low high : String)
  | badEscape (escape : String)
  | incompleteEscape (escape : String)
  | octalTooLarge (escape : String)
  | danglingEscape
  | noNameBrace
  | unknownCharacter (name : String)
  | unterminatedGroup
  | unbalancedParenthesis
  | unterminatedComment
  | unexpectedEnd
  | unknownExtension (extension : String)
  | missingName (what : String)
  | unterminatedName (terminator : Char)
  | badName (name : String)
  | secondName (name : String) (number first : Nat)
  | unknownName (name : String)
  | unknownGroup (number : Nat)
  | groupZero
  | openGroup
  | groupOfLookBehind
  | thirdBranch
  | flagsNotFirst
  | unknownFlag
  | missingFlagEnd
  | missingFlag
  | missingColon
  | localeFlag
  | incompatibleFlags
  | typeFlagOff
  | globalFlagOn
  | globalFlagOff
  | flagOnAndOff
  /-- Flags for the whole pattern that choose both ASCII and all scripts. -/
  | incompatibleScripts
  | countTooLarge
  | notNumeral (f : Numeral.Fault)
  | repetitionInTemplate (operator : String)
  | farLookBehind
  | variableLookBehind
  deriving DecidableEq, Repr

def Cause.phrase : Cause → String
  | .nothingToRepeat => "nothing to repeat"
  | .multipleRepeat => "multiple repeat"
  | .repeatsReversed => "min repeat greater than max repeat"
  | .unterminatedSet => "unterminated character set"
  | .badRange low high => s!"bad character range {low}-{high}"
  | .badEscape e => s!"bad escape {e}"
  | .incompleteEscape e => s!"incomplete escape {e}"
  | .octalTooLarge e => s!"octal escape value {e} outside of range 0-0o377"
  | .danglingEscape => "bad escape (end of pattern)"
  | .noNameBrace => "missing \x7b"
  | .unknownCharacter name => s!"undefined character name {quoted name.toList}"
  | .unterminatedGroup => "missing ), unterminated subpattern"
  | .unbalancedParenthesis => "unbalanced parenthesis"
  | .unterminatedComment => "missing ), unterminated comment"
  | .unexpectedEnd => "unexpected end of pattern"
  | .unknownExtension e => s!"unknown extension {e}"
  | .missingName what => s!"missing {what}"
  | .unterminatedName c => s!"missing {c}, unterminated name"
  | .badName name => s!"bad character in group name {quoted name.toList}"
  | .secondName name number first =>
    s!"redefinition of group name {quoted name.toList} as group {number}; was group {first}"
  | .unknownName name => s!"unknown group name {quoted name.toList}"
  | .unknownGroup n => s!"invalid group reference {n}"
  | .groupZero => "bad group number"
  | .openGroup => "cannot refer to an open group"
  | .groupOfLookBehind => "cannot refer to group defined in the same lookbehind subpattern"
  | .thirdBranch => "conditional backref with more than two branches"
  | .flagsNotFirst => "global flags not at the start of the expression"
  | .unknownFlag => "unknown flag"
  | .missingFlagEnd => "missing -, : or )"
  | .missingFlag => "missing flag"
  | .missingColon => "missing :"
  | .localeFlag => "bad inline flags: cannot use 'L' flag with a str pattern"
  | .incompatibleFlags => "bad inline flags: flags 'a', 'u' and 'L' are incompatible"
  | .typeFlagOff => "bad inline flags: cannot turn off flags 'a', 'u' and 'L'"
  | .globalFlagOn => "bad inline flags: cannot turn on global flag"
  | .globalFlagOff => "bad inline flags: cannot turn off global flag"
  | .flagOnAndOff => "bad inline flags: flag turned on and off"
  | .incompatibleScripts => "ASCII and UNICODE flags are incompatible"
  | .countTooLarge => "the repetition number is too large"
  | .notNumeral f => f.message
  | .repetitionInTemplate operator => s!"internal: unsupported template operator {operator}"
  | .farLookBehind => "looks too much behind"
  | .variableLookBehind => "look-behind requires fixed-width pattern"

/-- What is wrong with a pattern and where; some faults concern no single place. -/
structure Fault where
  cause : Cause
  position : Option Nat
  deriving DecidableEq, Repr

/-- The report of a fault. In a pattern of several lines it tells line and column too. -/
def Fault.describe (pattern : Text) (f : Fault) : String :=
  match f.position with
  | none => f.cause.phrase
  | some n =>
    let place :=
      if pattern.contains '\n' then
        let m := (LineIndex.ofText pattern).mark n
        s!" (line {m.line + 1}, column {m.column + 1})"
      else ""
    s!"{f.cause.phrase} at position {n}{place}"

end YamlStyle.Regex
