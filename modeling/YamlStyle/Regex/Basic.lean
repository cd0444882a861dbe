/-!
# Regular expressions

Patterns with groups, back references, conditions and looks to either side, apart from how they
are written and from what they match. What a pattern means depends on the flags that are on. Flags
hold for a whole pattern or for a part of it, which turns some on and others off.
-/

/-! ## Flags -/

namespace YamlStyle.Regex

structure Flags where
  ignoreCase : Bool := false
  multiline : Bool := false
  dotAll : Bool := false
  verbose : Bool := false
  /-- Classes of characters and case are those of ASCII. -/
  ascii : Bool := false
  /-- Classes of characters and case are those of all scripts, as they are without this. -/
  unicode : Bool := false
  /-- The pattern may have no repetitions. -/
  template : Bool := false
  deriving DecidableEq, Repr

namespace Flags

def none : Flags := {}

/-- The flags that are on in one of two sets. -/
def union (f g : Flags) : Flags :=
  { ignoreCase := f.ignoreCase || g.ignoreCase, multiline := f.multiline || g.multiline
    dotAll := f.dotAll || g.dotAll, verbose := f.verbose || g.verbose, ascii := f.ascii || g.ascii
    unicode := f.unicode || g.unicode, template := f.template || g.template }

/-- The flags that are on in the first of two sets and not in the second. -/
def minus (f g : Flags) : Flags :=
  { ignoreCase := f.ignoreCase && !g.ignoreCase, multiline := f.multiline && !g.multiline
    dotAll := f.dotAll && !g.dotAll, verbose := f.verbose && !g.verbose
    ascii := f.ascii && !g.ascii, unicode := f.unicode && !g.unicode
    template := f.template && !g.template }

/-- The flags that a letter turns on. -/
def ofLetter? : Char → Option Flags
  | 'i' => some { ignoreCase := true }
  | 'm' => some { multiline := true }
  | 's' => some { dotAll := true }
  | 'x' => some { verbose := true }
  | 'a' => some { ascii := true }
  | 'u' => some { unicode := true }
  | 't' => some { template := true }
  | 'L' => some {}
  | _ => .none

end Flags

/-- The flags that a part of a pattern turns on and off. -/
structure Scope where
  on : Flags
  off : Flags
  deriving DecidableEq, Repr

namespace Scope

/-- A part that changes no flags. -/
def same : Scope := ⟨{}, {}⟩

/-- The flags inside of a part, given those outside. A part that chooses its script leaves the
choice made outside. -/
def apply (s : Scope) (f : Flags) : Flags :=
  let f := if s.on.ascii || s.on.unicode then { f with ascii := false, unicode := false } else f
  (f.union s.on).minus s.off

end Scope

end YamlStyle.Regex

/-! ## Patterns -/

namespace YamlStyle

namespace Regex

/-- A class of characters that has a letter of its own. -/
inductive CharClass where
  | digit | space | word
  deriving DecidableEq, Repr

/-- A member of a set of characters. -/
inductive Member where
  | char (c : Char)
  | range (low high : Char)
  | ofClass (c : CharClass) (negated : Bool)
  deriving DecidableEq, Repr

/-- A set of characters, or all characters but those. -/
structure CharSet where
  members : List Member
  negated : Bool
  deriving DecidableEq, Repr

/-- How a repetition chooses its count. -/
inductive Greed where
  | greedy | lazy | possessive
  deriving DecidableEq, Repr

inductive Boundary where
  | textStart | textStop
  /-- The start of the text, or of a line in a pattern for several lines. -/
  | start
  /-- The end of the text or before a line feed that ends it, or the end of a line in a pattern
  for several lines. -/
  | stop
  | word (negated : Bool)
  deriving DecidableEq, Repr

/-- Bounds of the number of characters that something matches. -/
structure Width where
  least : Nat
  most : Nat
  deriving DecidableEq, Repr

end Regex

open Regex in
inductive Regex where
  | empty
  /-- One character, or any other. -/
  | char (c : Char) (negated : Bool)
  | any
  | oneOf (s : CharSet)
  | boundary (b : Boundary)
  | seq (a b : Regex)
  | alt (a b : Regex)
  | repetition (least : Nat) (most : Option Nat) (greed : Greed) (r : Regex)
  | group (number : Nat) (r : Regex)
  /-- A part in parentheses that is no group. -/
  | part (scope : Scope) (r : Regex)
  /-- A part that is not tried again once it has matched. -/
  | atomic (r : Regex)
  /-- What a group of some width has matched. -/
  | same (number : Nat) (width : Width)
  /-- One pattern where a group has matched, another where it has not. -/
  | ifGroup (number : Nat) (matched missing : Regex)
  | look (behind negated : Bool) (r : Regex)
  deriving DecidableEq, Repr

namespace Regex

/-- The patterns one after another. -/
def sequence : List Regex → Regex
  | [] => .empty
  | [r] => r
  | r :: rs => .seq r (sequence rs)

/-- The patterns that follow one another in a pattern. -/
def items : Regex → List Regex
  | empty => []
  | seq a b => a :: items b
  | r => [r]

/-- The characters of a text, and a pattern after them. -/
def literal (t : List Char) (r : Regex) : Regex := t.foldr (fun c r => .seq (.char c false) r) r

/-- A pattern as often as it can match, and no less often than the number says. -/
def many (least : Nat) (r : Regex) : Regex := .repetition least none .greedy r

/-- The patterns in turn; the first that leads to a match counts. -/
def alternatives : List Regex → Regex
  | [] => .empty
  | [r] => r
  | r :: rs => .alt r (alternatives rs)

/-! ## Widths -/

/-- No width is told beyond this one. -/
def widest : Nat := 0x10000000000000000

namespace Width

def zero : Width := ⟨0, 0⟩
def one : Width := ⟨1, 1⟩

def capped (w : Width) : Width := ⟨min w.least widest, min w.most widest⟩

def add (v w : Width) : Width := capped ⟨v.least + w.least, v.most + w.most⟩

def either (v w : Width) : Width := ⟨min v.least w.least, max v.most w.most⟩

/-- The width of something that is repeated. -/
def times (least : Nat) (most : Option Nat) (w : Width) : Width :=
  let longest := match most with
    | some n => w.most * n
    | none => if w.most == 0 then 0 else widest
  capped ⟨w.least * least, longest⟩

end Width

def width : Regex → Width
  | empty | boundary _ | look _ _ _ => .zero
  | char _ _ | any | oneOf _ => .one
  | seq a b => a.width.add b.width
  | alt a b => a.width.either b.width
  | repetition least most _ r => r.width.times least most
  | group _ r | part _ r | atomic r => r.width
  | same _ width => width
  | ifGroup _ a b => a.width.either b.width

end Regex

end YamlStyle
