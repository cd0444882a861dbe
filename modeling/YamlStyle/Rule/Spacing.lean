import YamlStyle.Rule.Basic

/-!
# Spaces around punctuation

Rules that limit the spaces before and after colons, commas and hyphens and inside flow
collections. Only what stands on one line is looked at, and a limit of -1 is no limit.
-/

namespace YamlStyle.Rule

namespace Spacing

/-- The least and the most spaces allowed, each with what to say where it is broken. -/
structure Limits where
  least : Int := -1
  most : Int := -1
  tooFew : String := ""
  tooMany : String := ""
  deriving Repr

/-- Whether a number of spaces is above the most allowed. -/
def Limits.isAbove (l : Limits) (spaces : Int) : Bool := l.most != -1 && l.most < spaces

def Limits.isBelow (l : Limits) (spaces : Int) : Bool := l.least != -1 && spaces < l.least

/-- The finding for a number of spaces after which the column, from zero, is `column`. -/
def Limits.check (l : Limits) (line : Nat) (column : Nat) (spaces : Int) : List Finding :=
  if l.isAbove spaces then [⟨line + 1, column, l.tooMany⟩]
  else if l.isBelow spaces then [⟨line + 1, column + 1, l.tooFew⟩]
  else []

/-- Checks the spaces after a lexeme. -/
def after (w : Window) (l : Limits) : List Finding :=
  match w.next with
  | some next =>
    if w.curr.stop.line == next.start.line then
      l.check w.curr.start.line next.start.column (next.start.offset - w.curr.stop.offset)
    else []
  | none => []

/-- Checks the spaces before a lexeme. A scalar may end at the start of the following line. -/
def before (t : Text) (w : Window) (l : Limits) : List Finding :=
  match w.prev with
  | some prev =>
    if prev.stop.line == w.curr.start.line && t.before? prev.stop.offset != some '\n' then
      l.check w.curr.start.line w.curr.start.column (w.curr.start.offset - prev.stop.offset)
    else []
  | none => []

end Spacing

open Spacing

namespace Colons

structure Options where
  maxBefore : Int
  maxAfter : Int
  deriving Repr

def specs : List OptionSpec :=
  [⟨"max-spaces-before", .ofType .int, .int 0⟩, ⟨"max-spaces-after", .ofType .int, .int 1⟩]

def Options.ofValues (vs : OptionValues) : Options :=
  ⟨vs.int "max-spaces-before", vs.int "max-spaces-after"⟩

/-- Whether an alias stands one space before: without the space the colon would belong to it. -/
def followsAlias (w : Window) : Bool :=
  w.prev.any fun p => p.kind == .alias && w.curr.start.offset == p.stop.offset + 1

def check (o : Options) (t : Text) (w : Window) : List Finding :=
  match w.curr.kind with
  | .value =>
    (if followsAlias w then []
      else before t w { most := o.maxBefore, tooMany := "too many spaces before colon" }) ++
      after w { most := o.maxAfter, tooMany := "too many spaces after colon" }
  | .key =>
    if w.curr.isExplicitKey t then
      after w { most := o.maxAfter, tooMany := "too many spaces after question mark" }
    else []
  | _ => []

end Colons

namespace Commas

structure Options where
  maxBefore : Int
  minAfter : Int
  maxAfter : Int
  deriving Repr

def specs : List OptionSpec :=
  [⟨"max-spaces-before", .ofType .int, .int 0⟩, ⟨"min-spaces-after", .ofType .int, .int 1⟩,
   ⟨"max-spaces-after", .ofType .int, .int 1⟩]

def Options.ofValues (vs : OptionValues) : Options :=
  ⟨vs.int "max-spaces-before", vs.int "min-spaces-after", vs.int "max-spaces-after"⟩

/-- Whether a comma stands on a later line than what is before it. -/
def startsLine (w : Window) : Bool := w.prev.any fun p => p.stop.line < w.curr.start.line

def check (o : Options) (t : Text) (w : Window) : List Finding :=
  if w.curr.kind != .flowEntry then []
  else
    let tooMany := "too many spaces before comma"
    (if startsLine w && o.maxBefore != -1 then
        [⟨w.curr.start.line + 1, max 1 w.curr.start.column, tooMany⟩]
      else before t w { most := o.maxBefore, tooMany }) ++
      after w ⟨o.minAfter, o.maxAfter, "too few spaces after comma", "too many spaces after comma"⟩

end Commas

namespace Hyphens

structure Options where
  maxAfter : Int
  deriving Repr

def specs : List OptionSpec := [⟨"max-spaces-after", .ofType .int, .int 1⟩]

def Options.ofValues (vs : OptionValues) : Options := ⟨vs.int "max-spaces-after"⟩

def check (o : Options) (w : Window) : List Finding :=
  if w.curr.kind == .blockEntry then
    after w { most := o.maxAfter, tooMany := "too many spaces after hyphen" }
  else []

end Hyphens

namespace FlowCollections

/-- Which flow collections are not wanted at all. -/
inductive Forbidden where
  | none | all | nonEmpty
  deriving DecidableEq, Repr

structure Options where
  forbidden : Forbidden
  minInside : Int
  maxInside : Int
  minInsideEmpty : Int
  maxInsideEmpty : Int
  deriving Repr

def specs : List OptionSpec :=
  [⟨"forbid", .oneOf [.anyOf .bool, .text "non-empty"], .bool false⟩,
   ⟨"min-spaces-inside", .ofType .int, .int 0⟩,
   ⟨"max-spaces-inside", .ofType .int, .int 0⟩,
   ⟨"min-spaces-inside-empty", .ofType .int, .int (-1)⟩,
   ⟨"max-spaces-inside-empty", .ofType .int, .int (-1)⟩]

def Forbidden.ofValue : Option OptionValue → Forbidden
  | some (.bool true) => all
  | some (.text "non-empty") => nonEmpty
  | _ => none

def Options.ofValues (vs : OptionValues) : Options where
  forbidden := .ofValue (vs.lookup "forbid")
  minInside := vs.int "min-spaces-inside"
  maxInside := vs.int "max-spaces-inside"
  minInsideEmpty := vs.int "min-spaces-inside-empty"
  maxInsideEmpty := vs.int "max-spaces-inside-empty"

/-- A form of flow collection, and how messages call it. -/
structure Form where
  start : LexemeKind
  stop : LexemeKind
  brackets : String
  collection : String
  deriving Repr

def sequences : Form := ⟨.flowSequenceStart, .flowSequenceEnd, "brackets", "flow sequence"⟩

def mappings : Form := ⟨.flowMappingStart, .flowMappingEnd, "braces", "flow mapping"⟩

def Form.limits (s : Form) (least most : Int) (place : String) : Limits :=
  ⟨least, most, s!"too few spaces inside {place}{s.brackets}",
    s!"too many spaces inside {place}{s.brackets}"⟩

def isForbidden (o : Options) (isEmpty : Bool) : Bool :=
  match o.forbidden with
  | .none => false
  | .all => true
  | .nonEmpty => !isEmpty

/-- A limit for empty collections; -1 stands for the limit of all collections. -/
def orElse (limit general : Int) : Int := if limit != -1 then limit else general

def check (s : Form) (o : Options) (t : Text) (w : Window) : List Finding :=
  if w.curr.kind == s.start then
    let isEmpty := w.next.any (·.kind == s.stop)
    if isForbidden o isEmpty then [.atStop w.curr s!"forbidden {s.collection}"]
    else if isEmpty then
      after w (s.limits (orElse o.minInsideEmpty o.minInside) (orElse o.maxInsideEmpty o.maxInside)
        "empty ")
    else after w (s.limits o.minInside o.maxInside "")
  else if w.curr.kind == s.stop && w.prev.all (·.kind != s.start) then
    before t w (s.limits o.minInside o.maxInside "")
  else []

end FlowCollections

end YamlStyle.Rule
