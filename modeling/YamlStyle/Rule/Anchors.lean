import YamlStyle.Rule.Basic

/-!
# Anchors and aliases

A rule against aliases to anchors that the document has not declared, against anchors declared
twice, and against anchors without an alias; the last are known where the document closes.
-/

namespace YamlStyle.Rule.Anchors

structure Options where
  forbidUndeclared : Bool
  forbidDuplicated : Bool
  forbidUnused : Bool
  deriving Repr

def specs : List OptionSpec :=
  [⟨"forbid-undeclared-aliases", .ofType .bool, .bool true⟩,
   ⟨"forbid-duplicated-anchors", .ofType .bool, .bool false⟩,
   ⟨"forbid-unused-anchors", .ofType .bool, .bool false⟩]

def Options.ofValues (vs : OptionValues) : Options :=
  ⟨vs.bool "forbid-undeclared-aliases", vs.bool "forbid-duplicated-anchors",
    vs.bool "forbid-unused-anchors"⟩

/-- An anchor of the document at hand: where it was declared last, and whether an alias has named
it since. -/
structure Declared where
  name : String
  line : Nat
  column : Nat
  used : Bool
  deriving DecidableEq, Repr

/-- The anchors of the document at hand, in the order in which they were first declared. -/
abbrev State := List Declared

def State.has (s : State) (name : Option String) : Bool := s.any fun a => some a.name == name

def State.use (s : State) (name : Option String) : State :=
  s.map fun a => if some a.name == name then { a with used := true } else a

/-- Declares an anchor. One with the same name keeps its place in the order. -/
def State.declare (s : State) (a : Declared) : State :=
  if s.has (some a.name) then s.map fun b => if b.name == a.name then a else b else s ++ [a]

def isBoundary (k : LexemeKind) : Bool :=
  k == .streamStart || k == .documentStart || k == .documentEnd

def closers : List LexemeKind := [.streamEnd, .documentStart, .documentEnd]

def unused (s : State) : List Finding :=
  (s.filter (!·.used)).map fun a =>
    ⟨a.line + 1, a.column + 1, s!"found unused anchor \"{a.name}\""⟩

def check (o : Options) (w : Window) (s : State) : State × List Finding :=
  if !(o.forbidUndeclared || o.forbidDuplicated || o.forbidUnused) then (s, [])
  else
    let x := w.curr
    let shown := x.value.getD "None"
    let s : State := if isBoundary x.kind then [] else s
    let undeclared :=
      if o.forbidUndeclared && x.kind == .alias && !s.has x.value then
        [Finding.atStart x s!"found undeclared alias \"{shown}\""]
      else []
    let duplicated :=
      if o.forbidDuplicated && x.kind == .anchor && s.has x.value then
        [Finding.atStart x s!"found duplicated anchor \"{shown}\""]
      else []
    let closes := isOneOf w.next closers
    let atClose := if o.forbidUnused && closes then unused s else []
    let s : State := if o.forbidUnused && !closes && x.kind == .alias then s.use x.value else s
    let s : State :=
      match x.kind, x.value with
      | .anchor, some name => s.declare ⟨name, x.start.line, x.start.column, false⟩
      | _, _ => s
    (s, undeclared ++ duplicated ++ atClose)

end YamlStyle.Rule.Anchors
