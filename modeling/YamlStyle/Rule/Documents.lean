import YamlStyle.Rule.Basic

/-!
# Marks between documents

Rules that ask each document for its start or end mark, or forbid the mark.
-/

namespace YamlStyle.Rule

structure DocumentMark where
  isWanted : Bool
  deriving Repr

namespace DocumentMark

def specs : List OptionSpec := [⟨"present", .ofType .bool, .bool true⟩]

def ofValues (vs : OptionValues) : DocumentMark := ⟨vs.bool "present"⟩

/-- The rule for marks that start a document. -/
def checkStart (o : DocumentMark) (w : Window) : List Finding :=
  if o.isWanted then
    if isOneOf w.prev [.streamStart, .documentEnd, .directive] &&
        !isOneOf (some w.curr) [.documentStart, .directive, .streamEnd] then
      [.atLine w.curr "missing document start \"---\""]
    else []
  else if w.curr.kind == .documentStart then
    [.atStart w.curr "found forbidden document start \"---\""]
  else []

/-- The rule for marks that end a document. Where the last one is missing, the last line of
content is named and not the empty one after it. -/
def checkStop (o : DocumentMark) (w : Window) : List Finding :=
  let missing := "missing document end \"...\""
  if o.isWanted then
    let isClosed := isOneOf w.prev [.documentEnd, .streamStart]
    if w.curr.kind == .streamEnd && !isClosed then [⟨max 1 w.curr.start.line, 1, missing⟩]
    else if w.curr.kind == .documentStart && !isClosed && !isOneOf w.prev [.directive] then
      [.atLine w.curr missing]
    else []
  else if w.curr.kind == .documentEnd then
    [.atStart w.curr "found forbidden document end \"...\""]
  else []

end DocumentMark

end YamlStyle.Rule
