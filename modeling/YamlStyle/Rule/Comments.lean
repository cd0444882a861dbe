import YamlStyle.Rule.Basic

/-!
# Comments

Rules on how a comment is written, how far it stands from the content before it, and how far it
is indented.
-/

namespace YamlStyle.Rule

namespace Comments

structure Options where
  requireSpace : Bool
  /-- Whether the first line may be a shebang. -/
  ignoreShebang : Bool
  minSpaces : Int
  deriving Repr

def specs : List OptionSpec :=
  [⟨"require-starting-space", .ofType .bool, .bool true⟩,
   ⟨"ignore-shebangs", .ofType .bool, .bool true⟩,
   ⟨"min-spaces-from-content", .ofType .int, .int 2⟩]

def Options.ofValues (vs : OptionValues) : Options :=
  ⟨vs.bool "require-starting-space", vs.bool "ignore-shebangs", vs.int "min-spaces-from-content"⟩

/-- Checks the distance of an inline comment from what stands before it. -/
def checkDistance (o : Options) (t : Text) (c : Comment) : List Finding :=
  let distance : Int := c.offset - c.before.stop.offset
  if o.minSpaces != -1 && c.isInline t && distance < o.minSpaces then
    [⟨c.line, c.column, s!"too few spaces before comment: expected {o.minSpaces}"⟩]
  else []

/-- A bang and a character that is no space. -/
def startsShebang : Text → Bool
  | '!' :: c :: _ => !Text.isSpace c
  | _ => false

/-- Checks that a space follows the hash signs. -/
def checkStart (o : Options) (t : Text) (c : Comment) : List Finding :=
  let hashes := ((t.drop (c.offset + 1)).takeWhile (· == '#')).length + 1
  let rest := t.drop (c.offset + hashes)
  match rest with
  | [] => []
  | first :: _ =>
    if !o.requireSpace then []
    else if o.ignoreShebang && c.line == 1 && c.column == 1 && startsShebang rest then []
    else if first == ' ' || first == '\n' || first == '\r' || first == '\x00' then []
    else [⟨c.line, c.column + hashes, "missing starting space in comment"⟩]

def check (o : Options) (t : Text) (c : Comment) : List Finding :=
  checkDistance o t c ++ checkStart o t c

end Comments

namespace CommentIndentation

/-- Whether a comment shares the line with what stands before it. -/
def sharesLine (c : Comment) : Bool :=
  c.before.kind != .streamStart && c.before.stop.line + 1 == c.line

/-- The indentation of what follows a comment. -/
def indentAfter (c : Comment) : Nat :=
  match c.after with
  | some x => if x.kind == .streamEnd then 0 else x.start.column
  | none => 0

def indentBefore (t : Text) (c : Comment) : Nat :=
  if c.before.kind == .streamStart then 0 else c.before.lineIndent t

/-- The indentations that a comment may have: that of what follows, and that of what stands
before, but for a comment that follows another on a line of its own: that of the other. -/
def allowed (t : Text) (c : Comment) : List Nat :=
  let previous :=
    match c.previous with
    | some p => if p.isInlineAfter t c.before then none else some (p.column - 1)
    | none => none
  [previous.getD (max (indentBefore t c) (indentAfter c)), indentAfter c]

def check (t : Text) (c : Comment) : List Finding :=
  if sharesLine c || (allowed t c).contains (c.column - 1) then []
  else [⟨c.line, c.column, "comment not indented like content"⟩]

end CommentIndentation

end YamlStyle.Rule
