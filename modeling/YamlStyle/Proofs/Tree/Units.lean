import Mathlib
import YamlStyle.Tree.OfText

/-!
# What the nodes of a tree stand for

A leaf stands for one token, and so does a block collection that began with a token of its own.
Documents, items, flow collections and indentless sequences only group. `Node.tally` counts the
nodes of a tree that stand for one lexical unit, and is a sum over the parts of the tree.
-/

namespace YamlStyle

namespace Tree

/-- What a node stands for: the kind, the place, the characters and the value of a token. -/
structure LexicalUnit where
  kind : NodeKind
  offset : Nat
  source : String
  resolved : Option String
  deriving DecidableEq, Repr

end Tree

open YamlStyle.Tree (LexicalUnit)

namespace Node

/-- The lexical unit that a node stands for; none if it only groups others. -/
def unit? (n : Node) : Option LexicalUnit :=
  match n.kind with
  | .stream | .document | .flowCollection | .item => none
  | .blockMap => some ⟨.blockMap, n.offset, "", none⟩
  | .blockSequence => if n.indentless then none else some ⟨.blockSequence, n.offset, "", none⟩
  | kind => some ⟨kind, n.offset, n.source, n.resolved⟩

/-- The lexical units of a tree, each as often as a node stands for it. -/
def units (n : Node) : List LexicalUnit := n.preorder.filterMap unit?

/-- How many nodes of a tree stand for a lexical unit. -/
def tally (u : LexicalUnit) (n : Node) : Nat := n.units.count u

def tallyAll (u : LexicalUnit) (ns : List Node) : Nat := (ns.map (tally u)).sum

@[simp] theorem tallyAll_nil (u : LexicalUnit) : tallyAll u [] = 0 := rfl

@[simp] theorem tallyAll_cons (u : LexicalUnit) (n : Node) (ns : List Node) :
    tallyAll u (n :: ns) = tally u n + tallyAll u ns := by simp [tallyAll]

@[simp] theorem tallyAll_append (u : LexicalUnit) (ns ms : List Node) :
    tallyAll u (ns ++ ms) = tallyAll u ns + tallyAll u ms := by simp [tallyAll]

theorem preorderAll_eq_flatMap (ns : List Node) : preorderAll ns = ns.flatMap preorder := by
  induction ns with
  | nil => rfl
  | cons n ns ih => simp [preorderAll, ih]

theorem preorderOption_eq_flatMap (o : Option Node) : preorderOption o = o.toList.flatMap preorder := by
  cases o <;> simp [preorderOption]

/-- The units of a tree are that of its root and those of what hangs on each of its parts. -/
theorem units_eq (n : Node) :
    n.units = n.unit?.toList ++ (n.start.flatMap units ++ n.key.toList.flatMap units ++
      n.separator.flatMap units ++ n.value.toList.flatMap units ++ n.items.flatMap units ++ n.stop.flatMap units) := by
  have h : units = fun n => n.preorder.filterMap unit? := rfl
  obtain ⟨kind, offset, source, resolved, indentless, start, key, separator, value, items, stop⟩ := n
  simp only [h]
  rw [preorder, List.filterMap_cons]
  simp only [preorderAll_eq_flatMap, preorderOption_eq_flatMap, List.filterMap_append, List.filterMap_flatMap]
  split
  · next h => rw [h]; rfl
  · next b h => rw [h]; rfl

theorem count_flatMap_units (u : LexicalUnit) (ns : List Node) : (ns.flatMap units).count u = tallyAll u ns := by
  induction ns with
  | nil => rfl
  | cons n ns ih =>
    rw [List.flatMap_cons, List.count_append, ih, tallyAll_cons]
    rfl

theorem tally_eq (u : LexicalUnit) (n : Node) :
    n.tally u = n.unit?.toList.count u + (tallyAll u n.start + tallyAll u n.key.toList +
      tallyAll u n.separator + tallyAll u n.value.toList + tallyAll u n.items + tallyAll u n.stop) := by
  rw [tally, units_eq]
  simp only [List.count_append, count_flatMap_units]

/-- The nodes that a part of a node holds. -/
def part (n : Node) : Part → List Node
  | .start => n.start
  | .key => n.key.toList
  | .separator => n.separator
  | .value => n.value.toList
  | .items => n.items
  | .stop => n.stop

end Node

namespace Tree

/-! ## Tokens -/

/-- The kind of the node that stands for a token; none if no node does. -/
def nodeKind? (t : Yaml.Token) : Option NodeKind :=
  match t.kind with
  | .streamStart | .streamEnd | .blockEnd => none
  | .blockMappingStart => some .blockMap
  | .blockSequenceStart => some .blockSequence
  | .directive _ => some .directive
  | .documentStart => some .documentStart
  | .documentEnd => some .documentEnd
  | .flowSequenceStart => some .flowSequenceStart
  | .flowSequenceEnd => some .flowSequenceEnd
  | .flowMappingStart => some .flowMapStart
  | .flowMappingEnd => some .flowMapEnd
  | .key => some (if t.start.offset < t.stop.offset then .explicitKey else .implicitKey)
  | .value => some .valueIndicator
  | .blockEntry => some .entryIndicator
  | .flowEntry => some .comma
  | .alias _ => some .alias
  | .anchor _ => some .anchor
  | .tag _ => some .tag
  | .scalar _ .plain => some .plainScalar
  | .scalar _ .single => some .singleQuotedScalar
  | .scalar _ .double => some .doubleQuotedScalar
  | .scalar _ .literal | .scalar _ .folded => some .blockScalar

/-- The value of a scalar, an anchor or an alias. -/
def valueOf? : Yaml.TokenKind → Option String
  | .scalar value _ => some value
  | .anchor name | .alias name => some name
  | _ => none

/-- Whether a token starts a block collection: its node has no characters of its own. -/
def startsBlock : Yaml.TokenKind → Bool
  | .blockMappingStart | .blockSequenceStart => true
  | _ => false

/-- The lexical unit of a token that starts at `offset` and stands for `source`. -/
def unitOf? (t : Yaml.Token) (offset : Nat) (source : String) : Option LexicalUnit :=
  (nodeKind? t).map fun kind =>
    ⟨kind, offset, if startsBlock t.kind then "" else source, valueOf? t.kind⟩

/-- Every token is a lexical unit of the tree, but for the ends of the stream and of blocks. -/
theorem unitOf?_eq_none_iff {t : Yaml.Token} {offset : Nat} {source : String} :
    unitOf? t offset source = none ↔ t.kind = .streamStart ∨ t.kind = .streamEnd ∨ t.kind = .blockEnd := by
  simp only [unitOf?, Option.map_eq_none_iff]
  unfold nodeKind?
  split <;> simp_all

/-- The leaf for a lexical unit. -/
def LexicalUnit.leaf (u : LexicalUnit) : Node :=
  { kind := u.kind, offset := u.offset, source := u.source, resolved := u.resolved }

theorem units_leaf {u : LexicalUnit} (h : u.kind.isLeaf = true) : u.leaf.units = [u] := by
  obtain ⟨kind, offset, source, resolved⟩ := u
  rw [Node.units_eq]
  cases kind <;> simp_all [LexicalUnit.leaf, Node.unit?, NodeKind.isLeaf]

/-- A token that starts no block collection becomes the leaf for its lexical unit. -/
theorem leaf?_eq_map {t : Yaml.Token} (h : startsBlock t.kind = false) (offset : Nat) (source : String) :
    Builder.leaf? t offset source = (unitOf? t offset source).map LexicalUnit.leaf := by
  unfold Builder.leaf? unitOf? nodeKind?
  split <;> simp_all [startsBlock, valueOf?, LexicalUnit.leaf]

theorem isLeaf_of_unitOf? {t : Yaml.Token} (h : startsBlock t.kind = false) {offset : Nat} {source : String}
    {u : LexicalUnit} (hu : unitOf? t offset source = some u) : u.kind.isLeaf = true := by
  obtain ⟨kind, hk, rfl⟩ := Option.map_eq_some_iff.1 hu
  unfold nodeKind? at hk
  split at hk
  case h_13 => obtain rfl := Option.some.inj hk; simp only; split <;> rfl
  all_goals simp_all [startsBlock]
  all_goals subst hk; rfl

end Tree

end YamlStyle
