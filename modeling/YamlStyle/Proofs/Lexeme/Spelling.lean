import YamlStyle.Proofs.Lexeme.Shown
import YamlStyle.Proofs.Yaml.TokenHazards

/-!
# How lexemes are written

A directive that a text shows is written as directives are, even if reading had to be resumed before it. What
tokens make sure of about line feeds in names and at the end of plain scalars, lexemes make sure of too.
-/

namespace YamlStyle

open Yaml.Lex (IsDirective)

variable {t : Text}

namespace Tree

theorem slice_add (t : Text) (base a b : Nat) : t.slice (base + a) (base + b) = Text.slice (t.drop base) a b := by
  rw [Text.slice, Text.slice, List.drop_drop, Nat.add_sub_add_left]

/-- Only a directive has a node of that kind. -/
theorem kind_eq_directive {x : Yaml.Token} (h : nodeKind? x = some .directive) : ∃ d, x.kind = .directive d := by
  unfold nodeKind? at h
  split at h <;> first | exact ⟨_, ‹_›⟩ | cases h | (split at h <;> cases h)

/-- A node for a directive has the characters of one. -/
theorem isDirective_of_build {root : Node} (h : (build t).root = .ok root) {u : LexicalUnit} (hu : u ∈ root.units)
    (hk : u.kind = .directive) : IsDirective u.source.toList := by
  obtain ⟨⟨base, x⟩ | _, hof, hunit⟩ := unit?_of_build h hu
  · obtain ⟨r, hr, rfl⟩ := hof
    obtain ⟨kind, hkind, rfl⟩ := Option.map_eq_some_iff.1 hunit
    obtain rfl : kind = .directive := hk
    obtain ⟨d, hd⟩ := kind_eq_directive hkind
    have hspelled := ((Yaml.traces_ofText (t.drop base)).tokens r hr |>.of_directive hd).2
    rw [hd]
    simpa only [startsBlock, Bool.false_eq_true, if_false, String.toList_ofList, slice_add] using hspelled
  · cases hunit

end Tree

/-- Only a node for a directive shows one. -/
theorem Node.directive_of_piece? {n : Node} {p : Piece} (h : n.piece? = some p) (hk : p.kind = .directive) :
    n.kind = .directive ∧ p.value = some n.source := by
  unfold Node.piece? at h
  split at h <;> try split at h
  all_goals cases h
  all_goals first | exact ⟨‹_›, rfl⟩ | cases hk

/-- The characters of a directive among the lexemes of a text. -/
theorem Lexeme.isDirective_of_ofText {xs : List Lexeme} (h : (ofText t).outcome = .ok xs) {x : Lexeme} (hx : x ∈ xs)
    (hk : x.kind = .directive) : ∃ value, x.value = some value ∧ IsDirective value.toList := by
  obtain ⟨root, hroot, rfl⟩ := outcome_ofText_eq_ok.1 h
  rcases List.mem_cons.1 hx with rfl | hx
  · cases hk
  · rcases List.mem_append.1 hx with hx | hx
    · rcases OffSide.mem_run hx with ⟨p, hp, rfl⟩ | ⟨_, -, rfl⟩
      · have hp := Node.mem_of_mem_pieces hp
        rw [Tree.filterMap_piece?] at hp
        obtain ⟨u, hu, hp⟩ := List.mem_filterMap.1 hp
        obtain ⟨hkind, hvalue⟩ := Node.directive_of_piece? hp hk
        exact ⟨_, hvalue, Tree.isDirective_of_build hroot hu hkind⟩
      · cases hk
    · rw [List.mem_singleton.1 hx] at hk
      cases hk

/-! ## Line feeds -/

/-- No line feed is in the name of an anchor or of an alias, and none ends a plain scalar. -/
structure Lexeme.IsLegible (x : Lexeme) : Prop where
  name : x.kind = .anchor ∨ x.kind = .alias → ∀ name ∈ x.value, Unbroken name
  plain : x.style = some .plain → ∀ value ∈ x.value, value.toList.getLast? ≠ some '\n'

namespace Tree

/-- The same of what a node stands for. -/
structure LexicalUnit.IsLegible (u : LexicalUnit) : Prop where
  name : u.kind = .anchor ∨ u.kind = .alias → ∀ name ∈ u.resolved, Unbroken name
  plain : u.kind = .plainScalar → ∀ value ∈ u.resolved, value.toList.getLast? ≠ some '\n'

theorem isLegible_of_unitOf? {x : Yaml.Token} (hx : x.kind.IsLegible) {offset : Nat} {source : String} {u : LexicalUnit}
    (h : unitOf? x offset source = some u) : u.IsLegible := by
  obtain ⟨kind, start, stop⟩ := x
  cases kind with
  | streamStart | streamEnd | blockEnd => cases h
  | anchor name | «alias» name =>
    cases h
    exact ⟨fun _ _ hname => Option.some.inj hname ▸ hx, fun hplain => by cases hplain⟩
  | scalar value style =>
    cases style with
    | plain =>
      cases h
      exact ⟨fun hname => by simp at hname, fun _ _ hvalue => Option.some.inj hvalue ▸ hx⟩
    | _ =>
      cases h
      exact ⟨fun hname => by simp at hname, fun hplain => by cases hplain⟩
  | _ =>
    cases h
    exact ⟨fun _ _ hname => (by cases hname), fun _ _ hvalue => (by cases hvalue)⟩

theorem isLegible_of_build {root : Node} (h : (build t).root = .ok root) {u : LexicalUnit} (hu : u ∈ root.units) :
    u.IsLegible := by
  obtain ⟨⟨base, x⟩ | _, hof, hunit⟩ := unit?_of_build h hu
  · obtain ⟨r, hr, rfl⟩ := hof
    exact isLegible_of_unitOf? ((Yaml.traces_ofText (t.drop base)).tokens r hr).legible hunit
  · cases hunit

end Tree

/-- Lexemes have the names and the values of nodes. -/
theorem Tree.LexicalUnit.IsLegible.lexeme {u : Tree.LexicalUnit} (hu : u.IsLegible) {p : Piece}
    (h : u.leaf.piece? = some p) (ix : LineIndex) : (OffSide.lexeme ix p).IsLegible := by
  obtain ⟨kind, offset, source, resolved⟩ := u
  cases kind with
  | anchor | «alias» =>
    cases h
    exact ⟨fun _ => hu.name (by simp), fun hplain => by cases hplain⟩
  | plainScalar =>
    cases h
    exact ⟨fun hname => by simp [OffSide.lexeme] at hname, fun _ => hu.plain rfl⟩
  | stream | document | flowCollection | item | other => cases h
  | _ =>
    cases h
    exact ⟨fun hname => by simp [OffSide.lexeme] at hname, fun hplain => by cases hplain⟩

theorem Lexeme.isLegible_of_ofText {xs : List Lexeme} (h : (ofText t).outcome = .ok xs) {x : Lexeme} (hx : x ∈ xs) :
    x.IsLegible := by
  have hnone : ∀ (kind : LexemeKind) (start stop : Mark), IsLegible ⟨kind, start, stop, none, none⟩ := fun _ _ _ =>
    ⟨fun _ _ hname => (by cases hname), fun _ _ hvalue => (by cases hvalue)⟩
  obtain ⟨root, hroot, rfl⟩ := outcome_ofText_eq_ok.1 h
  rcases List.mem_cons.1 hx with rfl | hx
  · exact hnone _ _ _
  · rcases List.mem_append.1 hx with hx | hx
    · rcases OffSide.mem_run hx with ⟨p, hp, rfl⟩ | ⟨_, -, rfl⟩
      · have hp := Node.mem_of_mem_pieces hp
        rw [Tree.filterMap_piece?] at hp
        obtain ⟨u, hu, hp⟩ := List.mem_filterMap.1 hp
        exact (Tree.isLegible_of_build hroot hu).lexeme hp _
      · exact hnone _ _ _
    · rw [List.mem_singleton.1 hx]
      exact hnone _ _ _

end YamlStyle
