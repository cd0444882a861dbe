import YamlStyle.Proofs.Lexeme.Complete
import YamlStyle.Proofs.Lexeme.Spelling
import YamlStyle.Proofs.Yaml.Extents

/-!
# What lexemes take up

A lexeme of a text stands between two marks within it, even if reading had to be resumed before it.
Punctuation stays on its line, and a plain scalar does so unless there is a gap between its words
(`isIn_of_ofText`).
-/

namespace YamlStyle

open Yaml (HasGap Token TokenKind TokenStream)

variable {t : Text}

def LexemeKind.isPunctuation : LexemeKind → Bool
  | flowMappingStart | flowMappingEnd | flowSequenceStart | flowSequenceEnd
  | key | value | blockEntry | flowEntry => true
  | _ => false

/-- A piece within a text. -/
structure Piece.IsIn (t : Text) (p : Piece) : Prop where
  ordered : p.start ≤ p.stop
  bound : p.stop ≤ t.length
  punctuation : p.kind.isPunctuation = true → '\n' ∉ t.slice p.start p.stop
  plain : p.style = some .plain → ∀ value, p.value = some value →
    '\n' ∉ t.slice p.start p.stop ∨ HasGap value.toList

theorem Piece.isIn_of_unbroken {p : Piece} (hordered : p.start ≤ p.stop) (hbound : p.stop ≤ t.length)
    (h : '\n' ∉ t.slice p.start p.stop) : p.IsIn t :=
  ⟨hordered, hbound, fun _ => h, fun _ _ _ => .inl h⟩

/-- A piece that may go on over lines. -/
theorem Piece.isIn_of_free {p : Piece} (hordered : p.start ≤ p.stop) (hbound : p.stop ≤ t.length)
    (hkind : p.kind.isPunctuation = false) (hstyle : p.style ≠ some .plain) : p.IsIn t :=
  ⟨hordered, hbound, fun h => absurd (hkind.symm.trans h) Bool.false_ne_true, fun h => absurd h hstyle⟩

/-- A lexeme within a text. -/
structure Lexeme.IsIn (t : Text) (x : Lexeme) : Prop extends x.Marked t where
  bound : x.stop.offset ≤ t.length
  punctuation : x.kind.isPunctuation = true → x.stop.line = x.start.line
  plain : x.style = some .plain → ∀ value, x.value = some value → x.stop.line = x.start.line ∨ HasGap value.toList

namespace Tree

/-- A token shows what it stands for. -/
theorem isIn_of_unitOf? {x : Token} {o : Nat} {source : Text} (ho : o ≤ t.length) (hsource : source <+: t.drop o)
    (hx : x.kind.Takes source) {u : LexicalUnit} (hu : unitOf? x o (String.ofList source) = some u) {p : Piece}
    (hp : u.leaf.piece? = some p) : p.IsIn t := by
  have hslice : t.slice o (o + (String.ofList source).length) = source := by
    rw [Text.slice, Nat.add_sub_cancel_left, String.length_ofList]
    exact (List.prefix_iff_eq_take.1 hsource).symm
  have hbound : o + (String.ofList source).length ≤ t.length := by
    have := hsource.length_le
    rw [List.length_drop] at this
    rw [String.length_ofList]
    omega
  rw [← hslice] at hx
  have hle := Nat.le_add_right o (String.ofList source).length
  obtain ⟨kind, start, stop⟩ := x
  cases kind with
  | key =>
    simp only [unitOf?, nodeKind?, Option.map_some, Option.some.injEq] at hu
    subst hu
    split at hp <;> cases hp <;> exact Piece.isIn_of_unbroken hle hbound hx
  | value | blockEntry | flowEntry | flowSequenceStart | flowSequenceEnd | flowMappingStart | flowMappingEnd =>
    cases hu
    cases hp
    exact Piece.isIn_of_unbroken hle hbound hx
  | blockMappingStart | blockSequenceStart =>
    cases hu
    cases hp
    exact Piece.isIn_of_free (Nat.le_refl o) ho rfl (by simp)
  | scalar value style =>
    cases style with
    | plain =>
      cases hu
      cases hp
      refine ⟨hle, hbound, fun hk => (by cases hk), fun _ _ hv => ?_⟩
      cases hv
      exact hx
    | _ =>
      cases hu
      cases hp
      exact Piece.isIn_of_free hle hbound rfl (by simp)
  | streamStart | streamEnd | blockEnd => cases hu
  | _ =>
    cases hu
    cases hp
    exact Piece.isIn_of_free hle hbound rfl (by simp)

/-- A text without characters has only the ends of the stream for tokens. -/
theorem kind_of_mem_ofText_nil {r : Yaml.Released} (h : r ∈ (TokenStream.ofText []).tokens) :
    r.token.kind = .streamStart ∨ r.token.kind = .streamEnd := by
  have hkinds : (TokenStream.ofText []).tokens.map (·.token.kind) = [.streamStart, .streamEnd] := by rfl
  have := List.mem_map_of_mem (f := (·.token.kind)) h
  rw [hkinds] at this
  simpa using this

theorem isIn_of_mem_pieces {root : Node} (h : (build t).root = .ok root) {p : Piece} (hp : p ∈ root.pieces) :
    p.IsIn t := by
  have hp := Node.mem_of_mem_pieces hp
  rw [filterMap_piece?] at hp
  obtain ⟨u, hu, hp⟩ := List.mem_filterMap.1 hp
  obtain ⟨⟨base, x⟩ | _, hof, hunit⟩ := unit?_of_build h hu
  · obtain ⟨r, hr, rfl⟩ := hof
    -- A scan may have been resumed past the end of the text, where there is nothing to show.
    by_cases hbase : base ≤ t.length
    · have hx := Yaml.isIn_of_mem_ofText hr
      have hstart := hx.bound
      rw [List.length_drop] at hstart
      have htakes := hx.takes
      rw [← slice_add] at htakes
      exact isIn_of_unitOf? (by omega) (List.take_prefix _ _) htakes hunit hp
    · rw [List.drop_of_length_le (by omega)] at hr
      rw [Act.unit?, unitOf?_eq_none_iff.2 ((kind_of_mem_ofText_nil hr).imp_right .inl)] at hunit
      cases hunit
  · cases hunit

end Tree

namespace OffSide

theorem isIn_lexeme {p : Piece} (h : p.IsIn t) : (lexeme (.ofText t) p).IsIn t where
  toMarked := marked_lexeme h.ordered
  bound := h.bound
  punctuation hk := LineIndex.line_mark_eq h.ordered (h.punctuation hk)
  plain hs value hv := (h.plain hs value hv).imp_left fun hn => LineIndex.line_mark_eq h.ordered hn

/-- A lexeme that takes up nothing. -/
theorem isIn_empty {kind : LexemeKind} {o : Nat} (h : o ≤ t.length) :
    (lexeme (.ofText t) { kind, start := o, stop := o }).IsIn t where
  toMarked := marked_lexeme (Nat.le_refl o)
  bound := h
  punctuation _ := rfl
  plain h := by cases h

end OffSide

/-- Every lexeme of a text is within it. -/
theorem Lexeme.isIn_of_ofText {xs : List Lexeme} (h : (ofText t).outcome = .ok xs) {x : Lexeme} (hx : x ∈ xs) :
    x.IsIn t := by
  obtain ⟨root, hroot, rfl⟩ := outcome_ofText_eq_ok.1 h
  rcases List.mem_cons.1 hx with rfl | hx
  · exact OffSide.isIn_empty (Nat.zero_le _)
  · rcases List.mem_append.1 hx with hx | hx
    · rcases OffSide.mem_run hx with ⟨p, hp, rfl⟩ | ⟨_, rfl | ⟨p, hp, rfl⟩, rfl⟩
      · exact OffSide.isIn_lexeme (Tree.isIn_of_mem_pieces hroot hp)
      · exact OffSide.isIn_empty (Nat.le_refl _)
      · have hp := Tree.isIn_of_mem_pieces hroot hp
        exact OffSide.isIn_empty (Nat.le_trans hp.ordered hp.bound)
    · rw [List.mem_singleton.1 hx]
      exact OffSide.isIn_empty (Nat.le_refl _)

/-- The lexemes of a text come in the order of where they start. -/
theorem Lexeme.pairwise_start_of_ofText {xs : List Lexeme} (h : (ofText t).outcome = .ok xs) :
    xs.Pairwise fun x y => x.start.offset ≤ y.start.offset := by
  obtain ⟨root, hroot, rfl⟩ := outcome_ofText_eq_ok.1 h
  refine offset_ofTree_sorted fun p hp => ?_
  have hp := Tree.isIn_of_mem_pieces hroot hp
  exact Nat.le_trans hp.ordered hp.bound

end YamlStyle
