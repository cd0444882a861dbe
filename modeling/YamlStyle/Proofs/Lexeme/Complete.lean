import YamlStyle.Proofs.Lexeme.Ordered

/-!
# The lexemes of a tree are complete and in order

Without the ends of blocks and of the stream, the lexemes of any tree are its pieces. Of the pieces that its
nodes show, the first in depth-first order with each kind and offset is among them, and no other, whatever
order the offsets have (`ofTree_complete`).
-/

namespace YamlStyle

/-! ## Pieces of one kind at one offset -/

namespace Piece

variable {p q r : Piece} {ps seen : List Piece}

theorem isSame_iff : p.isSame q = true ↔ p.kind = q.kind ∧ p.start = q.start := by
  simp [isSame]

theorem isSame_refl (p : Piece) : p.isSame p = true := isSame_iff.2 ⟨rfl, rfl⟩

theorem isSame_comm (p q : Piece) : p.isSame q = q.isSame p := by
  rw [isSame, isSame, Bool.beq_comm, Bool.beq_comm (a := p.start)]

theorem isSame_congr (h : p.isSame q = true) (r : Piece) : p.isSame r = q.isSame r := by
  rw [isSame, isSame, (isSame_iff.1 h).1, (isSame_iff.1 h).2]

/-- The same pieces may stand in either order. -/
theorem isBefore_of_isSame (h : p.isSame q = true) : p.isBefore q = true := by
  rw [isSame_iff] at h
  rw [isBefore_iff, rank, rank, h.1, h.2]
  exact .inr ⟨rfl, Nat.le_refl _⟩

/-- Of the pieces that are the same, the first one stays, unless one has been seen before. -/
theorem mem_distinct_iff : p ∈ distinct seen ps ↔ seen.any p.isSame = false ∧ ps.find? (·.isSame p) = some p := by
  induction ps generalizing seen with
  | nil => simp [distinct]
  | cons q ps ih =>
    rw [distinct, List.find?_cons]
    cases hsame : q.isSame p with
    | true =>
      have heq : q.isSame = p.isSame := funext fun r => isSame_congr hsame r
      rw [heq]
      cases hseen : seen.any p.isSame with
      | true => simp [ih, hseen]
      | false => simp [ih, heq ▸ isSame_refl q, eq_comm]
    | false =>
      have hne : p ≠ q := by
        rintro rfl
        rw [isSame_refl] at hsame
        cases hsame
      split
      · exact ih
      · rw [List.mem_cons, or_iff_right hne, ih, List.any_cons, isSame_comm p q, hsame, Bool.false_or]

/-- The pieces that stay differ in kind or offset. -/
theorem distinct_pairwise (seen ps : List Piece) : (distinct seen ps).Pairwise fun p q => p.isSame q = false := by
  induction ps generalizing seen with
  | nil => exact .nil
  | cons p ps ih =>
    rw [distinct]
    split
    · exact ih seen
    · refine .cons (fun q hq => ?_) (ih _)
      have hseen := (mem_distinct_iff.1 hq).1
      rw [List.any_cons, Bool.or_eq_false_iff] at hseen
      rw [isSame_comm]
      exact hseen.1

/-- Sorting does not change the order of pieces that are the same. -/
theorem find?_mergeSort (ps : List Piece) (p : Piece) :
    (ps.mergeSort isBefore).find? (·.isSame p) = ps.find? (·.isSame p) := by
  have hsame : (ps.filter (·.isSame p)).Pairwise fun q r => q.isBefore r = true := by
    refine List.pairwise_of_forall_mem_list fun q hq r hr => isBefore_of_isSame ?_
    rw [isSame_congr (List.mem_filter.1 hq).2, isSame_comm]
    exact (List.mem_filter.1 hr).2
  have hfilter : ps.filter (·.isSame p) = (ps.mergeSort isBefore).filter (·.isSame p) := by
    have hsub := (List.sublist_mergeSort isBefore_trans isBefore_total hsame List.filter_sublist).filter (·.isSame p)
    rw [List.filter_filter] at hsub
    simp only [Bool.and_self] at hsub
    exact hsub.eq_of_length ((List.mergeSort_perm ps isBefore).symm.filter _).length_eq
  rw [← List.head?_filter, ← List.head?_filter, hfilter]

end Piece

/-- A piece of a tree is the first with its kind and offset that the nodes show, in depth-first order. -/
theorem Node.mem_pieces_iff {root : Node} {p : Piece} :
    p ∈ root.pieces ↔ (root.preorder.filterMap piece?).find? (·.isSame p) = some p := by
  rw [Node.pieces, Piece.mem_distinct_iff, Piece.find?_mergeSort]
  simp

theorem Node.start_of_piece? {n : Node} {p : Piece} (h : n.piece? = some p) : p.start = n.offset := by
  unfold Node.piece? at h
  split at h <;> try split at h
  all_goals simp only [Option.some.injEq, reduceCtorEq] at h
  all_goals subst h; rfl

/-! ## Lexemes -/

/-- Whether a kind is that of a piece, and not that of an end of a block or of the stream. -/
def LexemeKind.isShown : LexemeKind → Bool
  | streamStart | streamEnd | blockEnd => false
  | _ => true

theorem Node.isShown_of_mem_pieces {root : Node} {p : Piece} (h : p ∈ root.pieces) : p.kind.isShown = true := by
  obtain ⟨hend, hfirst, hlast⟩ := Node.kind_of_mem_pieces h
  unfold LexemeKind.isShown
  split <;> simp_all

namespace OffSide

variable {ix : LineIndex} {size : Nat} {s : State} {ps : List Piece}

theorem filter_blockEnds (ix : LineIndex) (n offset : Nat) : (blockEnds ix n offset).filter (·.kind.isShown) = [] := by
  refine List.filter_eq_nil_iff.2 fun x hx => ?_
  rw [List.eq_of_mem_replicate hx]
  simp [lexeme, LexemeKind.isShown]

theorem filter_run (h : ∀ p ∈ ps, p.kind.isShown = true) :
    (run ix size s ps).filter (·.kind.isShown) = ps.map (lexeme ix) := by
  induction ps generalizing s with
  | nil => exact filter_blockEnds ix _ _
  | cons p ps ih =>
    obtain ⟨hp, hps⟩ := List.forall_mem_cons.1 h
    have hlexeme : [lexeme ix p].filter (·.kind.isShown) = [lexeme ix p] := List.filter_cons_of_pos hp
    rw [run, step]
    dsimp only
    rw [List.filter_append, List.filter_append, filter_blockEnds, hlexeme, ih hps]
    rfl

end OffSide

namespace Lexeme

theorem filter_ofTree (t : Text) (root : Node) :
    (ofTree t root).filter (·.kind.isShown) = root.pieces.map (OffSide.lexeme (.ofText t)) := by
  have hrun : (OffSide.run (.ofText t) t.length .start root.pieces).filter (·.kind.isShown) =
      root.pieces.map (OffSide.lexeme (.ofText t)) := OffSide.filter_run fun _ => Node.isShown_of_mem_pieces
  rw [ofTree, List.filter_cons_of_neg (by simp [OffSide.lexeme, LexemeKind.isShown]), List.filter_append, hrun]
  simp [OffSide.lexeme, LexemeKind.isShown]

/-- The offsets of lexemes never go back if the pieces start in the text. -/
theorem offset_ofTree_sorted {t : Text} {root : Node} (hsize : ∀ p ∈ root.pieces, p.start ≤ t.length) :
    (ofTree t root).Pairwise fun x y => x.start.offset ≤ y.start.offset := by
  have hrun : (OffSide.run (.ofText t) t.length .start root.pieces).Pairwise fun x y => x.start.offset ≤ y.start.offset :=
    OffSide.run_pairwise (R := fun a b => a.offset ≤ b.offset) (fun _ => Nat.le_refl _) root.starts_sorted hsize
  refine .cons (fun x _ => Nat.zero_le _) (List.pairwise_append.2 ⟨hrun, List.pairwise_singleton _ _, ?_⟩)
  intro x hx y hy
  rw [List.mem_singleton.1 hy]
  rcases OffSide.start_of_mem_run hx with hx | ⟨p, hp, hx⟩
  · rw [hx]
    exact Nat.le_refl _
  · rw [hx]
    exact hsize p hp

/-- The offsets of the lexemes of a tree that is in a text never go back. -/
theorem ofTree_ordered {t : Text} {root : Node} (h : ∀ n ∈ root.preorder, n.piece?.isSome → n.offset ≤ t.length) :
    (ofTree t root).Pairwise fun x y => x.start.offset ≤ y.start.offset := by
  refine offset_ofTree_sorted fun p hp => ?_
  obtain ⟨n, hn, hpiece⟩ := List.mem_filterMap.1 (Node.mem_of_mem_pieces hp)
  rw [Node.start_of_piece? hpiece]
  exact h n hn (by rw [hpiece]; rfl)

/-- Take the lexemes of any tree for any text. Without the ends of blocks and of the stream they are the pieces
of the tree. A piece is the first with its kind and offset that the nodes show, in depth-first order; no two
pieces have the same kind and offset; and pieces are sorted by offset, the start of a block before a key and
a key before all else. If the nodes that show pieces are in the text, no lexeme starts before the one it
follows. -/
theorem ofTree_complete (t : Text) (root : Node) :
    (ofTree t root).filter (·.kind.isShown) = root.pieces.map (OffSide.lexeme (.ofText t)) ∧
      (∀ p, p ∈ root.pieces ↔ (root.preorder.filterMap Node.piece?).find? (·.isSame p) = some p) ∧
      root.pieces.Pairwise (fun p q => p.isSame q = false ∧ p.isBefore q = true) ∧
      ((∀ n ∈ root.preorder, n.piece?.isSome → n.offset ≤ t.length) →
        (ofTree t root).Pairwise fun x y => x.start.offset ≤ y.start.offset) := by
  refine ⟨filter_ofTree t root, fun _ => Node.mem_pieces_iff, ?_, ofTree_ordered⟩
  exact (Piece.distinct_pairwise [] _).and root.pieces_sorted

/-- A tree whose nodes are not in the order of the text, with two scalars at one offset. -/
def shuffled : Node :=
  { kind := .stream
    offset := 0
    items := [{ kind := .plainScalar, offset := 3, source := "b", resolved := some "b" },
      { kind := .plainScalar, offset := 0, source := "a", resolved := some "a" },
      { kind := .blockMap, offset := 0, start := [{ kind := .implicitKey, offset := 0 }] },
      { kind := .plainScalar, offset := 3, source := "c", resolved := some "c" },
      { kind := .valueIndicator, offset := 1, source := ":" }] }

theorem ofTree_complete_shuffled :
    let t : Text := "a: b".toList
    (∀ n ∈ shuffled.preorder, n.piece?.isSome → n.offset ≤ t.length) ∧
      (ofTree t shuffled).Pairwise (fun x y => x.start.offset ≤ y.start.offset) ∧
      (ofTree t shuffled).map (fun x => (x.kind, x.start.offset, x.value)) =
        [(.streamStart, 0, none), (.blockMappingStart, 0, none), (.key, 0, none), (.scalar, 0, some "a"),
          (.value, 1, none), (.scalar, 3, some "b"), (.blockEnd, 4, none), (.streamEnd, 4, none)] := by
  intro t
  have h : ∀ n ∈ shuffled.preorder, n.piece?.isSome → n.offset ≤ t.length := by
    decide
  exact ⟨h, (ofTree_complete t shuffled).2.2.2 h, by cbv⟩

end Lexeme

end YamlStyle
