import YamlStyle.Lexeme.OffSide
import YamlStyle.Proofs.Lexeme.Balance
import YamlStyle.Proofs.Text.LineFeeds

/-!
# Lexemes are in the order of the text

The pieces of a tree are sorted, whatever order its nodes have, and block ends stand where the
next piece starts.
-/

namespace YamlStyle

/-! ## Pieces -/

theorem Piece.distinct_sublist (seen ps : List Piece) : (distinct seen ps).Sublist ps := by
  induction ps generalizing seen with
  | nil => exact .slnil
  | cons p ps ih =>
    rw [distinct]
    split
    · exact (ih _).cons _
    · exact (ih _).cons_cons _

theorem Piece.isBefore_iff {p q : Piece} :
    p.isBefore q = true ↔ p.start < q.start ∨ p.start = q.start ∧ p.rank ≤ q.rank := by
  simp [isBefore]

theorem Piece.isBefore_trans (p q r : Piece) (h : p.isBefore q = true) (h' : q.isBefore r = true) :
    p.isBefore r = true := by
  rw [isBefore_iff] at *
  omega

theorem Piece.isBefore_total (p q : Piece) : (p.isBefore q || q.isBefore p) = true := by
  rw [Bool.or_eq_true, isBefore_iff, isBefore_iff]
  omega

theorem Node.pieces_sorted (root : Node) : root.pieces.Pairwise (fun p q => p.isBefore q = true) :=
  (List.pairwise_mergeSort Piece.isBefore_trans Piece.isBefore_total _).sublist (Piece.distinct_sublist _ _)

theorem Node.starts_sorted (root : Node) : root.pieces.Pairwise fun p q => p.start ≤ q.start := by
  refine (Node.pieces_sorted root).imp fun h => ?_
  rw [Piece.isBefore_iff] at h
  omega

theorem Node.start_le_stop_of_piece? {n : Node} {p : Piece} (h : n.piece? = some p) : p.start ≤ p.stop := by
  unfold Node.piece? at h
  split at h <;> try split at h
  all_goals simp only [Option.some.injEq, reduceCtorEq] at h
  all_goals subst h; simp

theorem Node.start_le_stop_of_mem_pieces {root : Node} {p : Piece} (h : p ∈ root.pieces) : p.start ≤ p.stop := by
  obtain ⟨n, -, hn⟩ := List.mem_filterMap.1 (mem_of_mem_pieces h)
  exact Node.start_le_stop_of_piece? hn

/-! ## Lexemes -/

/-- A lexeme between two marks of a text, the first not after the second. -/
structure Lexeme.Marked (t : Text) (x : Lexeme) : Prop where
  start : x.start = (LineIndex.ofText t).mark x.start.offset
  stop : x.stop = (LineIndex.ofText t).mark x.stop.offset
  ordered : x.start.offset ≤ x.stop.offset

theorem Lexeme.Marked.line_start_le {t : Text} {x : Lexeme} (h : x.Marked t) : x.start.line ≤ x.stop.line := by
  rw [h.start, h.stop]
  exact LineIndex.line_mark_mono t h.ordered

namespace OffSide

variable {t : Text}

theorem marked_lexeme {p : Piece} (h : p.start ≤ p.stop) : (lexeme (.ofText t) p).Marked t := ⟨rfl, rfl, h⟩

/-- A lexeme of a run starts where a piece does, or at the end. -/
theorem start_of_mem_run {ix : LineIndex} {size : Nat} {s : State} {ps : List Piece} {x : Lexeme}
    (hx : x ∈ run ix size s ps) : x.start = ix.mark size ∨ ∃ p ∈ ps, x.start = ix.mark p.start := by
  rcases mem_run hx with ⟨p, hp, rfl⟩ | ⟨_, rfl | ⟨p, hp, rfl⟩, rfl⟩
  · exact .inr ⟨p, hp, rfl⟩
  · exact .inl rfl
  · exact .inr ⟨p, hp, rfl⟩

theorem marked_of_mem_run {size : Nat} {s : State} {ps : List Piece} {x : Lexeme}
    (h : ∀ p ∈ ps, p.start ≤ p.stop) (hx : x ∈ run (.ofText t) size s ps) : x.Marked t := by
  rcases mem_run hx with ⟨p, hp, rfl⟩ | ⟨_, -, rfl⟩
  · exact marked_lexeme (h p hp)
  · exact marked_lexeme (Nat.le_refl _)

/-- Where the lexemes of a run start, they are ordered as its pieces and the end are. -/
theorem run_pairwise {ix : LineIndex} {size : Nat} {s : State} {ps : List Piece} {R : Mark → Mark → Prop}
    (hrefl : ∀ m, R m m) (h : ps.Pairwise fun p q => R (ix.mark p.start) (ix.mark q.start))
    (hsize : ∀ p ∈ ps, R (ix.mark p.start) (ix.mark size)) :
    (run ix size s ps).Pairwise fun x y => R x.start y.start := by
  induction ps generalizing s with
  | nil => exact List.pairwise_replicate.2 (.inr (hrefl _))
  | cons p ps ih =>
    obtain ⟨hp, hps⟩ := List.forall_mem_cons.1 hsize
    have hhead : ∀ x ∈ (step ix s p).1, x.start = ix.mark p.start := by
      intro x hx
      rcases List.mem_append.1 hx with hx | hx
      · rw [List.eq_of_mem_replicate hx]; rfl
      · rw [List.mem_singleton.1 hx]; rfl
    refine List.pairwise_append.2 ⟨List.pairwise_of_forall_mem_list ?_, ih h.of_cons hps, ?_⟩
    · intro x hx y hy
      rw [hhead x hx, hhead y hy]
      exact hrefl _
    · intro x hx y hy
      rw [hhead x hx]
      rcases start_of_mem_run hy with hy | ⟨q, hq, hy⟩
      · rw [hy]
        exact hp
      · rw [hy]
        exact List.rel_of_pairwise_cons h hq

/-- The lines on which the lexemes of a run start never go back. -/
theorem run_sorted {s : State} {ps : List Piece} (h : ps.Pairwise fun p q => p.start ≤ q.start) :
    (run (.ofText t) t.length s ps).Pairwise fun x y => x.start.line ≤ y.start.line := by
  refine run_pairwise (R := fun a b => a.line ≤ b.line) (fun _ => Nat.le_refl _)
    (h.imp fun h => LineIndex.line_mark_mono t h) fun p _ => ?_
  rw [LineIndex.line_mark_length]
  exact LineIndex.line_mark_le _ _

end OffSide

namespace Lexeme

/-- A text has lexemes just where it has a tree, of which they are. -/
theorem outcome_ofText_eq_ok {t : Text} {xs : List Lexeme} :
    (ofText t).outcome = .ok xs ↔ ∃ root, (Tree.build t).root = .ok root ∧ ofTree t root = xs := by
  show (Tree.build t).root.map (ofTree t) = .ok xs ↔ _
  cases (Tree.build t).root <;> simp [Except.map]

theorem outcome_ofText_eq_error {t : Text} {f : Yaml.Failure} :
    (ofText t).outcome = .error f ↔ (Tree.build t).root = .error f := by
  show (Tree.build t).root.map (ofTree t) = .error f ↔ _
  cases (Tree.build t).root <;> simp [Except.map]

theorem marked_of_mem_ofTree {t : Text} {root : Node} {x : Lexeme} (hx : x ∈ ofTree t root) : x.Marked t := by
  rcases List.mem_cons.1 hx with rfl | hx
  · exact OffSide.marked_lexeme (Nat.le_refl _)
  · rcases List.mem_append.1 hx with hx | hx
    · exact OffSide.marked_of_mem_run (fun p hp => Node.start_le_stop_of_mem_pieces hp) hx
    · rw [List.mem_singleton.1 hx]; exact OffSide.marked_lexeme (Nat.le_refl _)

/-- The lines on which the lexemes of a tree start never go back. -/
theorem ofTree_sorted (t : Text) (root : Node) :
    (ofTree t root).Pairwise fun x y => x.start.line ≤ y.start.line := by
  refine List.pairwise_cons.2 ⟨fun x _ => ?_, List.pairwise_append.2 ⟨OffSide.run_sorted root.starts_sorted, by simp, ?_⟩⟩
  · simp [OffSide.lexeme, LineIndex.line_mark]
  · intro x hx y hy
    have hm := (OffSide.marked_of_mem_run (fun p hp => Node.start_le_stop_of_mem_pieces hp) hx).start
    rw [List.mem_singleton.1 hy, hm]
    simp only [OffSide.lexeme, LineIndex.line_mark_length]
    exact LineIndex.line_mark_le _ _

end Lexeme

end YamlStyle
