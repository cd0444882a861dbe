import Mathlib
import YamlStyle.Lexeme.OffSide

/-!
# Starts and ends of blocks are balanced

Whatever tree the lexemes are made of, no place has seen more block ends than block starts, and
in the end there are as many of both. The count of what is open is the number of block
collections among the containers: each piece changes it by what it emits (`step_balanced`).
-/

namespace YamlStyle.OffSide

/-- The number of block collections that lexemes start. -/
def starts (xs : List Lexeme) : Nat := xs.countP (·.kind.isBlockStart)

/-- The number of block collections that lexemes end. -/
def ends (xs : List Lexeme) : Nat := xs.countP (·.kind == .blockEnd)

/-- Lexemes that never end more than is open, `d` before them and `d'` after them. -/
structure Balanced (d d' : Nat) (xs : List Lexeme) : Prop where
  sane : ∀ l, l <+: xs → ends l ≤ d + starts l
  settled : ends xs + d' = d + starts xs

/-! ## Counting -/

@[simp] theorem starts_append (xs ys : List Lexeme) : starts (xs ++ ys) = starts xs + starts ys :=
  List.countP_append

@[simp] theorem ends_append (xs ys : List Lexeme) : ends (xs ++ ys) = ends xs + ends ys :=
  List.countP_append

theorem starts_blockEnds (ix : LineIndex) (n offset : Nat) : starts (blockEnds ix n offset) = 0 := by
  simp [starts, blockEnds, lexeme, LexemeKind.isBlockStart]

theorem ends_blockEnds (ix : LineIndex) (n offset : Nat) : ends (blockEnds ix n offset) = n := by
  simp [ends, blockEnds, lexeme, List.countP_replicate]

/-- A prefix of two lists is a prefix of the first, or the first and a prefix of the second. -/
theorem Balanced.append {d d' d'' : Nat} {xs ys : List Lexeme} (hx : Balanced d d' xs)
    (hy : Balanced d' d'' ys) : Balanced d d'' (xs ++ ys) where
  sane l hl := by
    rcases List.prefix_or_prefix_of_prefix hl (List.prefix_append xs ys) with h | ⟨k, rfl⟩
    · exact hx.sane l h
    · have hk := hy.sane k ((List.prefix_append_right_inj xs).1 hl)
      have := hx.settled
      simp only [ends_append, starts_append]
      omega
  settled := by
    have := hx.settled
    have := hy.settled
    simp only [ends_append, starts_append]
    omega

theorem balanced_blockEnds (ix : LineIndex) (n d offset : Nat) :
    Balanced (n + d) d (blockEnds ix n offset) where
  sane l hl := by
    have := hl.sublist.countP_le (p := (·.kind == .blockEnd))
    have hn := ends_blockEnds ix n offset
    simp only [ends] at hn ⊢
    omega
  settled := by rw [ends_blockEnds, starts_blockEnds]; omega

/-- One lexeme that ends no block. -/
theorem balanced_singleton {x : Lexeme} (h : x.kind ≠ .blockEnd) (d : Nat) :
    Balanced d (d + starts [x]) [x] := by
  have hx : ends [x] = 0 := by simp [ends, h]
  refine ⟨fun l hl => ?_, by omega⟩
  have : ends l ≤ ends [x] := hl.sublist.countP_le
  omega

/-! ## One piece -/

theorem blockCount_append (cs cs' : List Container) :
    blockCount (cs ++ cs') = blockCount cs + blockCount cs' := by
  simp [blockCount]

/-- What is closed before a piece is what is emitted as ends. -/
theorem blockCount_closeBefore (s : State) (p : Piece) (column : Nat) :
    (s.closeBefore p column).1 + blockCount (s.closeBefore p column).2.containers =
      blockCount s.containers := by
  unfold State.closeBefore
  split
  · simp
  · simp only
    rw [← blockCount_append, List.prefix_iff_eq_append.1 (List.takeWhile_prefix _)]

/-- The columns of the block collections among containers. -/
def blockColumns (cs : List Container) : List Nat := (cs.filter (·.kind.isBlock)).map (·.indent)

theorem length_blockColumns (cs : List Container) : (blockColumns cs).length = blockCount cs := List.length_map _

/-- A piece opens a block collection just when it is a block start: one that stands inside an
unfinished flow collection leaves it first. -/
theorem blockColumns_openAfter (s : State) (p : Piece) (column : Nat)
    (h : p.kind.isBlockStart = true → s.flowDepth = 0) :
    blockColumns (s.openAfter p column).containers =
      (if p.kind.isBlockStart then [column] else []) ++ blockColumns s.containers := by
  unfold State.openAfter
  -- A piece that starts or ends a flow collection is no block start.
  split
  · next hk => cases hp : p.kind <;> simp_all [LexemeKind.isFlowStart, LexemeKind.isBlockStart]
  split
  · next hk => cases hp : p.kind <;> simp_all [LexemeKind.isFlowEnd, LexemeKind.isBlockStart]
  -- Inside a flow collection nothing is pushed, and by `h` no block starts.
  by_cases hd : 0 < s.flowDepth
  · have hb : p.kind.isBlockStart = false := by
      cases hp : p.kind.isBlockStart with
      | false => rfl
      | true => exact absurd (h hp) (by omega)
    simp [hd, hb]
  · rw [if_neg hd]
    split
    · next hp => simp [hp, State.push, blockColumns, ContainerKind.isBlock, LexemeKind.isBlockStart]
    · next hp => simp [hp, State.push, blockColumns, ContainerKind.isBlock, LexemeKind.isBlockStart]
    · next hp =>
      split <;> simp [hp, State.push, blockColumns, ContainerKind.isBlock, LexemeKind.isBlockStart]
    · next hp =>
      split <;> simp [hp, State.push, blockColumns, ContainerKind.isBlock, LexemeKind.isBlockStart]
    · next h1 h2 _ _ =>
      cases hp : p.kind <;> simp_all [LexemeKind.isBlockStart]

theorem blockCount_openAfter (s : State) (p : Piece) (column : Nat)
    (h : p.kind.isBlockStart = true → s.flowDepth = 0) :
    blockCount (s.openAfter p column).containers =
      blockCount s.containers + (if p.kind.isBlockStart then 1 else 0) := by
  rw [← length_blockColumns, ← length_blockColumns, blockColumns_openAfter s p column h, List.length_append,
    Nat.add_comm]
  split <;> rfl

theorem flowDepth_leaveFlow (s : State) (p : Piece) (h : p.kind.isBlockStart = true) :
    (s.leaveFlow p).flowDepth = 0 := by
  simp [State.leaveFlow, h]

theorem containers_leaveFlow (s : State) (p : Piece) : (s.leaveFlow p).containers = s.containers := by
  unfold State.leaveFlow
  split <;> rfl

theorem flowDepth_closeBefore (s : State) (p : Piece) (column : Nat) :
    (s.closeBefore p column).2.flowDepth = s.flowDepth := by
  unfold State.closeBefore
  split <;> rfl

theorem step_balanced (ix : LineIndex) (s : State) (p : Piece) (h : p.kind ≠ .blockEnd) :
    Balanced (blockCount s.containers) (blockCount (step ix s p).2.containers) (step ix s p).1 := by
  have hclose := blockCount_closeBefore (s.leaveFlow p) p (ix.column p.start)
  rw [containers_leaveFlow] at hclose
  have hopen := blockCount_openAfter ((s.leaveFlow p).closeBefore p (ix.column p.start)).2 p
    (ix.column p.start) (fun hb => by rw [flowDepth_closeBefore, flowDepth_leaveFlow s p hb])
  have hx : starts [lexeme ix p] = if p.kind.isBlockStart then 1 else 0 := by
    simp [starts, lexeme, List.countP_cons]
  simp only [step, hopen, ← hclose, ← hx]
  exact (balanced_blockEnds ix _ _ _).append (balanced_singleton h _)

/-! ## A whole run -/

theorem run_balanced (ix : LineIndex) (size : Nat) (s : State) (ps : List Piece)
    (h : ∀ p ∈ ps, p.kind ≠ .blockEnd) :
    Balanced (blockCount s.containers) 0 (run ix size s ps) := by
  induction ps generalizing s with
  | nil => exact balanced_blockEnds ix _ 0 size
  | cons p ps ih =>
    exact (step_balanced ix s p (h p (by simp))).append (ih _ (fun q hq => h q (by simp [hq])))

/-- A lexeme of a run stands for a piece, or is a block end where a piece starts or at the end. -/
theorem mem_run {ix : LineIndex} {size : Nat} {s : State} {ps : List Piece} {x : Lexeme}
    (hx : x ∈ run ix size s ps) : (∃ p ∈ ps, x = lexeme ix p) ∨
      ∃ offset, (offset = size ∨ ∃ p ∈ ps, offset = p.start) ∧
        x = lexeme ix { kind := .blockEnd, start := offset, stop := offset } := by
  induction ps generalizing s with
  | nil => exact .inr ⟨size, .inl rfl, List.eq_of_mem_replicate hx⟩
  | cons p ps ih =>
    simp only [run, step, List.append_assoc, List.mem_append, List.mem_singleton] at hx
    rcases hx with hx | rfl | hx
    · exact .inr ⟨p.start, .inr ⟨p, .head _, rfl⟩, List.eq_of_mem_replicate hx⟩
    · exact .inl ⟨p, .head _, rfl⟩
    · rcases ih hx with ⟨q, hq, rfl⟩ | ⟨offset, hoffset, rfl⟩
      · exact .inl ⟨q, .tail _ hq, rfl⟩
      · exact .inr ⟨offset, hoffset.imp_right fun ⟨q, hq, h⟩ => ⟨q, .tail _ hq, h⟩, rfl⟩

theorem kind_of_mem_run {ix : LineIndex} {size : Nat} {s : State} {ps : List Piece} {x : Lexeme}
    (hx : x ∈ run ix size s ps) : x.kind = .blockEnd ∨ ∃ p ∈ ps, x.kind = p.kind := by
  rcases mem_run hx with ⟨p, hp, rfl⟩ | ⟨_, -, rfl⟩
  · exact .inr ⟨p, hp, rfl⟩
  · exact .inl rfl

end OffSide

/-! ## The pieces of a tree -/

theorem Piece.mem_of_mem_distinct {seen ps : List Piece} {p : Piece} (h : p ∈ distinct seen ps) : p ∈ ps := by
  induction ps generalizing seen with
  | nil => exact h
  | cons q ps ih =>
    rw [distinct] at h
    split at h
    · exact .tail _ (ih h)
    · rcases List.mem_cons.1 h with rfl | h
      · exact .head _
      · exact .tail _ (ih h)

/-- No node shows the end of a block or an end of the stream. -/
theorem Node.kind_of_piece? {n : Node} {p : Piece} (h : n.piece? = some p) :
    p.kind ≠ .blockEnd ∧ p.kind ≠ .streamStart ∧ p.kind ≠ .streamEnd := by
  unfold Node.piece? at h
  split at h <;> try split at h
  all_goals simp only [Option.some.injEq, reduceCtorEq] at h
  all_goals subst h; simp

/-- A piece of a tree is shown by one of its nodes. -/
theorem Node.mem_of_mem_pieces {root : Node} {p : Piece} (h : p ∈ root.pieces) :
    p ∈ root.preorder.filterMap piece? := List.mem_mergeSort.1 (Piece.mem_of_mem_distinct h)

theorem Node.kind_of_mem_pieces {root : Node} {p : Piece} (h : p ∈ root.pieces) :
    p.kind ≠ .blockEnd ∧ p.kind ≠ .streamStart ∧ p.kind ≠ .streamEnd := by
  obtain ⟨n, -, hn⟩ := List.mem_filterMap.1 (mem_of_mem_pieces h)
  exact Node.kind_of_piece? hn

/-! ## Main theorem -/

namespace Lexeme

open OffSide (starts ends run run_balanced kind_of_mem_run)

/-- Any tree, well formed or not, has lexemes between one start and one end of the stream in
which each block start is matched by a later block end. -/
theorem ofTree_balanced (t : Text) (root : Node) :
    (∀ l, l <+: ofTree t root → ends l ≤ starts l) ∧ ends (ofTree t root) = starts (ofTree t root) ∧
      ∃ first body last, ofTree t root = first :: (body ++ [last]) ∧
        first.kind = .streamStart ∧ last.kind = .streamEnd ∧
        ∀ x ∈ body, x.kind ≠ .streamStart ∧ x.kind ≠ .streamEnd := by
  have hrun := run_balanced (.ofText t) t.length .start root.pieces (fun p hp => (Node.kind_of_mem_pieces hp).1)
  have hfirst := OffSide.balanced_singleton
    (x := OffSide.lexeme (.ofText t) { kind := .streamStart, start := 0, stop := 0 }) (by simp [OffSide.lexeme]) 0
  have hlast := OffSide.balanced_singleton
    (x := OffSide.lexeme (.ofText t) { kind := .streamEnd, start := t.length, stop := t.length })
    (by simp [OffSide.lexeme]) 0
  have hall := hfirst.append (hrun.append hlast)
  refine ⟨fun l hl => ?_, ?_, _, run (.ofText t) t.length .start root.pieces, _, rfl, rfl, rfl, fun x hx => ?_⟩
  · simpa using hall.sane l hl
  · have h : ends (ofTree t root) + 0 = 0 + starts (ofTree t root) := hall.settled
    omega
  · rcases kind_of_mem_run hx with h | ⟨p, hp, h⟩
    · simp [h]
    · rw [h]
      exact (Node.kind_of_mem_pieces hp).2

end Lexeme

end YamlStyle
