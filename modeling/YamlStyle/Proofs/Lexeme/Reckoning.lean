import YamlStyle.Proofs.Lexeme.Ordered

/-!
# The lexemes of a fixed text

Sorting and merging recurse on the lengths of lists, where reduction gets stuck. Insertion recurses
on the lists themselves and does the same (`mergeSort_eq_insertionSort`, `merge_eq_mergeInto`). With
it the lexemes of a text that is written out can be reckoned.
-/

namespace YamlStyle

/-! ## Insertion -/

section

variable {α : Type} {le : α → α → Bool}

theorem orderedInsert_append {x : α} {before after : List α} (hbefore : ∀ y ∈ before, le x y = false)
    (hafter : ∀ y ∈ after, le x y = true) :
    (before ++ after).orderedInsert (le · ·) x = before ++ x :: after := by
  induction before with
  | nil =>
    cases after with
    | nil => rfl
    | cons y after => exact if_pos (hafter y (.head _))
  | cons y before ih =>
    have hy : ¬le x y = true := Bool.eq_false_iff.1 (hbefore y (.head _))
    rw [List.cons_append, List.orderedInsert, if_neg hy, ih fun z hz => hbefore z (.tail _ hz), List.cons_append]

/-- Sorting is insertion of one after the other. -/
theorem mergeSort_eq_insertionSort (htrans : ∀ a b c, le a b = true → le b c = true → le a c = true)
    (htotal : ∀ a b, (le a b || le b a) = true) (xs : List α) : xs.mergeSort le = xs.insertionSort (le · ·) := by
  induction xs with
  | nil => rw [List.mergeSort_nil, List.insertionSort_nil]
  | cons x xs ih =>
    obtain ⟨before, after, hsort, hrest, hbefore⟩ := List.mergeSort_cons htrans htotal x xs
    have hsorted := List.pairwise_mergeSort htrans htotal (x :: xs)
    rw [hsort] at hsorted
    have hafter : ∀ y ∈ after, le x y = true := (List.pairwise_cons.1 (List.pairwise_append.1 hsorted).2.1).1
    rw [List.insertionSort_cons, ← ih, hrest, hsort]
    exact (orderedInsert_append (fun y hy => by simpa using hbefore y hy) hafter).symm

/-- `x`, and what `rest` makes of the others, after those of a list that come before `x`. -/
def mergeFrom (le : α → α → Bool) (x : α) (rest : List α → List α) : List α → List α
  | [] => x :: rest []
  | y :: ys => if le x y then x :: rest (y :: ys) else y :: mergeFrom le x rest ys

def mergeInto (le : α → α → Bool) : List α → List α → List α
  | [] => id
  | x :: xs => mergeFrom le x (mergeInto le xs)

theorem merge_eq_mergeInto (xs ys : List α) : xs.merge ys le = mergeInto le xs ys := by
  induction xs generalizing ys with
  | nil => exact List.nil_merge ys
  | cons x xs ih =>
    induction ys with
    | nil => rw [List.merge_right, mergeInto, mergeFrom, ← ih, List.merge_right]
    | cons y ys ihy => rw [List.cons_merge_cons, mergeInto, mergeFrom, ih, ihy, mergeInto]

end

/-! ## Lexemes -/

namespace Lexeme

/-- The lexemes of a tree, whose pieces are sorted by insertion. -/
def reckonedOfTree (t : Text) (root : Node) : List Lexeme :=
  let ix := LineIndex.ofText t
  let boundary (kind : LexemeKind) (offset : Nat) : Lexeme :=
    OffSide.lexeme ix { kind, start := offset, stop := offset }
  let pieces := Piece.distinct [] ((root.preorder.filterMap Node.piece?).insertionSort (Piece.isBefore · ·))
  boundary .streamStart 0 :: (OffSide.run ix t.length .start pieces ++ [boundary .streamEnd t.length])

def reckoned (t : Text) : Except Yaml.Failure (List Lexeme) := (Tree.build t).root.map (reckonedOfTree t)

theorem outcome_ofText_eq_reckoned (t : Text) : (ofText t).outcome = reckoned t := by
  refine congrArg (fun f => (Tree.build t).root.map f) (funext fun root => ?_)
  rw [ofTree, Node.pieces, mergeSort_eq_insertionSort Piece.isBefore_trans Piece.isBefore_total]
  rfl

end Lexeme

end YamlStyle
