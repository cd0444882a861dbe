import YamlStyle.Proofs.Lexeme.Ordered
import YamlStyle.Proofs.Tree.Growth
import YamlStyle.Proofs.Yaml.Scanned

/-!
# The pieces of a tree are its tokens

A text that can be read to its end has a tree whose pieces are its tokens, in their order, but for
the ends of blocks and of the stream.
-/

namespace YamlStyle

open Yaml (Token TokenKind Arrival Layout)

namespace Tree

variable {t : Text} {x y : Token} {p q : Piece}

/-- A piece shows only what its node stands for. -/
theorem piece?_eq_bind (n : Node) : n.piece? = n.unit?.bind fun u => u.leaf.piece? := by
  unfold Node.unit?
  split
  · next h => simp [Node.piece?, h]
  · next h => simp [Node.piece?, h]
  · next h => simp [Node.piece?, h]
  · next h => simp [Node.piece?, h]
  · next h => simp [Node.piece?, h, LexicalUnit.leaf]
  · next h =>
    cases hi : n.indentless <;> simp [Node.piece?, h, hi, LexicalUnit.leaf]
  · next h1 h2 h3 h4 h5 h6 =>
    have hs : n.kind ≠ .blockSequence := h6
    simp only [Option.bind_some, LexicalUnit.leaf]
    unfold Node.piece?
    cases hk : n.kind <;> simp_all

/-- The piece that shows a token. -/
def pieceOf? (t : Text) (x : Token) : Option Piece := (Act.unit? t (.feed 0 x)).bind fun u => u.leaf.piece?

/-- A piece of the kind and the place of a token; that of a key has a width just where the key has. -/
structure Shows (t : Text) (x : Token) (p : Piece) : Prop where
  kind : p.kind = x.kind.lexemeKind
  start : p.start = x.start.offset
  wide : x.kind = .key → x.stop.offset ≤ t.length → (p.start < p.stop ↔ x.start.offset < x.stop.offset)

theorem length_slice (a b : Nat) (h : b ≤ t.length) : (t.slice a b).length = b - a := by
  rw [Text.slice, List.length_take, List.length_drop]
  omega

theorem shows_of_pieceOf? (h : pieceOf? t x = some p) : Shows t x p := by
  obtain ⟨kind, start, stop⟩ := x
  cases kind with
  | scalar value style => cases style <;> cases h <;> exact ⟨rfl, Nat.zero_add _, fun hk => by cases hk⟩
  | key =>
    have hwide : stop.offset ≤ t.length →
        (0 + start.offset < 0 + start.offset + (String.ofList (t.slice (0 + start.offset) (0 + stop.offset))).length ↔
          start.offset < stop.offset) := by
      intro hle
      rw [String.length_ofList, length_slice _ _ (by omega)]
      omega
    by_cases hlt : start.offset < stop.offset <;> simp only [pieceOf?, Act.unit?, unitOf?, nodeKind?, hlt, if_true, if_false] at h <;>
      cases h <;> exact ⟨rfl, Nat.zero_add _, fun _ => hwide⟩
  | _ => cases h <;> exact ⟨rfl, Nat.zero_add _, fun hk => by cases hk⟩

theorem exists_pieceOf? (h : x.kind.isShown = true) : ∃ p, pieceOf? t x = some p := by
  obtain ⟨kind, start, stop⟩ := x
  cases kind with
  | scalar value style => cases style <;> exact ⟨_, rfl⟩
  | key =>
    by_cases hlt : start.offset < stop.offset <;> simp only [pieceOf?, Act.unit?, unitOf?, nodeKind?, hlt, if_true, if_false] <;>
      exact ⟨_, rfl⟩
  | streamStart | streamEnd | blockEnd => cases h
  | _ => exact ⟨_, rfl⟩

theorem pieceOf?_eq_none (h : x.kind.isShown = false) : pieceOf? t x = none := by
  obtain ⟨kind, start, stop⟩ := x
  cases kind <;> first | rfl | cases h

/-! ## Order -/

theorem Shows.rank_eq (h : Shows t x p) : p.rank = x.rank := by
  rw [Piece.rank, Token.rank, h.kind]
  have hkey : (x.kind.lexemeKind == .key) = (x.kind == .key) := by
    rw [Bool.eq_iff_iff, beq_iff_eq, beq_iff_eq]
    cases hk : x.kind <;> simp [TokenKind.lexemeKind]
  rw [hkey]

theorem Shows.isBefore (h : Shows t x p) (h' : Shows t y q) (hxy : x.IsBefore y) :
    p.isBefore q = true ∧ p.isSame q = false ∧ q.isBefore p = false := by
  have hstart := h.start
  have hstart' := h'.start
  have hrank := h.rank_eq
  have hrank' := h'.rank_eq
  unfold Token.IsBefore at hxy
  refine ⟨Piece.isBefore_iff.2 (by omega), Bool.eq_false_iff.2 fun hsame => ?_, Bool.eq_false_iff.2 fun hqp => ?_⟩
  · rw [Piece.isSame, Bool.and_eq_true, beq_iff_eq, beq_iff_eq] at hsame
    have : p.rank = q.rank := by rw [Piece.rank, Piece.rank, hsame.1]
    omega
  · rw [Piece.isBefore_iff] at hqp
    omega

theorem distinct_eq_self {seen ps : List Piece} (h : ps.Pairwise fun p q => p.isSame q = false)
    (hseen : ∀ p ∈ ps, ∀ q ∈ seen, p.isSame q = false) : Piece.distinct seen ps = ps := by
  induction ps generalizing seen with
  | nil => rfl
  | cons p ps ih =>
    have hp : seen.any p.isSame = false := List.any_eq_false.2 fun q hq => by
      rw [hseen p (by simp) q hq]
      decide
    rw [Piece.distinct, hp, if_neg (by decide), ih h.of_cons]
    intro q hq r hr
    rcases List.mem_cons.1 hr with rfl | hr
    · have := List.rel_of_pairwise_cons h hq
      rw [Piece.isSame] at this ⊢
      rw [Bool.beq_comm, Bool.beq_comm (a := q.start)]
      exact this
    · exact hseen q (by simp [hq]) r hr

/-- Pieces in strict order are the pieces of a tree that has them in any order. -/
theorem pieces_eq_of_perm {root : Node} {ps : List Piece} (h : (root.preorder.filterMap Node.piece?).Perm ps)
    (hs : ps.Pairwise fun p q => p.isBefore q = true ∧ p.isSame q = false ∧ q.isBefore p = false) : root.pieces = ps := by
  have hsort : (root.preorder.filterMap Node.piece?).mergeSort Piece.isBefore = ps := by
    have hperm := (List.mergeSort_perm (root.preorder.filterMap Node.piece?) Piece.isBefore).trans h
    refine List.Perm.eq_of_pairwise (fun p q hp hq => ?_)
      (List.pairwise_mergeSort Piece.isBefore_trans Piece.isBefore_total _) (hs.imp fun h => h.1) hperm
    refine List.Pairwise.forall_of_forall_of_flip (R := fun p q => p.isBefore q = true → q.isBefore p = true → p = q)
      (fun _ _ _ _ => rfl) (hs.imp fun h _ hqp => ?_) (hs.imp fun h hpq _ => ?_) (hperm.subset hp) hq
    · rw [h.2.2] at hqp
      cases hqp
    · rw [h.2.2] at hpq
      cases hpq
  rw [Node.pieces, hsort]
  exact distinct_eq_self (hs.imp fun h => h.2.1) fun p _ q hq => by simp at hq

/-! ## The tree of a text -/

theorem filterMap_piece? (root : Node) :
    root.preorder.filterMap Node.piece? = root.units.filterMap fun u => u.leaf.piece? := by
  rw [Node.units, List.filterMap_filterMap]
  exact congrArg (fun f => List.filterMap f _) (funext piece?_eq_bind)

theorem filterMap_pieceOf? (as : List Arrival) :
    (Yaml.streamStart :: as.flatMap Arrival.tokens).filterMap (pieceOf? t) = as.filterMap fun a => pieceOf? t a.token := by
  rw [List.filterMap_cons_none (pieceOf?_eq_none rfl)]
  induction as with
  | nil => rfl
  | cons a as ih =>
    have hends : (List.replicate a.ends (Token.mark0 .blockEnd a.token.start)).filterMap (pieceOf? t) = [] :=
      List.filterMap_eq_nil_iff.2 fun x hx => by
        rw [List.eq_of_mem_replicate hx]
        exact pieceOf?_eq_none rfl
    rw [List.flatMap_cons, List.filterMap_append, ih, Arrival.tokens, List.filterMap_append, hends, List.nil_append]
    cases hp : pieceOf? t a.token <;> simp [hp]

theorem perm_pieces_feedAll (tokens : List Yaml.Released) :
    (((feedAll t 0 (.start t.length) tokens).closeAll.root).preorder.filterMap Node.piece?).Perm
      ((tokens.map (·.token)).filterMap (pieceOf? t)) := by
  have hg := grows_acts t (sound_start t.length) (tokens.map fun r => Act.feed 0 r.token)
  rw [← feedAll_eq_foldl] at hg
  have hunits := (hg.trans (Builder.grows_closeAll hg.sound)).units
  rw [List.append_nil] at hunits
  rw [filterMap_piece?]
  refine (hunits.filterMap _).trans (.of_eq ?_)
  rw [List.filterMap_filterMap, List.filterMap_map, List.filterMap_map]
  rfl

/-- A text that can be read to its end has a tree, whose pieces are its tokens. -/
theorem pieces_build {as : List Arrival} (hf : (Yaml.TokenStream.ofText t).failure = none)
    (h : Yaml.Scanned t as ((Yaml.TokenStream.ofText t).tokens.map (·.token))) (hw : Layout.Walks Layout.Fits .start as) :
    ∃ root, (build t).root = .ok root ∧ root.pieces = as.filterMap fun a => pieceOf? t a.token := by
  refine ⟨(feedAll t 0 (.start t.length) (Yaml.TokenStream.ofText t).tokens).closeAll.root, ?_, ?_⟩
  · rw [build, grow, List.drop_zero]
    simp only [hf]
  · refine pieces_eq_of_perm ?_ ?_
    · have := perm_pieces_feedAll (t := t) (Yaml.TokenStream.ofText t).tokens
      rwa [h.tokens, filterMap_pieceOf?] at this
    · refine (Layout.pairwise_isBefore hw).2.filterMap _ fun a b hab p hp q hq => ?_
      exact (shows_of_pieceOf? hp).isBefore (shows_of_pieceOf? hq) hab

end Tree

end YamlStyle
