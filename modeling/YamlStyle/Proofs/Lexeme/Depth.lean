import YamlStyle.Proofs.Lexeme.Complete
import YamlStyle.Proofs.Lexeme.Containers
import YamlStyle.Proofs.Lexeme.Extents
import YamlStyle.Proofs.Lexeme.Reckoning

/-!
# No lexeme stands to the left of the blocks around it

Whatever a text holds, and wherever reading had to be resumed, a lexeme outside flow collections starts no
further left than any block that is open around it (`ofText_offSide`). Nothing is closed inside a flow
collection, so this takes that no other piece starts where a flow collection ends: the ends of flow
collections are the only tokens that start with the characters for them (`Node.precedes_pieces`).
-/

namespace YamlStyle

open Yaml (IsOpen Token TokenKind)

variable {t : Text} {p q : Piece}

/-! ## Pieces in their order -/

namespace Tree

theorem kind_of_unitOf? {x : Token} {o : Nat} {source : String} {u : LexicalUnit} (hu : unitOf? x o source = some u)
    (hp : u.leaf.piece? = some p) : p.kind = x.kind.lexemeKind ∧ p.start = o := by
  have hstart := Node.start_of_piece? hp
  obtain ⟨nodeKind, hkind, rfl⟩ := Option.map_eq_some_iff.1 hu
  refine ⟨?_, hstart⟩
  obtain ⟨kind, start, stop⟩ := x
  cases kind with
  | scalar value style => cases style <;> cases hkind <;> cases hp <;> rfl
  | key =>
    cases hkind
    split at hp <;> cases hp <;> rfl
  | _ => cases hkind <;> cases hp <;> rfl

/-- A piece shows a token, and starts with a character that the token may start with. -/
theorem token_of_mem_pieces {root : Node} (h : (build t).root = .ok root) (hp : p ∈ root.pieces) :
    ∃ kind : TokenKind, p.kind = kind.lexemeKind ∧ kind.MayStartWith t[p.start]? := by
  have hp := Node.mem_of_mem_pieces hp
  rw [filterMap_piece?] at hp
  obtain ⟨u, hu, hp⟩ := List.mem_filterMap.1 hp
  obtain ⟨⟨base, x⟩ | _, hof, hunit⟩ := unit?_of_build h hu
  · obtain ⟨r, hr, rfl⟩ := hof
    obtain ⟨hkind, hstart⟩ := kind_of_unitOf? hunit hp
    have hstarts := (Yaml.isIn_of_mem_ofText hr).starts
    rw [List.getElem?_drop, ← hstart] at hstarts
    exact ⟨_, hkind, hstarts⟩
  · cases hunit

end Tree

namespace Piece

theorem rank_last_iff : 2 ≤ p.rank ↔ p.kind.isBlockStart = false ∧ p.kind ≠ .key := by
  unfold rank
  cases p.kind.isBlockStart <;> by_cases hkey : p.kind = .key <;> simp [hkey]

theorem rank_of_flowEnd (h : p.kind.isFlowEnd = true) : p.rank = 2 := by
  unfold rank
  cases hkind : p.kind <;> rw [hkind] at h <;> first | rfl | cases h

/-- Pieces in the order of the text; nothing else starts where a flow collection ends. -/
structure Precedes (p q : Piece) : Prop where
  isBefore : p.isBefore q = true
  flowEnd : p.kind.isFlowEnd = true → p.start < q.start

theorem Precedes.start_le (h : p.Precedes q) : p.start ≤ q.start := by
  have := isBefore_iff.1 h.isBefore
  omega

/-- Where a piece starts, a block starts before all others or not at all. -/
theorem Precedes.isBlockStart (h : p.Precedes q) (hstart : p.start = q.start) (hq : q.kind.isBlockStart = true) :
    p.kind.isBlockStart = true := by
  have hrank : p.rank ≤ q.rank := by
    have := isBefore_iff.1 h.isBefore
    omega
  by_contra hp
  rw [rank, rank, if_pos hq, if_neg hp] at hrank
  split at hrank <;> omega

end Piece

namespace Yaml.TokenKind

variable {c : Option Char}

theorem MayStartWith.of_flowEnd {x : TokenKind} (h : x.MayStartWith c) (hflow : x.lexemeKind.isFlowEnd = true) :
    c = some ']' ∧ x.lexemeKind = .flowSequenceEnd ∨ c = some '\x7d' ∧ x.lexemeKind = .flowMappingEnd := by
  cases x with
  | flowSequenceEnd => exact .inl ⟨h, rfl⟩
  | flowMappingEnd => exact .inr ⟨h, rfl⟩
  | _ => cases hflow

/-- Where the end of a flow collection starts, only blocks and keys may start as well. -/
theorem lexemeKind_eq_of_flowEnd {x y : TokenKind} (hx : x.MayStartWith c) (hy : y.MayStartWith c)
    (hflow : x.lexemeKind.isFlowEnd = true) (hblock : y.lexemeKind.isBlockStart = false) (hkey : y.lexemeKind ≠ .key)
    (hshown : y.lexemeKind.isShown = true) : x.lexemeKind = y.lexemeKind := by
  have hclosing := hx.of_flowEnd hflow
  cases y with
  | flowSequenceEnd | flowMappingEnd =>
    rcases hclosing with ⟨rfl, hkind⟩ | ⟨rfl, hkind⟩ <;> first | exact hkind | cases hy
  | streamStart | streamEnd | blockEnd => cases hshown
  | blockSequenceStart | blockMappingStart => cases hblock
  | key => exact absurd rfl hkey
  | scalar =>
    rcases hclosing with ⟨rfl, -⟩ | ⟨rfl, -⟩
    · exact absurd rfl hy.isOpen.1
    · exact absurd rfl hy.isOpen.2
  | _ =>
    have hopen : IsOpen c := hy
    rcases hclosing with ⟨rfl, -⟩ | ⟨rfl, -⟩
    · exact absurd rfl hopen.1
    · exact absurd rfl hopen.2

end Yaml.TokenKind

/-- The pieces of a text. -/
theorem Node.precedes_pieces {root : Node} (h : (Tree.build t).root = .ok root) :
    root.pieces.Pairwise Piece.Precedes := by
  have hpairwise := (Piece.distinct_pairwise [] _).and root.pieces_sorted
  refine hpairwise.imp_of_mem fun {p q} hp hq hpq => ⟨hpq.2, fun hflow => ?_⟩
  obtain ⟨hdiffer, hbefore⟩ := hpq
  rw [Piece.isBefore_iff] at hbefore
  refine hbefore.resolve_right fun ⟨hstart, hrank⟩ => ?_
  obtain ⟨x, hx, hxstarts⟩ := Tree.token_of_mem_pieces h hp
  obtain ⟨y, hy, hystarts⟩ := Tree.token_of_mem_pieces h hq
  rw [← hstart] at hystarts
  have hkind : p.kind = q.kind := by
    rw [hx, hy]
    have hlast := Piece.rank_last_iff.1 ((Piece.rank_of_flowEnd hflow).symm.trans_le hrank)
    rw [hx] at hflow
    rw [hy] at hlast
    exact Yaml.TokenKind.lexemeKind_eq_of_flowEnd hxstarts hystarts hflow hlast.1 hlast.2
      (hy ▸ Node.isShown_of_mem_pieces hq)
  rw [Piece.isSame_iff.2 ⟨hkind, hstart⟩] at hdiffer
  cases hdiffer

/-! ## What is open -/

namespace OffSide

variable {ix : LineIndex} {s : State} {ps qs : List Piece} {column : Nat}

/-- What is open after pieces. -/
def State.after (ix : LineIndex) (s : State) (ps : List Piece) : State := ps.foldl (fun s p => (step ix s p).2) s

/-- What is open when a piece is emitted. -/
def State.around (ix : LineIndex) (s : State) (p : Piece) : State :=
  ((s.leaveFlow p).closeBefore p (ix.column p.start)).2

/-- The ends of the blocks that are closed before a piece. -/
def State.closing (ix : LineIndex) (s : State) (p : Piece) : List Lexeme :=
  blockEnds ix ((s.leaveFlow p).closeBefore p (ix.column p.start)).1 p.start

theorem step_fst (ix : LineIndex) (s : State) (p : Piece) : (step ix s p).1 = s.closing ix p ++ [lexeme ix p] := rfl

theorem step_snd (ix : LineIndex) (s : State) (p : Piece) :
    (step ix s p).2 = { (s.around ix p).openAfter p (ix.column p.start) with last := some p.start } := rfl

theorem containers_around (ix : LineIndex) (s : State) (p : Piece) :
    (s.around ix p).containers <:+ s.containers := by
  unfold State.around State.closeBefore
  split
  · rw [containers_leaveFlow]
  · dsimp only
    rw [containers_leaveFlow]
    exact List.drop_suffix _ _

theorem flowDepth_around (ix : LineIndex) (s : State) (p : Piece) :
    (s.around ix p).flowDepth = if p.kind.isBlockStart then 0 else s.flowDepth := by
  rw [State.around, flowDepth_closeBefore, State.leaveFlow]
  split <;> rfl

theorem last_leaveFlow (s : State) (p : Piece) : (s.leaveFlow p).last = s.last := by
  unfold State.leaveFlow
  split <;> rfl

theorem containers_openAfter (s : State) (p : Piece) (column : Nat) :
    (s.openAfter p column).containers = s.containers ∨
      s.flowDepth = 0 ∧ ∃ kind, (s.openAfter p column).containers = ⟨kind, column, p.start⟩ :: s.containers := by
  unfold State.openAfter
  split
  · exact .inl rfl
  · split
    · exact .inl rfl
    · split
      · exact .inl rfl
      · next hdepth =>
        have hzero : s.flowDepth = 0 := Nat.eq_zero_of_not_pos hdepth
        split <;> first | exact .inr ⟨hzero, _, rfl⟩ | exact .inl rfl | skip
        all_goals split <;> first | exact .inr ⟨hzero, _, rfl⟩ | exact .inl rfl

theorem flowDepth_openAfter (s : State) (p : Piece) (column : Nat) :
    (s.openAfter p column).flowDepth =
      if p.kind.isFlowStart then s.flowDepth + 1 else if p.kind.isFlowEnd then s.flowDepth - 1 else s.flowDepth := by
  unfold State.openAfter
  split
  · rfl
  · split
    · rfl
    · split
      · rfl
      · split <;> try split
        all_goals rfl

theorem run_cons (ix : LineIndex) (size : Nat) (s : State) (p : Piece) (ps : List Piece) :
    run ix size s (p :: ps) = s.closing ix p ++ lexeme ix p :: run ix size (step ix s p).2 ps := by
  show (step ix s p).1 ++ run ix size (step ix s p).2 ps = _
  rw [step_fst, List.append_assoc, List.singleton_append]

theorem kind_of_mem_closing {x : Lexeme} (h : x ∈ s.closing ix p) : x.kind = .blockEnd := by
  rw [List.eq_of_mem_replicate h]
  rfl

/-- What holds between pieces: the containers are nested, each in those around it, and if closing is skipped
for a piece because the piece before it starts there as well, none of them is deeper than that piece. -/
structure State.Awaits (ix : LineIndex) (s : State) (ps : List Piece) : Prop where
  nested : s.containers.Pairwise fun c d => d.indent ≤ c.indent
  columns : ∀ c ∈ s.containers, c.indent = ix.column c.offset
  placed : ∀ c ∈ s.containers, ∀ p ∈ ps, c.offset ≤ p.start
  settled : ∀ p ∈ ps, s.last = some p.start → s.flowDepth = 0 ∨ p.kind.isBlockStart = true →
    ∀ c ∈ s.containers, c.indent ≤ ix.column p.start

/-- Closing stops at a container that is not deeper than the piece. -/
theorem indent_le_of_mem_drop {cs : List Container} (hnested : cs.Pairwise fun c d => d.indent ≤ c.indent)
    (hcolumns : ∀ c ∈ cs, c.indent = ix.column c.offset) (hplaced : ∀ c ∈ cs, c.offset ≤ p.start) :
    ∀ c ∈ cs.drop (cs.takeWhile (endsBefore p (ix.column p.start))).length, c.indent ≤ ix.column p.start := by
  induction cs with
  | nil => simp
  | cons c cs ih =>
    obtain ⟨hcolumn, hcolumns⟩ := List.forall_mem_cons.1 hcolumns
    obtain ⟨hplace, hplaced⟩ := List.forall_mem_cons.1 hplaced
    cases hends : endsBefore p (ix.column p.start) c with
    | true =>
      rw [List.takeWhile_cons_of_pos hends, List.length_cons, List.drop_succ_cons]
      exact ih hnested.of_cons hcolumns hplaced
    | false =>
      have hindent : c.indent ≤ ix.column p.start := by
        rcases Nat.lt_or_ge c.offset p.start with hlt | hge
        · by_contra hdeep
          rw [endsBefore_of_lt hlt (Nat.lt_of_not_le hdeep)] at hends
          cases hends
        · rw [hcolumn, Nat.le_antisymm hplace hge]
      rw [List.takeWhile_cons_of_neg (by simp [hends]), List.length_nil, List.drop_zero]
      exact List.forall_mem_cons.2 ⟨hindent, fun d hd => (List.rel_of_pairwise_cons hnested hd).trans hindent⟩

/-- Outside flow collections no container is deeper than a piece that is emitted. -/
theorem State.Awaits.indent_le (h : s.Awaits ix (p :: ps)) (hflow : (s.around ix p).flowDepth = 0) :
    ∀ c ∈ (s.around ix p).containers, c.indent ≤ ix.column p.start := by
  have hplaced : ∀ c ∈ s.containers, c.offset ≤ p.start := fun c hc => h.placed c hc p (List.mem_cons_self ..)
  have houtside : s.flowDepth = 0 ∨ p.kind.isBlockStart = true := by
    rw [flowDepth_around] at hflow
    split at hflow
    · next hblock => exact .inr hblock
    · exact .inl hflow
  have hdepth : (s.leaveFlow p).flowDepth = 0 := by
    rw [State.around, flowDepth_closeBefore] at hflow
    exact hflow
  unfold State.around State.closeBefore
  split
  · next hskip =>
    have hlast : s.last = some p.start := by
      rw [Bool.or_eq_true, decide_eq_true_eq, beq_iff_eq, last_leaveFlow] at hskip
      exact hskip.resolve_left (by omega)
    rw [containers_leaveFlow]
    exact h.settled p (List.mem_cons_self ..) hlast houtside
  · dsimp only
    rw [containers_leaveFlow]
    exact indent_le_of_mem_drop h.nested h.columns hplaced

theorem State.Awaits.step (h : s.Awaits ix (p :: ps)) (hps : ∀ q ∈ ps, p.Precedes q) :
    (OffSide.step ix s p).2.Awaits ix ps := by
  have hsub := (containers_around ix s p).subset
  have hnested := h.nested.sublist (containers_around ix s p).sublist
  rw [step_snd]
  -- What is open after the piece was open around it, or is opened by it.
  have hmem : ∀ c ∈ ((s.around ix p).openAfter p (ix.column p.start)).containers,
      c ∈ (s.around ix p).containers ∨ c.indent = ix.column p.start ∧ c.offset = p.start := by
    intro c hc
    obtain hsame | ⟨-, kind, hpush⟩ := containers_openAfter (s.around ix p) p (ix.column p.start)
    · exact .inl (hsame ▸ hc)
    · rw [hpush] at hc
      rcases List.mem_cons.1 hc with rfl | hc
      · exact .inr ⟨rfl, rfl⟩
      · exact .inl hc
  refine ⟨?_, fun c hc => ?_, fun c hc q hq => ?_, fun q hq hlast houtside c hc => ?_⟩
  · obtain hsame | ⟨hflow, kind, hpush⟩ := containers_openAfter (s.around ix p) p (ix.column p.start)
    · rw [hsame]
      exact hnested
    · rw [hpush]
      exact hnested.cons (h.indent_le hflow)
  · rcases hmem c hc with hc | ⟨hindent, hoffset⟩
    · exact h.columns c (hsub hc)
    · rw [hindent, hoffset]
  · refine Nat.le_trans ?_ (hps q hq).start_le
    rcases hmem c hc with hc | ⟨-, hoffset⟩
    · exact h.placed c (hsub hc) p (List.mem_cons_self ..)
    · exact Nat.le_of_eq hoffset
  · have hstart : p.start = q.start := Option.some.inj hlast
    have hflow : (s.around ix p).flowDepth = 0 := by
      rcases houtside with hdepth | hblock
      · have hopened := (flowDepth_openAfter (s.around ix p) p (ix.column p.start)).symm.trans hdepth
        split at hopened
        · omega
        · split at hopened
          · next hend => exact absurd hstart (Nat.ne_of_lt ((hps q hq).flowEnd hend))
          · exact hopened
      · rw [flowDepth_around, if_pos ((hps q hq).isBlockStart hstart hblock)]
    rw [← hstart]
    rcases hmem c hc with hc | ⟨hindent, -⟩
    · exact h.indent_le hflow c hc
    · exact Nat.le_of_eq hindent

theorem State.Awaits.after (h : s.Awaits ix (ps ++ qs)) (hps : (ps ++ qs).Pairwise Piece.Precedes) :
    (s.after ix ps).Awaits ix qs := by
  induction ps generalizing s with
  | nil => exact h
  | cons p ps ih => exact ih (h.step (List.pairwise_cons.1 hps).1) hps.of_cons

theorem awaits_start (ix : LineIndex) (ps : List Piece) : State.start.Awaits ix ps where
  nested := .nil
  columns := nofun
  placed := nofun
  settled := nofun

/-! ## Lexemes -/

/-- How many flow collections are open after a lexeme; none is where a block starts. -/
def depthAfter (depth : Nat) (x : Lexeme) : Nat :=
  if x.kind.isBlockStart then 0
  else if x.kind.isFlowStart then depth + 1
  else if x.kind.isFlowEnd then depth - 1
  else depth

/-- How many flow collections are open after lexemes. -/
def flowDepth (xs : List Lexeme) : Nat := xs.foldl depthAfter 0

/-- The starts of the blocks that are open after lexemes, innermost first. -/
def openBlocks (xs : List Lexeme) : List Lexeme :=
  xs.foldl (fun starts x =>
    if x.kind.isBlockStart then x :: starts else if x.kind = .blockEnd then starts.tail else starts) []

/-- Lexemes after which a state has been reached. -/
structure Reaches (xs : List Lexeme) (s : State) : Prop where
  depth : flowDepth xs = s.flowDepth
  blocks : (openBlocks xs).map (·.start.column) = blockColumns s.containers

theorem openBlocks_concat (xs : List Lexeme) (x : Lexeme) : openBlocks (xs ++ [x]) =
    if x.kind.isBlockStart then x :: openBlocks xs
    else if x.kind = .blockEnd then (openBlocks xs).tail else openBlocks xs := by
  rw [openBlocks, List.foldl_append]
  rfl

theorem flowDepth_concat (xs : List Lexeme) (x : Lexeme) : flowDepth (xs ++ [x]) = depthAfter (flowDepth xs) x := by
  rw [flowDepth, List.foldl_append]
  rfl

theorem openBlocks_append_blockEnds (xs : List Lexeme) (n offset : Nat) :
    openBlocks (xs ++ blockEnds ix n offset) = (openBlocks xs).drop n := by
  induction n with
  | zero => simp [blockEnds]
  | succ n ih =>
    rw [blockEnds, List.replicate_succ', ← List.append_assoc, ← blockEnds, openBlocks_concat, ih]
    simp [lexeme, LexemeKind.isBlockStart]

theorem flowDepth_append_blockEnds (xs : List Lexeme) (n offset : Nat) :
    flowDepth (xs ++ blockEnds ix n offset) = flowDepth xs := by
  induction n with
  | zero => simp [blockEnds]
  | succ n ih =>
    rw [blockEnds, List.replicate_succ', ← List.append_assoc, ← blockEnds, flowDepth_concat, ih]
    simp [depthAfter, lexeme, LexemeKind.isBlockStart, LexemeKind.isFlowStart, LexemeKind.isFlowEnd]

/-- As many block collections are closed before a piece as it takes ends. -/
theorem drop_blockColumns (s : State) (p : Piece) (column : Nat) :
    (blockColumns s.containers).drop (s.closeBefore p column).1 = blockColumns (s.closeBefore p column).2.containers := by
  unfold State.closeBefore
  split
  · exact List.drop_zero
  · dsimp only
    generalize hclosed : s.containers.takeWhile (endsBefore p column) = closed
    have happend : closed ++ s.containers.drop closed.length = s.containers := by
      rw [← hclosed]
      exact List.prefix_iff_eq_append.1 (List.takeWhile_prefix _)
    have hcolumns : blockColumns s.containers = blockColumns closed ++ blockColumns (s.containers.drop closed.length) := by
      conv_lhs => rw [← happend]
      simp [blockColumns]
    rw [hcolumns, ← length_blockColumns, List.drop_left]

theorem Reaches.flowDepth_closing {xs : List Lexeme} (h : Reaches xs s) (ix : LineIndex) (p : Piece) :
    flowDepth (xs ++ s.closing ix p) = s.flowDepth := by
  rw [State.closing, flowDepth_append_blockEnds, h.depth]

theorem Reaches.blocks_closing {xs : List Lexeme} (h : Reaches xs s) (ix : LineIndex) (p : Piece) :
    (openBlocks (xs ++ s.closing ix p)).map (·.start.column) = blockColumns (s.around ix p).containers := by
  rw [State.closing, openBlocks_append_blockEnds, List.map_drop, h.blocks, ← containers_leaveFlow s p]
  exact drop_blockColumns _ _ _

theorem Reaches.step {xs : List Lexeme} (h : Reaches xs s) (ix : LineIndex) (hp : p.kind.isShown = true) :
    Reaches (xs ++ (OffSide.step ix s p).1) (OffSide.step ix s p).2 := by
  have hkind : (lexeme ix p).kind = p.kind := rfl
  rw [step_fst, ← List.append_assoc, step_snd]
  constructor
  · refine Eq.trans ?_ (flowDepth_openAfter _ _ _).symm
    rw [flowDepth_concat, h.flowDepth_closing, flowDepth_around, depthAfter, hkind]
    cases p.kind <;> rfl
  · have hblockEnd : p.kind ≠ .blockEnd := by
      rintro heq
      rw [heq] at hp
      cases hp
    have houtside : p.kind.isBlockStart = true → (s.around ix p).flowDepth = 0 := fun hblock => by
      rw [flowDepth_around, if_pos hblock]
    refine Eq.trans ?_ (blockColumns_openAfter _ _ _ houtside).symm
    rw [openBlocks_concat, hkind, if_neg hblockEnd, ← h.blocks_closing]
    split <;> rfl

/-- In the end all blocks are closed. -/
theorem openBlocks_run {xs : List Lexeme} {size : Nat} (h : Reaches xs s) (hps : ∀ p ∈ ps, p.kind.isShown = true) :
    openBlocks (xs ++ run ix size s ps) = [] := by
  induction ps generalizing s xs with
  | nil =>
    have hlength : (openBlocks xs).length = blockCount s.containers := by
      rw [← length_blockColumns, ← h.blocks, List.length_map]
    rw [run, openBlocks_append_blockEnds, ← hlength, List.drop_length]
  | cons p ps ih =>
    obtain ⟨hp, hps⟩ := List.forall_mem_cons.1 hps
    rw [run, ← List.append_assoc]
    exact ih (h.step ix hp) hps

/-- Blocks that are open around a piece that is emitted outside flow collections. -/
theorem Reaches.column_le {xs : List Lexeme} (h : Reaches xs s) (hs : s.Awaits ix (p :: ps))
    (hflow : p.kind.isBlockStart = true ∨ flowDepth (xs ++ s.closing ix p) = 0) :
    ∀ b ∈ openBlocks (xs ++ s.closing ix p), b.start.column ≤ ix.column p.start := by
  have houtside : (s.around ix p).flowDepth = 0 := by
    rw [h.flowDepth_closing] at hflow
    rw [flowDepth_around, ite_eq_left_iff]
    exact hflow.resolve_left
  intro b hb
  have hcolumn := List.mem_map_of_mem (f := (·.start.column)) hb
  rw [h.blocks_closing] at hcolumn
  obtain ⟨c, hc, hindent⟩ := List.mem_map.1 hcolumn
  rw [← hindent]
  exact hs.indent_le houtside c (List.mem_filter.1 hc).1

/-- Where a lexeme of a run stands that ends no block. -/
theorem run_offSide {xs before later : List Lexeme} {size : Nat} {x : Lexeme} (hs : s.Awaits ix ps)
    (hps : ps.Pairwise Piece.Precedes) (hshown : ∀ p ∈ ps, p.kind.isShown = true) (hxs : Reaches xs s)
    (hrun : run ix size s ps = before ++ x :: later) (hx : x.kind ≠ .blockEnd)
    (hflow : x.kind.isBlockStart = true ∨ flowDepth (xs ++ before) = 0) :
    ∀ b ∈ openBlocks (xs ++ before), b.start.column ≤ x.start.column := by
  induction ps generalizing s xs before with
  | nil =>
    have hmem : x ∈ run ix size s [] := hrun ▸ by simp
    rw [List.eq_of_mem_replicate hmem] at hx
    exact absurd rfl hx
  | cons p ps ih =>
    obtain ⟨hp, hshown⟩ := List.forall_mem_cons.1 hshown
    obtain ⟨hfirst, hrest⟩ := List.pairwise_cons.1 hps
    rw [run_cons] at hrun
    obtain ⟨as, rfl, hafter⟩ : ∃ as, before = s.closing ix p ++ as ∧
        lexeme ix p :: run ix size (OffSide.step ix s p).2 ps = as ++ x :: later := by
      obtain h | ⟨bs, hclosing, hbs⟩ := List.append_eq_append_iff.1 hrun
      · exact h
      · cases bs with
        | nil => exact ⟨[], by simpa using hclosing.symm, hbs.symm⟩
        | cons y bs =>
          obtain ⟨rfl, -⟩ := List.cons.inj hbs
          have hmem : x ∈ s.closing ix p := by
            rw [hclosing]
            simp
          exact absurd (kind_of_mem_closing hmem) hx
    cases as with
    | nil =>
      obtain ⟨rfl, -⟩ := List.cons.inj hafter
      rw [List.append_nil] at hflow ⊢
      exact hxs.column_le hs hflow
    | cons y as =>
      obtain ⟨rfl, hlater⟩ := List.cons.inj hafter
      have happend : xs ++ (s.closing ix p ++ lexeme ix p :: as) = xs ++ (OffSide.step ix s p).1 ++ as := by
        rw [step_fst]
        simp
      rw [happend] at hflow ⊢
      exact ih (hs.step hfirst) hrest hshown (hxs.step ix hp) hlater hflow

end OffSide

namespace Lexeme

open OffSide (State openBlocks flowDepth)

/-- Take the lexemes of a text, whether it is well formed or not. Outside flow collections, where no block is
inside one, a lexeme that ends no block starts no further left than the blocks that are open there: those
whose starts come before it and whose ends do not. So it is for what the off-side rule keeps open: no
container is ever deeper than one inside it, and outside flow collections none is deeper than the piece
that is emitted. -/
theorem ofText_offSide {root : Node} (h : (Tree.build t).root = .ok root) :
    (ofText t).outcome = .ok (ofTree t root) ∧
      (∀ before x later, ofTree t root = before ++ x :: later → x.kind ≠ .blockEnd →
        x.kind.isBlockStart = true ∨ flowDepth before = 0 →
          ∀ b ∈ openBlocks before, b.start.column ≤ x.start.column) ∧
      ∀ ps qs, root.pieces = ps ++ qs →
        let ix := LineIndex.ofText t
        let s := State.start.after ix ps
        (s.containers.Pairwise fun c d => d.indent ≤ c.indent) ∧
          ∀ p ∈ qs.head?, (s.around ix p).containers <:+ s.containers ∧
            ((s.around ix p).flowDepth = 0 → ∀ c ∈ (s.around ix p).containers, c.indent ≤ ix.column p.start) := by
  have hpieces := Node.precedes_pieces h
  have hshown : ∀ p ∈ root.pieces, p.kind.isShown = true := fun p hp => Node.isShown_of_mem_pieces hp
  refine ⟨outcome_ofText_eq_ok.2 ⟨root, h, rfl⟩, fun before x later hsplit hx hflow => ?_, fun ps qs hsplit => ?_⟩
  · have hstart := OffSide.awaits_start (.ofText t) root.pieces
    cases before with
    | nil => exact List.forall_mem_nil _
    | cons first before =>
      obtain ⟨rfl, hrun⟩ := List.cons.inj hsplit
      let first := OffSide.lexeme (.ofText t) { kind := .streamStart, start := 0, stop := 0 }
      have hfirst : OffSide.Reaches [first] .start := ⟨rfl, rfl⟩
      -- The lexeme is the end of the stream, or it is in the run.
      obtain rfl | ⟨later, hbefore⟩ : OffSide.run (.ofText t) t.length .start root.pieces = before ∨
          ∃ later, OffSide.run (.ofText t) t.length .start root.pieces = before ++ x :: later := by
        obtain ⟨as, rfl, hlast⟩ | ⟨bs, hbefore, hlater⟩ := List.append_eq_append_iff.1 hrun
        · cases as with
          | nil => exact .inl (List.append_nil _).symm
          | cons y as => simp at hlast
        · cases bs with
          | nil => exact .inl (hbefore.trans (List.append_nil _))
          | cons y bs =>
            obtain ⟨rfl, -⟩ := List.cons.inj hlater
            exact .inr ⟨bs, hbefore⟩
      · have hclosed : openBlocks (first :: OffSide.run (.ofText t) t.length .start root.pieces) = [] :=
          OffSide.openBlocks_run hfirst hshown
        rw [hclosed]
        exact List.forall_mem_nil _
      · exact OffSide.run_offSide hstart hpieces hshown hfirst hbefore hx hflow
  · rw [hsplit] at hpieces
    have hs := (OffSide.awaits_start (.ofText t) (ps ++ qs)).after hpieces
    refine ⟨hs.nested, fun p hp => ⟨OffSide.containers_around _ _ p, fun hflow => ?_⟩⟩
    obtain ⟨qs, rfl⟩ := List.head?_eq_some_iff.1 hp
    exact hs.indent_le hflow

/-- A sequence of a mapping and a scalar. -/
def nestedMapping : List Lexeme :=
  [⟨.streamStart, ⟨0, 0, 0⟩, ⟨0, 0, 0⟩, none, none⟩, ⟨.blockSequenceStart, ⟨0, 0, 0⟩, ⟨0, 0, 0⟩, none, none⟩,
    ⟨.blockEntry, ⟨0, 0, 0⟩, ⟨0, 1, 1⟩, none, none⟩, ⟨.blockMappingStart, ⟨0, 2, 2⟩, ⟨0, 2, 2⟩, none, none⟩,
    ⟨.key, ⟨0, 2, 2⟩, ⟨0, 2, 2⟩, none, none⟩, ⟨.scalar, ⟨0, 2, 2⟩, ⟨0, 3, 3⟩, some "a", some .plain⟩,
    ⟨.value, ⟨0, 3, 3⟩, ⟨0, 4, 4⟩, none, none⟩, ⟨.scalar, ⟨0, 5, 5⟩, ⟨0, 6, 6⟩, some "b", some .plain⟩,
    ⟨.blockEnd, ⟨1, 0, 7⟩, ⟨1, 0, 7⟩, none, none⟩, ⟨.blockEntry, ⟨1, 0, 7⟩, ⟨1, 1, 8⟩, none, none⟩,
    ⟨.scalar, ⟨1, 2, 9⟩, ⟨1, 3, 10⟩, some "c", some .plain⟩, ⟨.blockEnd, ⟨1, 3, 10⟩, ⟨1, 3, 10⟩, none, none⟩,
    ⟨.streamEnd, ⟨1, 3, 10⟩, ⟨1, 3, 10⟩, none, none⟩]

theorem ofText_nestedMapping : (ofText "- a: b\n- c".toList).outcome = .ok nestedMapping := by
  rw [outcome_ofText_eq_reckoned]
  decide +kernel

/-- Both blocks are open at the value of the mapping, and one of them at the second entry. -/
theorem ofText_offSide_nestedMapping :
    let t : Text := "- a: b\n- c".toList
    ∃ root, (Tree.build t).root = .ok root ∧ ofTree t root = nestedMapping ∧
      (openBlocks (nestedMapping.take 7) = [nestedMapping[3], nestedMapping[1]] ∧
        ∀ b ∈ openBlocks (nestedMapping.take 7), b.start.column ≤ 5) ∧
      openBlocks (nestedMapping.take 9) = [nestedMapping[1]] ∧
        ∀ b ∈ openBlocks (nestedMapping.take 9), b.start.column ≤ 0 := by
  intro t
  obtain ⟨root, hroot, hxs⟩ := outcome_ofText_eq_ok.1 ofText_nestedMapping
  have hvalue : ofTree t root = nestedMapping.take 7 ++ nestedMapping[7] :: nestedMapping.drop 8 := hxs
  have hentry : ofTree t root = nestedMapping.take 9 ++ nestedMapping[9] :: nestedMapping.drop 10 := hxs
  obtain ⟨-, hle, -⟩ := ofText_offSide hroot
  exact ⟨root, hroot, hxs, ⟨rfl, hle _ _ _ hvalue (by decide) (.inr rfl)⟩, rfl, hle _ _ _ hentry (by decide) (.inr rfl)⟩

end Lexeme

end YamlStyle
