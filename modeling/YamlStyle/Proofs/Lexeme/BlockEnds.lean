import YamlStyle.Proofs.Lexeme.Containers
import YamlStyle.Proofs.Lexeme.Shown
import YamlStyle.Proofs.Yaml.Levels

/-!
# Block ends by the off-side rule

A token ends the same blocks by its place among the tokens and by the off-side rule, unless it is
a block scalar in the column of the sequence around it.
-/

namespace YamlStyle

open Yaml (Accepts Allows Arrival Block Layout Leads Level Token TokenKind)

namespace Yaml.Layout

variable {l : Layout} {a : Arrival} {kinds : List TokenKind}

/-- The content of a node at the column of its block would be a key that is missed. -/
theorem not_leads (hf : l.Admits a) (hd : l.depth = 0) (hlast : ∀ x ∈ l.last, x.start.offset < a.token.start.offset)
    {b : Block} (hb : (l.within a).head? = some b) (hc : b.column = a.token.start.column)
    (hk : a.token.kind.isKeyable = true) :
    ¬Leads (l.levelsWithin a) (if a.ends = 0 then l.lastKind else .blockEnd) := by
  intro hl
  have hlead := hl.resolve_right fun h => by
    have := h.2 _ (head?_levelsWithin hd hb)
    rw [isBlock_levelOf] at this
    cases this
  by_cases h0 : a.ends = 0
  · rw [if_pos h0, lastKind] at hlead
    cases hx : l.last with
    | none =>
      rw [hx] at hlead
      cases hlead
    | some x =>
      rw [hx] at hlead
      exact hf.2 ⟨hd, hk, ⟨x, hx, hlead, hlast x hx⟩, ⟨b, hb, hc⟩⟩
  · rw [if_neg h0] at hlead
    cases hlead

/-- A token that comes at the column of a block continues it, but for a block scalar. -/
theorem continues (hf : l.Admits a) (hs : a.token.kind.isShown = true) (hd : l.depth = 0)
    (h : Accepts l.levels l.lastKind (a.tokens.map (·.kind) ++ kinds))
    (hlast : ∀ x ∈ l.last, x.start.offset < a.token.start.offset) {b : Block} (hb : (l.within a).head? = some b)
    (hc : b.column = a.token.start.column) :
    (OffSide.kindOf b).isContinuedBy a.token.kind.lexemeKind = true ∨
      a.token.kind.isBlockScalar = true ∧ b.isSequence = true := by
  obtain ⟨ha, -⟩ := accepts_arrival hf.1 h
  have hhead := head?_levelsWithin hd hb
  have hmissed := not_leads hf hd hlast hb hc
  have hnotflow : (l.levelsWithin a).head? ≠ some .flow := fun hflow => Nat.ne_of_gt (depth_pos_of_head? hflow) hd
  cases hk : a.token.kind with
  | streamStart | streamEnd | blockEnd => simp [hk, TokenKind.isShown] at hs
  -- No block goes on here, or none starts at the column of another.
  | directive | documentStart | documentEnd =>
    have := (hf.1.boundary hd (by rw [hk]; rfl)).1
    rw [this] at hb
    cases hb
  | blockSequenceStart | blockMappingStart =>
    have := hf.1.start (by rw [hk]; rfl) b hb
    omega
  | flowSequenceEnd | flowMappingEnd | flowEntry =>
    rw [hk] at ha
    exact absurd ha hnotflow
  -- Keys and values stand in mappings, entries in either.
  | key | value =>
    rw [hk] at ha
    left
    rw [OffSide.kindOf, isSequence_of_head?_levelsWithin hd hb ha]
    rfl
  | blockEntry =>
    left
    cases hq : b.isSequence <;> simp [OffSide.kindOf, hq, TokenKind.lexemeKind, OffSide.ContainerKind.isContinuedBy]
  | scalar value style =>
    by_cases hstyle : (TokenKind.scalar value style).isBlockScalar = true
    · cases hq : b.isSequence with
      | false =>
        left
        rw [OffSide.kindOf, hq]
        rfl
      | true => exact .inr ⟨hstyle, rfl⟩
    · rw [hk] at ha
      refine absurd ha (hmissed ?_)
      rw [hk]
      cases style <;> simp_all [TokenKind.isBlockScalar, TokenKind.isKeyable]
  | «alias» | anchor | tag | flowSequenceStart | flowMappingStart =>
    rw [hk] at ha
    exact absurd ha (hmissed (by rw [hk]; rfl))

end Yaml.Layout

namespace OffSide

variable {t : Text} {s : State} {l : Layout} {a : Arrival} {kinds : List TokenKind} {cs : List Container} {p : Piece}

/-- A state of the off-side rule at a layout of tokens. -/
structure Mirrors (s : State) (l : Layout) : Prop where
  containers : Matches s.containers l.blocks
  flowDepth : s.flowDepth = l.depth
  last : s.last = l.last.map (·.start.offset)
  passed : ∀ c ∈ s.containers, ∃ x ∈ l.last, c.offset ≤ x.start.offset

/-- A block scalar that starts in the column of the sequence it is in. -/
def IsFlush (l : Layout) (a : Arrival) : Prop :=
  a.token.kind.isBlockScalar = true ∧ (l.within a).head? = some ⟨true, a.token.start.column⟩

theorem Mirrors.leaveFlow (hm : Mirrors s l) (hf : l.Fits a) (hp : Tree.Shows t a.token p) : s.leaveFlow p = s := by
  rw [State.leaveFlow]
  split
  · next hs =>
    rw [hp.kind] at hs
    rw [← hf.depth_eq_zero hs, ← hm.flowDepth]
  · rfl

/-! ## Before a piece -/

theorem last_lt (hf : l.Fits a) (hne : ¬∃ x ∈ l.last, x.start.offset = a.token.start.offset) :
    ∀ x ∈ l.last, x.start.offset < a.token.start.offset := by
  intro x hx
  have hle := hf.order x hx
  have hne : x.start.offset ≠ a.token.start.offset := fun heq => hne ⟨x, hx, heq⟩
  unfold Token.IsBefore at hle
  omega

/-- When the off-side rule ends nothing before a piece. -/
theorem Mirrors.holds_iff (hm : Mirrors s l) (hp : Tree.Shows t a.token p) :
    (s.flowDepth > 0 || s.last == some p.start) = true ↔
      0 < l.depth ∨ ∃ x ∈ l.last, x.start.offset = a.token.start.offset := by
  rw [Bool.or_eq_true, decide_eq_true_eq, beq_iff_eq, hm.flowDepth, hm.last, hp.start, Option.map_eq_some_iff]
  rfl

theorem Mirrors.containers_passed (hm : Mirrors s l) (hp : Tree.Shows t a.token p)
    (hlast : ∀ x ∈ l.last, x.start.offset < a.token.start.offset) : ∀ c ∈ s.containers, c.offset < p.start := by
  intro c hc
  obtain ⟨x, hx, hle⟩ := hm.passed c hc
  rw [hp.start]
  exact Nat.lt_of_le_of_lt hle (hlast x hx)

theorem ends_eq_zero_of_holds (hf : l.Fits a) (h : 0 < l.depth ∨ ∃ x ∈ l.last, x.start.offset = a.token.start.offset) :
    a.ends = 0 := by
  rcases Nat.eq_zero_or_pos a.ends with h0 | hpos
  · exact h0
  · rcases h with hd | ⟨x, hx, heq⟩
    · exact (hf.flow hd).1
    · have := hf.fresh (.inl hpos) x hx
      omega

/-- At a boundary all containers end. -/
theorem Mirrors.closed_boundary (hm : Mirrors s l) (hf : l.Fits a) (hs : a.token.kind.isShown = true)
    (hp : Tree.Shows t a.token p) (hd : l.depth = 0) (ho : ∀ c ∈ s.containers, c.offset < p.start)
    (hbound : a.token.kind.isBoundary = true) :
    blockCount (closed p a.token.start.column s.containers) = a.ends ∧
      Matches (s.containers.drop (closed p a.token.start.column s.containers).length) (l.within a) := by
  obtain ⟨hnil, hcol⟩ := hf.boundary hd hbound
  have hcol : a.token.start.column = 0 := hcol fun hk => by
    rw [hk] at hs
    cases hs
  have hgo : ∀ kind : ContainerKind, kind.isContinuedBy p.kind = false := by
    intro kind
    rw [hp.kind]
    cases hk : a.token.kind <;> simp [hk, TokenKind.isBoundary, TokenKind.isShown] at hbound hs <;> cases kind <;> rfl
  obtain ⟨hcount, hrest⟩ := hm.containers.close_all ho hgo
  rw [hcol, hcount, hrest, hnil]
  exact ⟨Nat.le_antisymm (List.drop_eq_nil_iff.1 hnil) hf.ends_le, .nil⟩

/-- Inside blocks those containers end that are deeper. -/
theorem Mirrors.closed_inside (hm : Mirrors s l) (hf : l.Admits a) (hs : a.token.kind.isShown = true)
    (hp : Tree.Shows t a.token p) (h : Accepts l.levels l.lastKind (a.tokens.map (·.kind) ++ kinds)) (hd : l.depth = 0)
    (hlast : ∀ x ∈ l.last, x.start.offset < a.token.start.offset) (hbound : a.token.kind.isBoundary = false)
    (hflush : ¬IsFlush l a) :
    blockCount (closed p a.token.start.column s.containers) = a.ends ∧
      Matches (s.containers.drop (closed p a.token.start.column s.containers).length) (l.within a) := by
  refine hm.containers.close (hm.containers_passed hp hlast) hf.1.ends_le (hf.1.deeper hd hbound) fun b hb => ?_
  -- The block that stays is left of the token, or the token continues it.
  rcases Nat.lt_or_eq_of_le (hf.1.inside hd hbound b hb) with hlt | hcol
  · exact .inl hlt
  · refine .inr ⟨hcol, ?_⟩
    rw [hp.kind]
    refine (Layout.continues hf hs hd h hlast hb hcol).resolve_right fun hbad => hflush ⟨hbad.1, ?_⟩
    obtain ⟨isSequence, column⟩ := b
    obtain ⟨-, rfl⟩ := hbad
    rw [← hcol]
    exact hb

/-- The blocks that end before a piece are those that end before its token. -/
theorem Mirrors.closeBefore (hm : Mirrors s l) (hf : l.Admits a) (hs : a.token.kind.isShown = true)
    (hp : Tree.Shows t a.token p) (h : Accepts l.levels l.lastKind (a.tokens.map (·.kind) ++ kinds))
    (hflush : ¬IsFlush l a) :
    ∃ cs', s.closeBefore p a.token.start.column = (a.ends, { s with containers := cs' }) ∧ Matches cs' (l.within a) ∧
      ∀ c ∈ cs', c ∈ s.containers := by
  rw [State.closeBefore]
  split
  · next hskip =>
    have hends := ends_eq_zero_of_holds hf.1 ((hm.holds_iff hp).1 hskip)
    refine ⟨s.containers, by rw [hends], ?_, fun c hc => hc⟩
    rw [Layout.within, hends, List.drop_zero]
    exact hm.containers
  · next hskip =>
    rw [hm.holds_iff hp, not_or] at hskip
    have hd : l.depth = 0 := by omega
    have hlast := last_lt hf.1 hskip.2
    have hclosed : blockCount (closed p a.token.start.column s.containers) = a.ends ∧
        Matches (s.containers.drop (closed p a.token.start.column s.containers).length) (l.within a) := by
      cases hbound : a.token.kind.isBoundary with
      | true => exact hm.closed_boundary hf.1 hs hp hd (hm.containers_passed hp hlast) hbound
      | false => exact hm.closed_inside hf hs hp h hd hlast hbound hflush
    exact ⟨_, by rw [← hclosed.1]; rfl, hclosed.2, fun c hc => List.mem_of_mem_drop hc⟩

/-! ## After a piece -/

/-- A state after a piece mirrors the layout, and what it has more than `cs` starts at the piece. -/
structure Opens (cs : List Container) (p : Piece) (s : State) (l : Layout) : Prop where
  containers : Matches s.containers l.blocks
  flowDepth : s.flowDepth = l.depth
  fresh : ∀ c ∈ s.containers, c ∈ cs ∨ c.offset = p.start

theorem opens_same {depth : Nat} {last : Option Nat} (hcs : Matches cs (l.within a))
    (hs : a.token.kind.lexemeKind.isBlockStart = false)
    (hdepth : depth = Layout.depthAfter l.depth a.token.kind.lexemeKind) : Opens cs p ⟨cs, depth, last⟩ (l.after a) where
  containers := by
    rw [Layout.blocks_after_of_not_isBlockStart hs]
    exact hcs
  flowDepth := hdepth
  fresh _ hc := .inl hc

theorem opens_push {kind : ContainerKind} {column : Nat} (hs : s.containers = cs)
    (hcs : Matches (⟨kind, column, p.start⟩ :: cs) l.blocks) (hdepth : s.flowDepth = l.depth) :
    Opens cs p (s.push kind p column) l where
  containers := by
    rw [State.push, hs]
    exact hcs
  flowDepth := hdepth
  fresh c hc := by
    rw [State.push, hs] at hc
    rcases List.mem_cons.1 hc with rfl | hc
    · exact .inr rfl
    · exact .inl hc

/-- An entry opens an implicit sequence, unless it stands in a sequence. -/
theorem opens_blockEntry (hf : l.Fits a) (hd : l.depth = 0) (hk : a.token.kind = .blockEntry)
    (hdepth : s.flowDepth = l.depth) (hs : Matches s.containers (l.within a)) :
    Opens s.containers p (if continuesSequence s.containers a.token.start.column then s
      else s.push .implicitSequence p a.token.start.column) (l.after a) := by
  have hstart : a.token.kind.lexemeKind.isBlockStart = false := by rw [hk]; rfl
  have hafter : (l.after a).depth = l.depth := by
    rw [Layout.after, hk]
    rfl
  obtain ⟨b, hb, hcol⟩ := hf.indicator hd (by simp [Token.isIndicator, hk])
  split
  · exact opens_same hs hstart (hdepth.trans hafter.symm)
  · next hgo =>
    refine opens_push rfl ?_ (hdepth.trans hafter.symm)
    rw [Layout.blocks_after_of_not_isBlockStart hstart]
    refine hs.inside_head rfl hb ?_ hcol
    -- Over a sequence the entry would go on with it.
    refine Bool.eq_false_iff.2 fun hq => hgo ?_
    rw [← hcol]
    exact hs.continuesSequence hb hq

/-- A key opens a scope of its own if it has a mark. -/
theorem opens_key (hf : l.Fits a) (hd : l.depth = 0) (hp : Tree.Shows t a.token p) (hk : a.token.kind = .key)
    (hbound : a.token.stop.offset ≤ t.length) (ha : (l.levelsWithin a).head? ≠ some .sequence)
    (hdepth : s.flowDepth = l.depth) (hs : Matches s.containers (l.within a)) :
    Opens s.containers p (if p.start < p.stop then s.push .explicitKey p a.token.start.column else s) (l.after a) := by
  have hstart : a.token.kind.lexemeKind.isBlockStart = false := by rw [hk]; rfl
  have hafter : (l.after a).depth = l.depth := by
    rw [Layout.after, hk]
    rfl
  split
  · next hwide =>
    have hwide := (hp.wide hk hbound).1 hwide
    obtain ⟨b, hb, hcol⟩ := hf.indicator hd (by simp [Token.isIndicator, hk, hwide])
    refine opens_push rfl ?_ (hdepth.trans hafter.symm)
    rw [Layout.blocks_after_of_not_isBlockStart hstart]
    exact hs.inside_head rfl hb (Layout.isSequence_of_head?_levelsWithin hd hb ha) hcol
  · exact opens_same hs hstart (hdepth.trans hafter.symm)

/-- A block starts where its token does. -/
theorem opens_start {b : Block} (hdepth : s.flowDepth = l.depth) (hs : Matches s.containers (l.within a))
    (hopened : Layout.opened a.token = [b]) (hafter : Layout.depthAfter l.depth a.token.kind.lexemeKind = l.depth)
    {kind : ContainerKind} (hkind : kind = kindOf b) (hcol : b.column = a.token.start.column) :
    Opens s.containers p (s.push kind p a.token.start.column) (l.after a) := by
  refine opens_push rfl ?_ (hdepth.trans hafter.symm)
  rw [Layout.after, hopened, hkind, ← hcol]
  exact hs.block

/-- What a piece opens is what its token opens. -/
theorem opens_openAfter (hf : l.Fits a) (hs : a.token.kind.isShown = true)
    (hp : Tree.Shows t a.token p) (hbound : a.token.kind = .key → a.token.stop.offset ≤ t.length) {last : TokenKind}
    (ha : Allows (l.levelsWithin a) last a.token.kind) (hdepth : s.flowDepth = l.depth)
    (hcs : Matches s.containers (l.within a)) :
    Opens s.containers p (s.openAfter p a.token.start.column) (l.after a) := by
  have hsame : a.token.kind.lexemeKind.isBlockStart = false → Layout.depthAfter l.depth a.token.kind.lexemeKind = l.depth →
      Opens s.containers p s (l.after a) := fun hs hd => opens_same hcs hs (hdepth.trans hd.symm)
  have hzero : ¬s.flowDepth > 0 → l.depth = 0 := fun h => by omega
  rw [State.openAfter, hp.kind]
  cases hk : a.token.kind with
  | streamStart | streamEnd | blockEnd => simp [hk, TokenKind.isShown] at hs
  | flowSequenceStart | flowMappingStart | flowSequenceEnd | flowMappingEnd =>
    refine opens_same hcs (by rw [hk]; rfl) ?_
    rw [hdepth, hk]
    rfl
  | blockSequenceStart | blockMappingStart =>
    have hd : l.depth = 0 := hf.depth_eq_zero (by rw [hk]; rfl)
    simp only [TokenKind.lexemeKind, LexemeKind.isFlowStart, LexemeKind.isFlowEnd, if_false, Bool.false_eq_true, hdepth, hd,
      Nat.lt_irrefl, gt_iff_lt]
    exact opens_start hdepth hcs (by rw [Layout.opened, hk]) (by rw [hk]; rfl) rfl rfl
  | blockEntry =>
    simp only [TokenKind.lexemeKind, LexemeKind.isFlowStart, LexemeKind.isFlowEnd, if_false, Bool.false_eq_true]
    split
    · exact hsame (by rw [hk]; rfl) (by rw [hk]; rfl)
    · next hflow => exact opens_blockEntry hf (hzero hflow) hk hdepth hcs
  | key =>
    simp only [TokenKind.lexemeKind, LexemeKind.isFlowStart, LexemeKind.isFlowEnd, if_false, Bool.false_eq_true]
    split
    · exact hsame (by rw [hk]; rfl) (by rw [hk]; rfl)
    · next hflow =>
      rw [hk] at ha
      exact opens_key hf (hzero hflow) hp hk (hbound hk) ha hdepth hcs
  | _ =>
    simp only [TokenKind.lexemeKind, LexemeKind.isFlowStart, LexemeKind.isFlowEnd, if_false, Bool.false_eq_true, ite_self]
    exact hsame (by rw [hk]; rfl) (by rw [hk]; rfl)

/-! ## One piece -/

/-- One piece under the off-side rule, and its token. -/
theorem Mirrors.step (hm : Mirrors s l) (hf : l.Admits a) (hs : a.token.kind.isShown = true)
    (hp : Tree.Shows t a.token p) (hmark : a.token.start = (LineIndex.ofText t).mark a.token.start.offset)
    (hbound : a.token.kind = .key → a.token.stop.offset ≤ t.length)
    (h : Accepts l.levels l.lastKind (a.tokens.map (·.kind) ++ kinds)) (hflush : ¬IsFlush l a) :
    (OffSide.step (.ofText t) s p).1 = blockEnds (.ofText t) a.ends p.start ++ [lexeme (.ofText t) p] ∧
      Mirrors (OffSide.step (.ofText t) s p).2 (l.after a) := by
  obtain ⟨cs, hclose, hcs, hsub⟩ := hm.closeBefore hf hs hp h hflush
  obtain ⟨hcontainers, hdepth, hpassed⟩ := opens_openAfter (s := { s with containers := cs }) hf.1 hs hp hbound
    (Layout.accepts_arrival hf.1 h).1 hm.flowDepth hcs
  have hcol : (LineIndex.ofText t).column p.start = a.token.start.column := by
    rw [hp.start, LineIndex.column, ← hmark]
  rw [OffSide.step, hm.leaveFlow hf.1 hp, hcol, hclose]
  refine ⟨rfl, hcontainers, hdepth, ?_, fun c hc => ⟨a.token, rfl, ?_⟩⟩
  · rw [hp.start]
    rfl
  · rcases hpassed c hc with hc | heq
    · obtain ⟨x, hx, hle⟩ := hm.passed c (hsub c hc)
      have := hf.1.order x hx
      unfold Token.IsBefore at this
      omega
    · exact Nat.le_of_eq (heq.trans hp.start)

/-- Before a block scalar in the column of its sequence the off-side rule ends more blocks. -/
theorem Mirrors.step_of_isFlush (hm : Mirrors s l) (hf : l.Admits a) (hp : Tree.Shows t a.token p)
    (hmark : a.token.start = (LineIndex.ofText t).mark a.token.start.offset) (hflush : IsFlush l a) :
    ∃ k, a.ends < k ∧
      (OffSide.step (.ofText t) s p).1 = blockEnds (.ofText t) k p.start ++ [lexeme (.ofText t) p] := by
  obtain ⟨hscalar, hhead⟩ := hflush
  have hd := hf.1.blockScalar hscalar
  have hlast := hf.1.fresh (.inr hscalar)
  have hcol : (LineIndex.ofText t).column p.start = a.token.start.column := by
    rw [hp.start, LineIndex.column, ← hmark]
  have hopen : ¬(s.flowDepth > 0 || s.last == some p.start) = true := by
    rw [hm.holds_iff hp, not_or]
    refine ⟨by omega, ?_⟩
    rintro ⟨x, hx, heq⟩
    exact Nat.ne_of_lt (hlast x hx) heq
  have ho := hm.containers_passed hp hlast
  have hkind : a.token.kind.isBoundary = false ∧ a.token.kind.lexemeKind = .scalar := by
    cases hk : a.token.kind with
    | scalar => exact ⟨rfl, rfl⟩
    | _ =>
      rw [hk] at hscalar
      cases hscalar
  refine ⟨_, hm.containers.lt_blockCount ho (hf.1.deeper hd hkind.1) hhead rfl rfl ?_, ?_⟩
  · rw [hp.kind, hkind.2]
    rfl
  · rw [OffSide.step, hm.leaveFlow hf.1 hp, hcol, State.closeBefore, if_neg hopen]
    rfl

end OffSide

end YamlStyle
