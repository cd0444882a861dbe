import YamlStyle.Proofs.Yaml.Grammar
import YamlStyle.Proofs.Yaml.Scanned

/-!
# Levels of a layout

The collections that the grammar keeps count of are the blocks and the flow collections of the
layout of the tokens.
-/

namespace YamlStyle.Yaml

namespace Layout

variable {l : Layout} {a : Arrival} {kinds : List TokenKind}

def levelOf (b : Block) : Level := if b.isSequence then .sequence else .mapping

/-- The collections that are open: flow collections stand inside all blocks. -/
def levels (l : Layout) : List Level := List.replicate l.depth .flow ++ l.blocks.map levelOf

/-- The kind of the last token; at the start that of the start of the stream. -/
def lastKind (l : Layout) : TokenKind := (l.last.map (·.kind)).getD .streamStart

/-- The levels around the token of an arrival. -/
def levelsWithin (l : Layout) (a : Arrival) : List Level := List.replicate l.depth .flow ++ (l.within a).map levelOf

theorem accepts_blockEnds {levels : List Level} {last : TokenKind} {n : Nat}
    (h : Accepts levels last (List.replicate n .blockEnd ++ kinds)) :
    Accepts (levels.drop n) (if n = 0 then last else .blockEnd) kinds := by
  induction n generalizing levels last with
  | zero => simpa using h
  | succ n ih =>
    obtain ⟨-, h⟩ := h
    have := ih (h.resolve_left (by simp))
    rw [if_neg (Nat.succ_ne_zero n)]
    rw [levelsAfter, List.drop_tail] at this
    cases n <;> simpa using this

theorem kinds_tokens (a : Arrival) :
    a.tokens.map (·.kind) = List.replicate a.ends .blockEnd ++ [a.token.kind] := by
  simp [Arrival.tokens, Token.mark0]

/-- What the grammar asks of the token of an arrival. -/
theorem accepts_arrival (hf : l.Fits a) (h : Accepts l.levels l.lastKind (a.tokens.map (·.kind) ++ kinds)) :
    Allows (l.levelsWithin a) (if a.ends = 0 then l.lastKind else .blockEnd) a.token.kind ∧
      (a.token.kind = .streamEnd ∨ Accepts (levelsAfter (l.levelsWithin a) a.token.kind) a.token.kind kinds) := by
  have hdrop : l.levels.drop a.ends = l.levelsWithin a := by
    rcases Nat.eq_zero_or_pos l.depth with hd | hd
    · simp [levels, levelsWithin, within, hd]
    · simp [levels, levelsWithin, within, (hf.flow hd).1]
  rw [kinds_tokens, List.append_assoc] at h
  have := accepts_blockEnds h
  rw [hdrop] at this
  exact this

theorem isBlock_levelOf (b : Block) : (levelOf b).isBlock = true := by
  cases h : b.isSequence <;> simp [levelOf, h, Level.isBlock]

/-- A flow collection that the grammar sees is one of the layout. -/
theorem depth_pos_of_head? (h : (l.levelsWithin a).head? = some .flow) : 0 < l.depth := by
  rcases Nat.eq_zero_or_pos l.depth with hd | hd
  · exfalso
    rw [levelsWithin, hd, List.replicate_zero, List.nil_append, List.head?_map, Option.map_eq_some_iff] at h
    obtain ⟨b, -, hb⟩ := h
    have := isBlock_levelOf b
    rw [hb] at this
    cases this
  · exact hd

/-- The block around a token is the level around it, outside flow collections. -/
theorem head?_levelsWithin (hd : l.depth = 0) {b : Block} (hb : (l.within a).head? = some b) :
    (l.levelsWithin a).head? = some (levelOf b) := by
  rw [levelsWithin, hd, List.replicate_zero, List.nil_append, List.head?_map, hb, Option.map_some]

theorem isSequence_of_head?_levelsWithin (hd : l.depth = 0) {b : Block} (hb : (l.within a).head? = some b)
    (h : (l.levelsWithin a).head? ≠ some .sequence) : b.isSequence = false := by
  refine Bool.eq_false_iff.2 fun hq => h ?_
  rw [head?_levelsWithin hd hb, levelOf, if_pos hq]

theorem levels_after_flowEnd (hd : depthAfter l.depth a.token.kind.lexemeKind = l.depth - 1)
    (hs : a.token.kind.lexemeKind.isBlockStart = false) (ha : (l.levelsWithin a).head? = some .flow) :
    (l.after a).levels = (l.levelsWithin a).tail := by
  obtain ⟨d, hd'⟩ := Nat.exists_eq_succ_of_ne_zero (Nat.ne_of_gt (depth_pos_of_head? ha))
  have hdepth : (l.after a).depth = d := by
    rw [after, hd, hd']
    rfl
  rw [levels, levelsWithin, blocks_after_of_not_isBlockStart hs, hdepth, hd']
  rfl

/-- The levels after an arrival are those that the grammar sees. -/
theorem levels_after (hf : l.Fits a) (hs : a.token.kind.isShown = true) {last : TokenKind}
    (ha : Allows (l.levelsWithin a) last a.token.kind) :
    (l.after a).levels = levelsAfter (l.levelsWithin a) a.token.kind := by
  have hplain : a.token.kind.lexemeKind.isBlockStart = false →
      depthAfter l.depth a.token.kind.lexemeKind = l.depth → (l.after a).levels = l.levelsWithin a := by
    intro hs hd
    have hdepth : (l.after a).depth = l.depth := hd
    rw [levels, levelsWithin, blocks_after_of_not_isBlockStart hs, hdepth]
  cases hk : a.token.kind with
  | streamStart | streamEnd | blockEnd => simp [hk, TokenKind.isShown] at hs
  | blockSequenceStart | blockMappingStart =>
    have hd := hf.depth_eq_zero (by rw [hk]; rfl)
    simp [levels, levelsWithin, after, opened, hk, hd, depthAfter, TokenKind.lexemeKind, LexemeKind.isFlowStart,
      LexemeKind.isFlowEnd, levelOf, levelsAfter]
  | flowSequenceStart | flowMappingStart =>
    simp [levels, levelsWithin, after, opened, hk, depthAfter, TokenKind.lexemeKind, LexemeKind.isFlowStart,
      levelsAfter, List.replicate_succ]
  | flowSequenceEnd | flowMappingEnd =>
    rw [hk] at ha
    exact levels_after_flowEnd (by rw [hk]; rfl) (by rw [hk]; rfl) ha
  | _ => exact hplain (by rw [hk]; rfl) (by rw [hk]; rfl)

theorem accepts_after (hf : l.Fits a) (hs : a.token.kind.isShown = true)
    (h : Accepts l.levels l.lastKind (a.tokens.map (·.kind) ++ kinds)) :
    Accepts (l.after a).levels (l.after a).lastKind kinds := by
  obtain ⟨ha, h⟩ := accepts_arrival hf h
  rw [levels_after hf hs ha]
  refine h.resolve_left fun hend => ?_
  rw [hend] at hs
  cases hs

/-- At the end of the stream that the grammar accepts no collection is open. -/
theorem depth_eq_zero_of_accepts {t : Text} {init : List Arrival} {n : Nat} (hw : Walks Fits l (init ++ [ending t n]))
    (hs : ∀ a ∈ init, a.token.kind.isShown = true)
    (h : Accepts l.levels l.lastKind (((init ++ [ending t n]).flatMap Arrival.tokens).map (·.kind))) :
    (l.afterAll (init ++ [ending t n])).depth = 0 := by
  induction init generalizing l with
  | nil =>
    rw [List.nil_append, List.flatMap_cons, List.map_append] at h
    have hlevels : l.levelsWithin (ending t n) = [] := (accepts_arrival hw.1 h).1
    rw [levelsWithin, List.append_eq_nil_iff, List.replicate_eq_nil_iff] at hlevels
    exact hlevels.1
  | cons a init ih =>
    rw [List.cons_append, List.flatMap_cons, List.map_append] at h
    rw [List.cons_append, afterAll_cons]
    exact ih hw.2 (fun b hb => hs b (by simp [hb])) (accepts_after hw.1 (hs a (by simp)) h)

end Layout

/-! ## A text that has all its events -/

theorem Accepts.mem_streamEnd {levels : List Level} {last : TokenKind} {kinds : List TokenKind}
    (h : Accepts levels last kinds) : TokenKind.streamEnd ∈ kinds := by
  induction kinds generalizing levels last with
  | nil => exact h.elim
  | cons kind kinds ih =>
    obtain ⟨-, rfl | hrest⟩ := h
    · exact List.mem_cons_self
    · exact List.mem_cons_of_mem _ (ih hrest)

/-- The scan of a text that has all its events reads to its end, and the grammar accepts what it
reads. -/
theorem scanned_of_events {t : Text} (ht : t.IsRegular) (hf : (EventStream.ofText t).failure = none) :
    (TokenStream.ofText t).failure = none ∧ ∃ as, Scanned t as ((TokenStream.ofText t).tokens.map (·.token)) ∧
      Accepts [] .streamStart ((as.flatMap Arrival.tokens).map (·.kind)) := by
  have hsettled := TokenStream.settled_ofText ht
  have htail : ∀ as, Scanned t as ((TokenStream.ofText t).tokens.map (·.token)) →
      (TokenStream.ofText t).tokens.tail.map (·.token) = as.flatMap Arrival.tokens := by
    intro as h
    rw [List.map_tail, h.tokens, List.tail_cons]
  have haccepts := accepts_of_events hf fun hnone => by
    obtain ⟨as, h⟩ := hsettled.scanned hnone
    obtain ⟨init, n, rfl, -⟩ := h.ended
    have hmem : (ending t n).token ∈ (TokenStream.ofText t).tokens.tail.map (·.token) := by
      rw [htail _ h]
      simp [Arrival.tokens]
    obtain ⟨r, hr, heq⟩ := List.mem_map.1 hmem
    exact ⟨r, hr, by rw [heq]; rfl⟩
  have hnone : (TokenStream.ofText t).failure = none := by
    refine Decidable.by_contra fun hne => ?_
    obtain ⟨r, hr, hend⟩ := List.mem_map.1 haccepts.mem_streamEnd
    exact hsettled.unended hne r (List.mem_of_mem_tail hr) hend
  obtain ⟨as, h⟩ := hsettled.scanned hnone
  refine ⟨hnone, as, h, ?_⟩
  rw [← htail as h, List.map_map]
  exact haccepts

end YamlStyle.Yaml

/-!
## What comes after the content of a node

Outside flow collections the grammar takes nothing after the content of a node that would begin another node: what comes
next, ends of blocks apart, goes on with a block, ends a document, or is a directive.
-/

namespace YamlStyle.Yaml

/-! ### One token after another -/

/-- Where no node may start, only closers, directives and the indicators of flow collections may come. -/
theorem isCloser_of_allows {levels : List Level} {last kind : TokenKind} (h : Allows levels last kind)
    (hlast : ¬Leads levels last) (hlevels : levels.head? ≠ some .flow) :
    kind.isCloser = true ∨ ∃ d, kind = .directive d := by
  cases kind with
  | streamStart => exact h.elim
  | directive d => exact .inr ⟨d, rfl⟩
  | flowEntry | flowSequenceEnd | flowMappingEnd => exact absurd h hlevels
  | «alias» | anchor | tag | scalar | flowSequenceStart | flowMappingStart | blockSequenceStart | blockMappingStart =>
    exact absurd h hlast
  | _ => exact .inl rfl

namespace Layout

variable {l : Layout} {as bs : List Arrival}

/-- The grammar goes on with what comes after arrivals. -/
theorem accepts_afterAll (hw : Walks Fits l as) (hs : ∀ a ∈ as, a.token.kind.isShown = true)
    (h : Accepts l.levels l.lastKind (((as ++ bs).flatMap Arrival.tokens).map (·.kind))) :
    Accepts (l.afterAll as).levels (l.afterAll as).lastKind ((bs.flatMap Arrival.tokens).map (·.kind)) := by
  induction as generalizing l with
  | nil => exact h
  | cons a as ih =>
    rw [List.cons_append, List.flatMap_cons, List.map_append] at h
    exact ih hw.2 (fun b hb => hs b (.tail _ hb)) (accepts_after hw.1 (hs a (.head _)) h)

end Layout

/-! ### Arrivals -/

/-- The arrival of a token among tokens. -/
theorem exists_arrival {as : List Arrival} {ys zs : List Token} {y : Token} (hy : y.kind ≠ .blockEnd)
    (h : as.flatMap Arrival.tokens = ys ++ y :: zs) : ∃ as₁ a as₂, as = as₁ ++ a :: as₂ ∧ a.token = y ∧
      ys = as₁.flatMap Arrival.tokens ++ List.replicate a.ends (.mark0 .blockEnd a.token.start) ∧
      zs = as₂.flatMap Arrival.tokens := by
  induction as generalizing ys with
  | nil => simp at h
  | cons a as ih =>
    rw [List.flatMap_cons] at h
    rcases List.append_eq_append_iff.1 h with ⟨more, rfl, hrest⟩ | ⟨more, htokens, hrest⟩
    · obtain ⟨as₁, b, as₂, rfl, hb, rfl, rfl⟩ := ih hrest
      exact ⟨a :: as₁, b, as₂, rfl, hb, by rw [List.flatMap_cons, List.append_assoc], rfl⟩
    · cases more with
      | nil =>
        have hrest : as.flatMap Arrival.tokens = [] ++ y :: zs := hrest.symm
        obtain ⟨as₁, b, as₂, rfl, hb, hys, rfl⟩ := ih hrest
        refine ⟨a :: as₁, b, as₂, rfl, hb, ?_, rfl⟩
        rw [List.flatMap_cons, List.append_assoc, ← hys, List.append_nil, htokens, List.append_nil]
      | cons z more =>
        obtain ⟨rfl, rfl⟩ := List.cons.inj hrest
        -- Among the tokens of an arrival only the last is no end of a block.
        rw [Arrival.tokens] at htokens
        rcases List.append_eq_append_iff.1 htokens with ⟨rest, rfl, hlast⟩ | ⟨rest, hends, hlast⟩
        · cases rest with
          | nil =>
            obtain ⟨htoken, rfl⟩ := List.cons.inj hlast
            exact ⟨[], a, as, rfl, htoken, by rw [List.append_nil]; rfl, rfl⟩
          | cons w rest => simp at hlast
        · cases rest with
          | nil =>
            obtain ⟨htoken, rfl⟩ := List.cons.inj hlast.symm
            refine ⟨[], a, as, rfl, htoken, ?_, rfl⟩
            rw [hends, List.append_nil]
            rfl
          | cons w rest =>
            have hmem : w ∈ List.replicate a.ends (Token.mark0 .blockEnd a.token.start) := by rw [hends]; simp
            rw [← (List.cons.inj hlast).1] at hmem
            exact absurd (congrArg Token.kind (List.eq_of_mem_replicate hmem)) hy

/-! ### Depths -/

/-- In how many flow collections is what comes after these tokens. -/
def flowDepth (xs : List Token) : Nat := (xs.map (·.kind.lexemeKind)).foldl Layout.depthAfter 0

theorem foldl_blockEnds (n depth : Nat) :
    (List.replicate n LexemeKind.blockEnd).foldl Layout.depthAfter depth = depth := by
  induction n with
  | zero => rfl
  | succ n ih => rwa [List.replicate_succ, List.foldl_cons]

theorem foldl_tokens (l : Layout) (as : List Arrival) :
    ((as.flatMap Arrival.tokens).map (·.kind.lexemeKind)).foldl Layout.depthAfter l.depth = (l.afterAll as).depth := by
  induction as generalizing l with
  | nil => rfl
  | cons a as ih =>
    have hdepth : (a.tokens.map (·.kind.lexemeKind)).foldl Layout.depthAfter l.depth = (l.after a).depth := by
      rw [Arrival.tokens, List.map_append, List.map_replicate, List.foldl_append, Token.mark0, TokenKind.lexemeKind,
        foldl_blockEnds]
      rfl
    rw [List.flatMap_cons, List.map_append, List.foldl_append, hdepth]
    exact ih (l.after a)

/-! ### Texts -/

theorem not_leads_of_scalar {levels : List Level} {kind : TokenKind} (h : kind.lexemeKind = .scalar ∨ kind = .blockEnd) :
    ¬Leads levels kind := by
  rcases h with h | rfl
  · cases kind with
    | scalar => rintro (h | ⟨h, -⟩) <;> cases h
    | _ => cases h
  · rintro (h | ⟨h, -⟩) <;> cases h

theorem exists_of_ne_last {α : Type} {xs ys init : List α} {x e : α} (h : xs ++ x :: ys = init ++ [e]) (hne : x ≠ e) :
    ∃ more, init = xs ++ x :: more ∧ ys = more ++ [e] := by
  rcases List.eq_nil_or_concat ys with rfl | ⟨more, e', rfl⟩
  · exact absurd (List.cons.inj (List.append_inj' h rfl).2).1 hne
  · rw [List.concat_eq_append, ← List.cons_append, ← List.append_assoc] at h
    obtain ⟨hinit, hlast⟩ := List.append_inj' h rfl
    exact ⟨more, hinit.symm, by rw [List.concat_eq_append, hlast]⟩

/-- After a scalar outside flow collections. -/
theorem depth_afterAll_scalar {as : List Arrival} {a : Arrival} (hscalar : a.token.kind.lexemeKind = .scalar)
    (hdepth : flowDepth (streamStart :: (as.flatMap Arrival.tokens ++
      List.replicate a.ends (.mark0 .blockEnd a.token.start))) = 0) : (Layout.start.afterAll (as ++ [a])).depth = 0 := by
  rw [flowDepth, List.map_cons, List.map_append, List.map_replicate, List.foldl_cons, List.foldl_append] at hdepth
  have hsame := foldl_blockEnds a.ends
  simp only [Token.mark0, TokenKind.lexemeKind, hsame] at hdepth
  have hbefore : (Layout.start.afterAll as).depth = 0 := (foldl_tokens .start as).symm.trans hdepth
  rw [Layout.afterAll_append, Layout.afterAll_cons, Layout.afterAll_nil, Layout.after, hbefore, hscalar]
  rfl

/-- After a scalar of an accepted text, outside flow collections, no node begins. -/
theorem exists_next_of_scalar {t : Text} (ht : t.IsRegular) (hf : (EventStream.ofText t).failure = none)
    {pre post : List Token}
    {y : Token} (htokens : (TokenStream.ofText t).tokens.map (·.token) = pre ++ y :: post) (hy : y.kind.lexemeKind = .scalar)
    (hdepth : flowDepth pre = 0) : ∃ n m x rest, post = List.replicate n (.mark0 .blockEnd m) ++ x :: rest ∧
      x.kind ≠ .blockEnd ∧
      (x.kind.isCloser = true ∨ ∃ d, x.kind = .directive d) := by
  obtain ⟨-, as, hscanned, haccepts⟩ := scanned_of_events ht hf
  have hend : y.kind ≠ .blockEnd := fun h => by rw [h] at hy; cases hy
  obtain ⟨pre, rfl⟩ : ∃ more, pre = streamStart :: more := by
    rw [hscanned.tokens] at htokens
    cases pre with
    | nil =>
      rw [← (List.cons.inj htokens).1] at hy
      cases hy
    | cons x more => exact ⟨more, by rw [(List.cons.inj htokens).1]⟩
  rw [hscanned.tokens] at htokens
  obtain ⟨as₁, a, as₂, rfl, rfl, rfl, rfl⟩ := exists_arrival hend (List.cons.inj htokens).2
  -- Something comes after the scalar, the end of the stream at the latest.
  obtain ⟨init, n, hinit, hshown⟩ := hscanned.ended
  obtain ⟨more, rfl, rfl⟩ := exists_of_ne_last hinit fun h => by rw [h] at hy; cases hy
  obtain ⟨b, as₃, hb⟩ := List.exists_cons_of_ne_nil (List.append_ne_nil_of_right_ne_nil more
    (List.cons_ne_nil (ending t n) []))
  have hsplit : as₁ ++ a :: (more ++ [ending t n]) = (as₁ ++ [a]) ++ (b :: as₃) := by rw [hb]; simp
  rw [hsplit] at haccepts
  have hfits := hscanned.fits
  rw [hsplit, Layout.walks_append] at hfits
  have hnext := Layout.accepts_afterAll (l := .start) hfits.1 (fun c hc => hshown c (by
    rcases List.mem_append.1 hc with hc | hc
    · exact List.mem_append_left _ hc
    · rw [List.mem_singleton.1 hc]
      simp)) haccepts
  rw [List.flatMap_cons, List.map_append] at hnext
  have hallows := (Layout.accepts_arrival hfits.2.1 hnext).1
  have hlast : (Layout.start.afterAll (as₁ ++ [a])).lastKind = a.token.kind := by
    rw [Layout.lastKind, Layout.last_afterAll_concat]
    rfl
  have hflow := depth_afterAll_scalar hy hdepth
  refine ⟨b.ends, b.token.start, b.token, as₃.flatMap Arrival.tokens, ?_, ?_, isCloser_of_allows hallows ?_ ?_⟩
  · rw [hb, List.flatMap_cons, Arrival.tokens, List.append_assoc]
    rfl
  · intro hkind
    have hmem : b ∈ more ++ [ending t n] := hb ▸ .head _
    rcases List.mem_append.1 hmem with hmem | hmem
    · have := hshown b (List.mem_append_right _ (.tail _ hmem))
      rw [hkind] at this
      cases this
    · rw [List.mem_singleton.1 hmem] at hkind
      cases hkind
  · refine not_leads_of_scalar ?_
    rw [hlast]
    split
    · exact .inl hy
    · exact .inr rfl
  · intro hhead
    have := Layout.depth_pos_of_head? hhead
    omega

end YamlStyle.Yaml
