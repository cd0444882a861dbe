import YamlStyle.Lint.Run
import YamlStyle.Lexeme.OffSide
import YamlStyle.Proofs.Lexeme.BlockEnds
import YamlStyle.Proofs.Yaml.Grammar

/-!
# Lexemes and tokens agree

The lexemes of a text without faults of syntax have the kinds and the places of its tokens, block
ends included, unless a block scalar starts in the column of the block sequence it is in: before
such a scalar the off-side rule ends the sequence, though it goes on.
-/

namespace YamlStyle

open Yaml (Accepts Arrival Block Layout Token TokenKind ending)

/-- What a lexeme is and where it starts. -/
def Lexeme.place (x : Lexeme) : LexemeKind × Nat := (x.kind, x.start.offset)

namespace Yaml

/-- What a token is and where it starts. -/
def Token.place (x : Token) : LexemeKind × Nat := (x.kind.lexemeKind, x.start.offset)

/-- The block collections that are open after a token. -/
def openAfter (blocks : List Block) (x : Token) : List Block :=
  if x.kind = .blockEnd then blocks.tail else Layout.opened x ++ blocks

/-- Whether, among tokens inside blocks, a block scalar starts in the column of the block sequence
it is in. -/
def hasFlushScalar : List Block → List Token → Bool
  | _, [] => false
  | blocks, x :: xs =>
    (x.kind.isBlockScalar && blocks.head? == some ⟨true, x.start.column⟩) || hasFlushScalar (openAfter blocks x) xs

theorem hasFlushScalar_blockEnds (blocks : List Block) (n : Nat) (m : Mark) (xs : List Token) :
    hasFlushScalar blocks (List.replicate n (.mark0 .blockEnd m) ++ xs) = hasFlushScalar (blocks.drop n) xs := by
  induction n generalizing blocks with
  | zero => rfl
  | succ n ih =>
    have hopen : openAfter blocks (.mark0 .blockEnd m) = blocks.tail := rfl
    rw [List.replicate_succ, List.cons_append, hasFlushScalar, hopen, ih, List.drop_tail]
    rfl

theorem hasFlushScalar_arrival (l : Layout) (a : Arrival) (h : a.token.kind ≠ .blockEnd) (xs : List Token) :
    hasFlushScalar l.blocks (a.tokens ++ xs) = true ↔
      OffSide.IsFlush l a ∨ hasFlushScalar (l.after a).blocks xs = true := by
  rw [Arrival.tokens, List.append_assoc, hasFlushScalar_blockEnds, List.singleton_append, hasFlushScalar, openAfter,
    if_neg h, Bool.or_eq_true, Bool.and_eq_true, beq_iff_eq]
  rfl

end Yaml

namespace OffSide

variable {t : Text} {s : State} {l : Layout}

theorem place_blockEnds (k offset : Nat) :
    (blockEnds (.ofText t) k offset).map Lexeme.place = List.replicate k (.blockEnd, offset) := by
  rw [blockEnds, List.map_replicate]
  rfl

theorem place_tokens (a : Arrival) :
    a.tokens.map Token.place = List.replicate a.ends (.blockEnd, a.token.start.offset) ++ [a.token.place] := by
  rw [Arrival.tokens, List.map_append, List.map_replicate]
  rfl

theorem place_lexeme {x : Token} {p : Piece} (h : Tree.Shows t x p) : (lexeme (.ofText t) p).place = x.place := by
  rw [Lexeme.place, Token.place, ← h.kind, ← h.start]
  rfl

/-- More block ends before a token are a difference. -/
theorem replicate_append_ne {α : Type} {m n : Nat} {x y : α} {xs ys : List α} (h : m < n) (hne : x ≠ y) :
    List.replicate n x ++ xs ≠ List.replicate m x ++ y :: ys := by
  obtain ⟨k, rfl⟩ := Nat.exists_eq_add_of_lt h
  rw [Nat.add_assoc, ← List.replicate_append_replicate, List.append_assoc]
  intro heq
  rw [List.append_cancel_left_eq, List.replicate_succ, List.cons_append, List.cons.injEq] at heq
  exact hne heq.1

/-- At the end of the stream all blocks end. -/
theorem run_nil_agrees {n : Nat} (hm : Mirrors s l) (hf : l.Fits (ending t n))
    (h : Accepts l.levels l.lastKind ((ending t n).tokens.map (·.kind) ++ [])) :
    (run (.ofText t) t.length s []).map Lexeme.place = List.replicate n (.blockEnd, t.length) := by
  have hlevels : l.levelsWithin (ending t n) = [] := (Layout.accepts_arrival hf h).1
  rw [Layout.levelsWithin, List.append_eq_nil_iff, List.replicate_eq_nil_iff] at hlevels
  have hnil := (hf.boundary hlevels.1 rfl).1
  have hle : n ≤ l.blocks.length := hf.ends_le
  have hge : l.blocks.length ≤ n := List.drop_eq_nil_iff.1 hnil
  rw [run, place_blockEnds, hm.containers.blockCount_eq, Nat.le_antisymm hge hle]

/-- The off-side rule puts block ends where the tokens have them up to the first block scalar in
the column of its sequence, and only up to there. -/
theorem run_agrees_iff {init : List Arrival} {n : Nat} (hm : Mirrors s l)
    (hw : Layout.Walks Layout.Admits l (init ++ [ending t n]))
    (hshown : ∀ a ∈ init, a.token.kind.isShown = true)
    (hmarked : ∀ a ∈ init, a.token.start = (LineIndex.ofText t).mark a.token.start.offset)
    (hbounded : ∀ a ∈ init, a.token.kind = .key → a.token.stop.offset ≤ t.length)
    (h : Accepts l.levels l.lastKind (((init ++ [ending t n]).flatMap Arrival.tokens).map (·.kind))) :
    (run (.ofText t) t.length s (init.filterMap fun a => Tree.pieceOf? t a.token)).map Lexeme.place ++
        [(.streamEnd, t.length)] = ((init ++ [ending t n]).flatMap Arrival.tokens).map Token.place ↔
      Yaml.hasFlushScalar l.blocks ((init ++ [ending t n]).flatMap Arrival.tokens) = false := by
  induction init generalizing s l with
  | nil =>
    rw [List.nil_append, List.flatMap_cons, List.flatMap_nil] at h ⊢
    rw [List.map_append] at h
    rw [List.filterMap_nil, run_nil_agrees hm hw.1.1 h, List.append_nil, place_tokens]
    refine iff_of_true rfl ?_
    rw [Arrival.tokens, ending, Yaml.hasFlushScalar_blockEnds]
    rfl
  | cons a init ih =>
    have hs := hshown a (by simp)
    obtain ⟨p, hpiece⟩ := Tree.exists_pieceOf? (t := t) hs
    have hp := Tree.shows_of_pieceOf? hpiece
    have hpieces : (a :: init).filterMap (fun a => Tree.pieceOf? t a.token) =
        p :: init.filterMap fun a => Tree.pieceOf? t a.token := by
      rw [List.filterMap_cons, hpiece]
    have hmark := hmarked a (by simp)
    have hne : a.token.kind ≠ .blockEnd := by
      intro hk
      rw [hk] at hs
      cases hs
    rw [List.cons_append, List.flatMap_cons, List.map_append] at h
    rw [List.cons_append, List.flatMap_cons, hpieces, run, List.map_append, List.map_append,
      ← Bool.not_eq_true, Yaml.hasFlushScalar_arrival l a hne, place_tokens]
    by_cases hflush : IsFlush l a
    -- The lexemes have a block end where the tokens have the scalar.
    · refine iff_of_false ?_ fun hno => hno (.inl hflush)
      obtain ⟨k, hk, hstep⟩ := hm.step_of_isFlush hw.1 hp hmark hflush
      rw [hstep, List.map_append, place_blockEnds, hp.start, List.append_assoc, List.append_assoc, List.append_assoc,
        List.singleton_append]
      refine replicate_append_ne hk fun heq => ?_
      obtain ⟨hscalar, -⟩ := hflush
      have hkind : LexemeKind.blockEnd = a.token.kind.lexemeKind := congrArg Prod.fst heq
      cases hk' : a.token.kind <;> rw [hk'] at hkind hscalar <;> first | cases hscalar | cases hkind
    -- The step agrees, and the rest decides.
    · obtain ⟨hstep, hm'⟩ := hm.step hw.1 hs hp hmark (hbounded a (by simp)) h hflush
      have hrest := ih hm' hw.2 (fun b hb => hshown b (by simp [hb])) (fun b hb => hmarked b (by simp [hb]))
        (fun b hb => hbounded b (by simp [hb])) (Layout.accepts_after hw.1.1 hs h)
      rw [hstep, List.map_append, place_blockEnds, hp.start, List.map_singleton, place_lexeme hp, List.append_assoc,
        List.append_cancel_left_eq, hrest, or_iff_right hflush, Bool.not_eq_true]

end OffSide

/-! ## Texts -/

/-- A text has no fault of syntax if it has all its events. -/
theorem Lint.syntaxError_eq_none_iff {t : Text} :
    (syntaxError t).outcome = .ok none ↔ (Yaml.EventStream.ofText t).failure = none := by
  rw [syntaxError]
  cases (Yaml.EventStream.ofText t).failure with
  | none => exact iff_of_true rfl rfl
  | some f =>
    refine iff_of_false ?_ (Option.some_ne_none f)
    dsimp only
    cases f.summary? t <;> exact fun h => by cases h

namespace Lexeme

/-- The lexemes of a text that has all its events. -/
theorem places_agree_iff {t : Text} (ht : t.IsRegular) (hf : (Yaml.EventStream.ofText t).failure = none) :
    (Yaml.TokenStream.ofText t).failure = none ∧ ∃ xs, (ofText t).outcome = .ok xs ∧
      (xs.map place = (Yaml.TokenStream.ofText t).tokens.map (·.token.place) ↔
        Yaml.hasFlushScalar [] ((Yaml.TokenStream.ofText t).tokens.map (·.token)) = false) := by
  obtain ⟨hnone, as, h, haccepts⟩ := Yaml.scanned_of_events ht hf
  obtain ⟨root, hroot, hpieces⟩ := Tree.pieces_build hnone h h.fits
  obtain ⟨init, n, rfl, hshown⟩ := h.ended
  have hdepth := Layout.depth_eq_zero_of_accepts h.fits hshown haccepts
  have hmirrors : OffSide.Mirrors .start .start := ⟨.nil, rfl, rfl, fun c hc => by simp [OffSide.State.start] at hc⟩
  have hrun := OffSide.run_agrees_iff hmirrors (h.walks hdepth) hshown
    (fun a ha => h.marked a (List.mem_append_left _ ha)) (fun a ha => h.bounded a (List.mem_append_left _ ha)) haccepts
  refine ⟨hnone, ofTree t root, by rw [ofText, hroot]; rfl, ?_⟩
  have hlast : [ending t n].filterMap (fun a => Tree.pieceOf? t a.token) = [] := by
    rw [List.filterMap_cons, Tree.pieceOf?_eq_none rfl, List.filterMap_nil]
  have hplaces : (Yaml.TokenStream.ofText t).tokens.map (·.token.place) =
      ((Yaml.TokenStream.ofText t).tokens.map (·.token)).map Token.place := by
    rw [List.map_map]
    rfl
  have hplace : Token.place Yaml.streamStart = (.streamStart, 0) := rfl
  have hflush : ∀ xs, Yaml.hasFlushScalar [] (Yaml.streamStart :: xs) = Yaml.hasFlushScalar [] xs := fun _ => rfl
  rw [List.filterMap_append, hlast, List.append_nil] at hpieces
  rw [ofTree, hpieces, hplaces, h.tokens, hflush, List.map_cons, List.map_cons, List.map_append, hplace]
  refine Iff.trans ?_ hrun
  exact List.cons_inj_right (LexemeKind.streamStart, 0)

/-- A text without faults of syntax has lexemes where its tokens are, block ends included, exactly
if no block scalar starts in the column of the block sequence it is in. -/
theorem ofText_places_iff {t : Text} (ht : t.IsRegular) (hs : (Lint.syntaxError t).outcome = .ok none) :
    (Yaml.TokenStream.ofText t).failure = none ∧ ∃ xs, (ofText t).outcome = .ok xs ∧
      (xs.map place = (Yaml.TokenStream.ofText t).tokens.map (·.token.place) ↔
        Yaml.hasFlushScalar [] ((Yaml.TokenStream.ofText t).tokens.map (·.token)) = false) :=
  places_agree_iff ht (Lint.syntaxError_eq_none_iff.1 hs)

/-- A sequence of a mapping at its own column, and a block scalar further in. -/
theorem ofText_places_nested :
    let t : Text := "a:\n- b: |\n   c\n- d\n".toList
    t.IsRegular ∧ (Lint.syntaxError t).outcome = .ok none ∧
      ∃ xs, (ofText t).outcome = .ok xs ∧ xs.map place = (Yaml.TokenStream.ofText t).tokens.map (·.token.place) := by
  intro t
  have ht : t.IsRegular := .of_not_mem (by decide +kernel) (by decide +kernel)
  have hs : (Lint.syntaxError t).outcome = .ok none :=
    Lint.syntaxError_eq_none_iff.2 (Option.isNone_iff_eq_none.1 (by decide +kernel))
  obtain ⟨-, xs, hxs, hiff⟩ := ofText_places_iff ht hs
  exact ⟨ht, hs, xs, hxs, hiff.2 (by decide +kernel)⟩

/-- The scalar stands at the column of the dash: the lexemes end the sequence before it, the tokens
after it. -/
theorem ofText_places_flush :
    let t : Text := "-\n|\n a\n".toList
    t.IsRegular ∧ (Lint.syntaxError t).outcome = .ok none ∧
      ∃ xs, (ofText t).outcome = .ok xs ∧ xs.map place ≠ (Yaml.TokenStream.ofText t).tokens.map (·.token.place) := by
  intro t
  have ht : t.IsRegular := .of_not_mem (by decide +kernel) (by decide +kernel)
  have hf : (Yaml.EventStream.ofText t).failure = none := Option.isNone_iff_eq_none.1 (by decide +kernel)
  obtain ⟨-, xs, hxs, hiff⟩ := places_agree_iff ht hf
  refine ⟨ht, Lint.syntaxError_eq_none_iff.2 hf, xs, hxs, fun heq => ?_⟩
  have hno := hiff.1 heq
  exact absurd hno (by decide +kernel)

end Lexeme

end YamlStyle
