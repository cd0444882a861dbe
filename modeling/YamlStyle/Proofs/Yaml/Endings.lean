import YamlStyle.Proofs.Lexeme.Agreement

/-!
# What a scan adds

The tokens that a step of a scan adds are of certain kinds (`Adds`). So no token comes after the one for the end of
the stream, and a scan that fails never gets to it (`streamEnd_not_mem_ofText`): a text that has all its events has all
its tokens, whatever characters it holds, and its lexemes are those of a single tree
(`Lexeme.exists_ofText_of_events`).
-/

namespace YamlStyle.Yaml

variable {p : TokenKind → Prop}

/-- A reader whose waiting tokens are of kinds that satisfy `p`. -/
def TokenReader.Holds (p : TokenKind → Prop) (s : TokenReader) : Prop := ∀ x ∈ s.queue, p x.kind

namespace Scan

variable {α β : Type} {s : TokenReader} {kind : TokenKind}

/-- A step that adds only tokens of kinds that satisfy `p`. -/
def Adds (p : TokenKind → Prop) (x : Scan α) : Prop :=
  ∀ s : TokenReader, s.Holds p → Ensures x s fun _ s' => s'.Holds p

theorem adds_pure (a : α) : Adds p (pure a : Scan α) := fun _ hs => (ensures_pure a).2 hs

theorem Adds.bind {x : Scan α} {f : α → Scan β} (hx : Adds p x) (hf : ∀ a, Adds p (f a)) : Adds p (x >>= f) :=
  fun s hs => ensures_bind.2 ((hx s hs).imp fun a s' hs' => hf a s' hs')

theorem adds_ite {b : Prop} [Decidable b] {x y : Scan α} (hx : Adds p x) (hy : Adds p y) :
    Adds p (if b then x else y) := by
  split
  · exact hx
  · exact hy

theorem adds_throw (e : Failure) : Adds p (throw e : Scan α) := fun _ _ => ensures_throw e

theorem adds_get : Adds p get := fun _ hs => ensures_get.2 hs

theorem adds_modify {f : TokenReader → TokenReader} (hf : ∀ s, (f s).queue = s.queue) : Adds p (modify f) := by
  intro s hs
  rw [ensures_modify, TokenReader.Holds, hf]
  exact hs

theorem adds_lex (read : Lex α) : Adds p (lex read) := fun _ hs => (ensures_lex read).2 fun _ _ _ => hs

theorem adds_mark : Adds p mark := adds_get.bind fun _ => adds_pure _

theorem adds_inFlow : Adds p inFlow := adds_get.bind fun _ => adds_pure _

theorem adds_push (h : p kind) (start stop : Mark) : Adds p (push kind start stop) := by
  intro s hs
  rw [ensures_push]
  exact List.forall_mem_append.2 ⟨hs, List.forall_mem_singleton.2 h⟩

theorem adds_pushHere (h : p kind) : Adds p (pushHere kind) := adds_mark.bind fun _ => adds_push h _ _

theorem adds_pushIndicator (h : p kind) (width : Nat) : Adds p (pushIndicator kind width) :=
  adds_mark.bind fun _ => (adds_lex _).bind fun _ => adds_mark.bind fun _ => adds_push h _ _

theorem adds_allowKey (allowed : Bool) : Adds p (allowKey allowed) := adds_modify fun _ => rfl

/-! ## Possible keys and indentation -/

theorem adds_dropStaleKeys : Adds p dropStaleKeys := fun _ hs => ensures_dropStaleKeys.2 fun _ => hs

theorem adds_dropKey : Adds p dropKey := fun _ hs => ensures_dropKey.2 fun _ => hs

theorem adds_saveKey : Adds p saveKey := fun _ hs => ensures_saveKey.2 ⟨fun _ _ => hs, fun _ => hs⟩

theorem adds_closeBlocks (h : p .blockEnd) (column : Int) (outers : List Int) : Adds p (closeBlocks column outers) := by
  induction outers with
  | nil => exact adds_pure _
  | cons outer outers ih =>
    refine adds_get.bind fun _ => adds_ite ?_ (adds_pure _)
    exact (adds_pushHere h).bind fun _ => Adds.bind (adds_modify fun _ => rfl) fun _ => ih

theorem adds_unwind (h : p .blockEnd) (column : Int) : Adds p (unwind column) :=
  adds_inFlow.bind fun _ => adds_ite (adds_get.bind fun _ => adds_closeBlocks h _ _) (adds_pure _)

theorem adds_indentTo (column : Nat) : Adds p (indentTo column) :=
  fun _ hs => (ensures_indentTo column).2 ⟨fun _ => hs, fun _ => hs⟩

theorem adds_openBlock (h : p kind) (cause : Cause) : Adds p (openBlock kind cause) := by
  have hopen : Adds p (do if ← indentTo (← mark).column then pushHere kind) :=
    adds_mark.bind fun _ => (adds_indentTo _).bind fun _ => adds_ite (adds_pushHere h) (adds_pure _)
  refine adds_get.bind fun _ => adds_ite ?_ hopen
  exact adds_mark.bind fun _ => (adds_throw _).bind fun _ => hopen

theorem adds_insertBefore (h : p kind) (number : Nat) (m : Mark) : Adds p (insertBefore number kind m) := by
  intro s hs
  refine (ensures_insertBefore number kind m).2 ?_
  refine List.forall_mem_append.2 ⟨List.forall_mem_append.2 ⟨fun x hx => ?_, List.forall_mem_singleton.2 h⟩,
    fun x hx => ?_⟩
  · exact hs x (List.mem_of_mem_take hx)
  · exact hs x (List.mem_of_mem_drop hx)

/-! ## Reading one token -/

theorem adds_skipToToken : Adds p skipToToken := by
  refine fun s hs => ensures_skipToToken.imp fun _ s' hskips => ?_
  obtain ⟨cursor, keyAllowed, rfl, -⟩ := hskips
  exact hs

theorem adds_flowStart (h : p kind) (bracket : Bracket) : Adds p (flowStart kind bracket) :=
  adds_saveKey.bind fun _ => Adds.bind (adds_modify fun _ => rfl) fun _ => adds_pushIndicator h _

theorem adds_flowEnd (h : p kind) : Adds p (flowEnd kind) :=
  adds_dropKey.bind fun _ => Adds.bind (adds_modify fun _ => rfl) fun _ => adds_pushIndicator h _

theorem adds_flowEntry (h : p .flowEntry) : Adds p flowEntry :=
  (adds_allowKey _).bind fun _ => adds_dropKey.bind fun _ => adds_pushIndicator h _

theorem adds_documentMarker (hend : p .blockEnd) (h : p kind) : Adds p (documentMarker kind) :=
  (adds_unwind hend _).bind fun _ => adds_dropKey.bind fun _ => (adds_allowKey _).bind fun _ => adds_pushIndicator h _

theorem adds_blockEntry (hstart : p .blockSequenceStart) (h : p .blockEntry) : Adds p blockEntry := by
  have hrest : Adds p (do allowKey true; dropKey; pushIndicator .blockEntry 1) :=
    (adds_allowKey _).bind fun _ => adds_dropKey.bind fun _ => adds_pushIndicator h _
  exact adds_inFlow.bind fun _ => adds_ite ((adds_openBlock hstart _).bind fun _ => hrest) hrest

theorem adds_explicitKey (hstart : p .blockMappingStart) (h : p .key) : Adds p explicitKey := by
  refine adds_inFlow.bind fun flow => ?_
  have hrest : Adds p (do allowKey !flow; dropKey; pushIndicator .key 1) :=
    (adds_allowKey _).bind fun _ => adds_dropKey.bind fun _ => adds_pushIndicator h _
  exact adds_ite ((adds_openBlock hstart _).bind fun _ => hrest) hrest

theorem adds_value (hstart : p .blockMappingStart) (hkey : p .key) (h : p .value) : Adds p value := by
  intro s hs
  rw [value, ensures_bind, ensures_get]
  have hend : ∀ allowed, Adds p (do allowKey allowed; pushIndicator .value 1) := fun _ =>
    (adds_allowKey _).bind fun _ => adds_pushIndicator h _
  dsimp only
  split
  · next key _ =>
    have hclaim : Adds p (do
        insertBefore key.number .key key.mark
        if !!s.flow.isEmpty then
          if ← indentTo key.mark.column then insertBefore key.number .blockMappingStart key.mark
        allowKey false
        pushIndicator .value 1) := by
      refine (adds_insertBefore hkey _ _).bind fun _ => adds_ite ?_ (hend _)
      refine (adds_indentTo _).bind fun _ => adds_ite ?_ (hend _)
      exact (adds_insertBefore hstart _ _).bind fun _ => hend _
    rw [ensures_bind, ensures_set]
    exact hclaim _ hs
  · have hrest : Adds p (do allowKey !!s.flow.isEmpty; dropKey; pushIndicator .value 1) :=
      (adds_allowKey _).bind fun _ => adds_dropKey.bind fun _ => adds_pushIndicator h _
    exact adds_ite ((adds_openBlock hstart _).bind fun _ => hrest) hrest s hs

theorem adds_directive (hend : p .blockEnd) (h : ∀ d, p (.directive d)) : Adds p directive := by
  refine (adds_unwind hend _).bind fun _ => adds_dropKey.bind fun _ => (adds_allowKey _).bind fun _ => ?_
  refine adds_mark.bind fun start => adds_get.bind fun _ => (adds_lex _).bind fun read => ?_
  have hpush : Adds p (push (.directive read.1) start read.2) := adds_push (h _) _ _
  dsimp only
  split
  · exact Adds.bind (adds_modify fun _ => rfl) fun _ => hpush
  · exact hpush

theorem adds_keyCandidate {f : α → TokenKind} (h : ∀ a, p (f a)) (read : Lex α) : Adds p (keyCandidate (f <$> read)) := by
  intro s hs
  rw [keyCandidate, ensures_bind]
  refine (adds_saveKey s hs).imp fun _ s hs => ?_
  simp only [ensures_bind, ensures_allowKey, ensures_mark, ensures_lex, ensures_push]
  intro kind c hread
  have hkind : Ensures (f <$> read) s.cursor fun kind _ => p kind := ensures_map.2 fun a _ _ => h a
  exact List.forall_mem_append.2 ⟨hs, List.forall_mem_singleton.2 (hkind kind c hread)⟩

theorem adds_blockScalar (h : ∀ value style, style ≠ .plain → p (.scalar value style)) (isFolded : Bool) :
    Adds p (blockScalar isFolded) := by
  refine (adds_allowKey _).bind fun _ => adds_dropKey.bind fun _ => adds_mark.bind fun start => ?_
  refine adds_get.bind fun _ => (adds_lex _).bind fun read => ?_
  have hpush : Adds p (push (.scalar read.1 (if isFolded then .folded else .literal)) start read.2.1) :=
    adds_push (h _ _ (by cases isFolded <;> simp)) _ _
  exact adds_ite (adds_skipToToken.bind fun _ => hpush) hpush

theorem holds_plainScalar (hs : s.Holds p)
    (h : ∀ place, Ensures (Lex.plainScalar place) s.cursor fun read _ => p (.scalar (String.ofList read.text) .plain)) :
    Ensures plainScalar s fun _ s' => s'.Holds p := by
  have hsave : Ensures saveKey s fun _ s' => s'.Holds p ∧ s'.cursor = s.cursor :=
    ensures_saveKey.2 ⟨fun _ _ => ⟨hs, rfl⟩, fun _ => ⟨hs, rfl⟩⟩
  rw [plainScalar, ensures_bind]
  refine hsave.imp fun _ s' hs' => ?_
  obtain ⟨hs', hcursor⟩ := hs'
  simp only [ensures_bind, ensures_allowKey, ensures_get, ensures_mark, ensures_lex]
  intro read c hread
  have hpush : ∀ start, Adds p (push (.scalar (String.ofList read.text) .plain) start read.stop) := fun start =>
    adds_push (h _ read c (by rw [← hcursor]; exact hread)) _ _
  exact adds_ite ((adds_allowKey _).bind fun _ => hpush _) (hpush _) _ hs'

/-- Kinds among which are all but the end of the stream and plain scalars. -/
def IsBroad (p : TokenKind → Prop) : Prop :=
  ∀ kind : TokenKind, kind ≠ .streamEnd → (∀ value, kind ≠ .scalar value .plain) → p kind

theorem holds_tokenAt (hp : IsBroad p) (hs : s.Holds p) (c : Char) (hplain : startsPlain s c = true → ∀ place,
    Ensures (Lex.plainScalar place) s.cursor fun read _ => p (.scalar (String.ofList read.text) .plain)) :
    Ensures (tokenAt c) s fun _ s' => s'.Holds p := by
  have hend : p .blockEnd := hp _ (by simp) (by simp)
  have hmapping : p .blockMappingStart := hp _ (by simp) (by simp)
  have hblock : ∀ value style, style ≠ .plain → p (.scalar value style) := fun value style hstyle =>
    hp _ (by simp) fun value' heq => by cases heq; exact hstyle rfl
  rw [tokenAt, ensures_bind, ensures_get]
  have take {b : Prop} [Decidable b] {x y : Scan Unit} (hx : Adds p x)
      (hy : Ensures y s fun _ s' => s'.Holds p) : Ensures (if b then x else y) s fun _ s' => s'.Holds p :=
    ensures_ite.2 ⟨fun _ => hx s hs, fun _ => hy⟩
  refine take (adds_directive hend fun _ => hp _ (by simp) (by simp)) ?_
  refine take (adds_documentMarker hend (hp _ (by simp) (by simp))) ?_
  refine take (adds_documentMarker hend (hp _ (by simp) (by simp))) ?_
  refine take (adds_flowStart (hp _ (by simp) (by simp)) _) ?_
  refine take (adds_flowStart (hp _ (by simp) (by simp)) _) ?_
  refine take (adds_flowEnd (hp _ (by simp) (by simp))) ?_
  refine take (adds_flowEnd (hp _ (by simp) (by simp))) ?_
  refine take (adds_flowEntry (hp _ (by simp) (by simp))) ?_
  refine take (adds_blockEntry (hp _ (by simp) (by simp)) (hp _ (by simp) (by simp))) ?_
  refine take (adds_explicitKey hmapping (hp _ (by simp) (by simp))) ?_
  refine take (adds_value hmapping (hp _ (by simp) (by simp)) (hp _ (by simp) (by simp))) ?_
  refine take (adds_keyCandidate (fun _ => hp _ (by simp) (by simp)) _) ?_
  refine take (adds_keyCandidate (fun _ => hp _ (by simp) (by simp)) _) ?_
  refine take (adds_keyCandidate (fun _ => hp _ (by simp) (by simp)) _) ?_
  refine take (adds_blockScalar hblock _) ?_
  refine take (adds_blockScalar hblock _) ?_
  refine take (adds_keyCandidate (fun _ => hblock _ _ (by simp)) _) ?_
  refine take (adds_keyCandidate (fun _ => hblock _ _ (by simp)) _) ?_
  refine ensures_ite.2 ⟨fun hstarts => holds_plainScalar hs (hplain hstarts), fun _ => ?_⟩
  exact (adds_mark.bind fun _ => adds_throw _) s hs

/-! ## Fetching -/

theorem cursor_closeBlocks (column : Int) (outers : List Int) :
    Ensures (closeBlocks column outers) s fun _ s' => s'.cursor = s.cursor := by
  induction outers generalizing s with
  | nil => exact (ensures_pure _).2 rfl
  | cons outer outers ih =>
    simp only [closeBlocks, ensures_bind, ensures_get, ensures_ite, ensures_pushHere, ensures_modify, ensures_pure]
    exact ⟨fun _ => ih.imp fun _ _ h => h, fun _ => trivial⟩

theorem cursor_unwind (column : Int) : Ensures (unwind column) s fun _ s' => s'.cursor = s.cursor := by
  simp only [unwind, ensures_bind, ensures_inFlow, ensures_ite, ensures_get, ensures_pure]
  exact ⟨fun _ => cursor_closeBlocks _ _, fun _ => trivial⟩

/-- The next token is read further on. The reader that gives the end of the stream is done. -/
theorem holds_fetch (hp : IsBroad p) (hs : s.Holds p) (hplain : ∀ (s' : TokenReader) (n : Nat) (c : Char),
      s'.cursor = s.cursor.skip n → s'.cursor.peek = some c → startsPlain s' c = true → ∀ place,
        Ensures (Lex.plainScalar place) s'.cursor fun read _ => p (.scalar (String.ofList read.text) .plain)) :
    Ensures fetch s fun _ s' => (s'.done = true ∧ (p .streamEnd → s'.Holds p)) ∨ s'.Holds p := by
  have hend : p .blockEnd := hp _ (by simp) (by simp)
  rw [fetch, ensures_bind]
  refine ensures_skipToToken.imp fun _ s₁ hskips => ?_
  obtain ⟨cursor, keyAllowed, rfl, ⟨n, -, rfl, -⟩, -⟩ := hskips
  rw [ensures_bind, ensures_dropStaleKeys]
  intro _
  rw [ensures_bind, ensures_mark, ensures_bind]
  intro u s₂ hunwind
  have hcursor : s₂.cursor = s.cursor.skip n := cursor_unwind _ u s₂ hunwind
  have hholds : s₂.Holds p := adds_unwind hend _ _ (by exact hs) u s₂ hunwind
  rw [ensures_bind, ensures_peek]
  cases hpeek : s₂.cursor.peek with
  | none =>
    refine ensures_bind.2 ((adds_unwind hend _ s₂ hholds).imp fun _ s₃ hs₃ => ?_)
    simp only [ensures_bind, ensures_dropKey, ensures_modify, ensures_pushHere]
    exact fun _ => .inl ⟨trivial, fun h => List.forall_mem_append.2 ⟨hs₃, List.forall_mem_singleton.2 h⟩⟩
  | some c => exact (holds_tokenAt hp hholds c (hplain s₂ n c hcursor hpeek)).imp fun _ _ => .inr

theorem adds_needsMore : Adds p needsMore := by
  refine adds_get.bind fun _ => adds_ite (adds_pure _) (adds_get.bind fun _ => adds_ite (adds_pure _) ?_)
  exact adds_dropStaleKeys.bind fun _ => adds_get.bind fun _ => adds_pure _

theorem needsMore_of_done (h : s.done = true) : needsMore.run s = .ok (false, s) := by
  rw [needsMore, StateT.run_bind]
  show (if s.done = true then pure false else _ : Scan Bool).run s = _
  rw [if_pos h]
  rfl

end Scan

/-! ## The whole stream -/

variable {t : Text} {s : TokenReader} {fuel : Nat} {released : List Released}

theorem TokenReader.drain_of_done (h : s.done = true) : (s.drain fuel released).failure = none := by
  induction fuel generalizing s released with
  | zero => rfl
  | succ fuel ih =>
    rw [drain, Scan.needsMore_of_done h]
    dsimp only
    split
    · rfl
    · exact ih h

/-- Kinds other than the end of the stream. -/
def IsUnending (kind : TokenKind) : Prop := kind ≠ .streamEnd

theorem TokenReader.unended_drain (hs : s.done = true ∨ s.Holds IsUnending)
    (hr : ∀ r ∈ released, r.token.kind ≠ .streamEnd)
    (hf : (s.drain fuel released).failure ≠ none) :
    ∀ r ∈ (s.drain fuel released).tokens, r.token.kind ≠ .streamEnd := by
  induction fuel generalizing s released with
  | zero => exact absurd rfl hf
  | succ fuel ih =>
    by_cases hdone : s.done = true
    · exact absurd (drain_of_done hdone) hf
    replace hs := hs.resolve_left hdone
    have hstopped : ∀ r ∈ released.reverse, r.token.kind ≠ .streamEnd := fun r h => hr r (List.mem_reverse.1 h)
    rw [drain] at hf ⊢
    cases hmore : Scan.needsMore.run s with
    | error e => exact hstopped
    | ok more =>
      have hs' := Scan.adds_needsMore s hs more.1 more.2 hmore
      obtain ⟨_ | _, s'⟩ := more
      · rw [hmore] at hf
        dsimp only at hf hs' ⊢
        cases hqueue : s'.queue with
        | nil => exact hstopped
        | cons x queue =>
          rw [hqueue] at hf
          refine ih (.inr fun y hy => hs' y ?_) (fun r h => ?_) hf
          · rw [hqueue]
            exact List.mem_cons_of_mem x hy
          · rcases List.mem_cons.1 h with rfl | h
            · exact hs' x (by rw [hqueue]; exact List.mem_cons_self)
            · exact hr r h
      · rw [hmore] at hf
        dsimp only at hf hs' ⊢
        cases hfetch : Scan.fetch.run s' with
        | error e => exact hstopped
        | ok r =>
          rw [hfetch] at hf
          have hbroad : Scan.IsBroad IsUnending := fun _ hne _ => hne
          have hnext := Scan.holds_fetch hbroad hs' (fun _ _ _ _ _ _ _ read c _ => by simp [IsUnending]) r.1 r.2 hfetch
          exact ih (hnext.imp_left And.left) hr hf

/-- A scan that fails never gets to the end of the stream. -/
theorem streamEnd_not_mem_ofText (hf : (TokenStream.ofText t).failure ≠ none) :
    ∀ r ∈ (TokenStream.ofText t).tokens, r.token.kind ≠ .streamEnd := by
  unfold TokenStream.ofText at hf ⊢
  split at hf
  · exact fun r h => by cases h
  · refine TokenReader.unended_drain (.inr ?_) (fun r h => by cases h) hf
    exact List.forall_mem_singleton.2 (by simp [IsUnending])

/-- The scan of a text that has all its events gets to its end. -/
theorem failure_ofText_of_events (hf : (EventStream.ofText t).failure = none) :
    (TokenStream.ofText t).failure = none := by
  refine Decidable.by_contra fun hne => ?_
  have haccepts := accepts_of_events hf fun hnone => absurd hnone hne
  obtain ⟨r, hr, hend⟩ := List.mem_map.1 haccepts.mem_streamEnd
  exact streamEnd_not_mem_ofText hne r (List.mem_of_mem_tail hr) hend

end YamlStyle.Yaml

namespace YamlStyle

/-- A text that has all its events has the lexemes of one tree. -/
theorem Lexeme.exists_ofText_of_events {t : Text} (hf : (Yaml.EventStream.ofText t).failure = none) :
    ∃ root, (ofText t).outcome = .ok (ofTree t root) := by
  have hnone := Yaml.failure_ofText_of_events hf
  have hbuild : (Tree.build t).root =
      .ok (Tree.feedAll t 0 (.start t.length) (Yaml.TokenStream.ofText t).tokens).closeAll.root := by
    rw [Tree.build, Tree.grow, List.drop_zero, hnone]
  exact ⟨_, by rw [ofText, hbuild]; rfl⟩

end YamlStyle
