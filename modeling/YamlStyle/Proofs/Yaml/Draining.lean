import YamlStyle.Proofs.Yaml.Reading
import YamlStyle.Proofs.Yaml.ScanSteps
import YamlStyle.Proofs.Yaml.Scanned
import YamlStyle.Proofs.Yaml.Scanning
import YamlStyle.Proofs.Yaml.Spelling

/-!
# Reading on and handing out

What holds of a reader before and after the few small changes of which all steps of a scan consist holds before and after
each step (`Grows`, `respects_fetchHere`). So whatever a step reads, it leaves the cursor at a later place of the same
text. A scalar that is new in the queue starts where the step did; a tag or a directive stops where the cursor stands by
then. Only keys and mappings are put before tokens that have been read earlier, and only directives change the version.

A reader drains if it hands out token after token and comes to its end without a fault (`Drains`).
-/

namespace YamlStyle.Yaml

/-- Whether a token stays behind those read before it. -/
def Token.isFirm (x : Token) : Bool := x.kind != .key && x.kind != .blockMappingStart

/-- Tokens of which more than the kind and the place matters. -/
def TokenKind.isWritten : TokenKind → Bool
  | .scalar _ _ | .tag _ | .directive _ => true
  | _ => false

theorem Cursor.offset_le_skip (c : Cursor) (k : Nat) : c.mark.offset ≤ (c.skip k).mark.offset := by
  have := (Cursor.passes_skip k c).offset
  omega

namespace Lex

/-- A directive stops at most where the reader is after its line. -/
theorem ensures_directive_stop (version : Version) (c : Cursor) :
    Ensures (directive version) c fun read c' => read.2.offset ≤ c'.mark.offset := by
  have hend : ∀ (start : Mark) (read : Directive × Mark) (d : Cursor), read.2.offset ≤ d.mark.offset →
      Ensures (do restOfLine .directive start; return read) d fun read c' => read.2.offset ≤ c'.mark.offset := by
    refine fun start read d hle => ensures_bind.2 fun _ e hrun => (ensures_pure _).2 ?_
    obtain ⟨k, -, rfl, -⟩ := readsOn_restOfLine _ _ _ _ _ hrun
    exact Nat.le_trans hle (d.offset_le_skip k)
  refine ensures_bind.2 (ensures_mark.2 (ensures_bind.2 fun _ _ _ => ensures_bind.2 fun name _ _ => ensures_bind.2 ?_))
  refine ensures_peek.2 (ensures_ite.2 ⟨fun _ => ensures_bind.2 (ensures_peek.2 (ensures_fail_bind _ _ _ _)), fun _ => ?_⟩)
  refine ensures_ite.2 ⟨fun _ => ?_, fun _ => ensures_ite.2 ⟨fun _ => ?_, fun _ => ?_⟩⟩
  · refine ensures_bind.2 fun _ d _ => ensures_bind.2 (ensures_mark.2 (ensures_bind.2 ((ensures_pure _).2 ?_)))
    exact hend _ _ _ (Nat.le_refl _)
  · refine ensures_bind.2 fun _ d _ => ensures_bind.2 (ensures_mark.2 (ensures_bind.2 ((ensures_pure _).2 ?_)))
    exact hend _ _ _ (Nat.le_refl _)
  · refine ensures_bind.2 (ensures_mark.2 (ensures_bind.2 fun _ d hspan => ensures_bind.2 ((ensures_pure _).2 ?_)))
    obtain ⟨k, -, rfl, -⟩ := readsOn_span _ _ _ _ hspan
    exact hend _ _ _ (Cursor.offset_le_skip _ k)

end Lex

namespace Scan

/-! ## What steps respect -/

/-- A relation that holds along steps, and where only the place, the possible keys and the blocks change. -/
class Frame (R : TokenReader → TokenReader → Prop) : Prop where
  move {s r : TokenReader} (k : Nat) (hc : r.cursor = s.cursor.skip k) (hq : r.queue = s.queue)
    (hv : r.version = s.version) : R s r
  trans {s q r : TokenReader} (h : R s q) (h' : R q r) : R s r

/-- It holds as well where a token is added of which only the kind and the place matter. -/
class Grows (R : TokenReader → TokenReader → Prop) : Prop extends Frame R where
  push {s r : TokenReader} {x : Token} (k : Nat) (hx : x.kind.isWritten = false) (hc : r.cursor = s.cursor.skip k)
    (hq : r.queue = s.queue ++ [x]) (hv : r.version = s.version) : R s r
  insert {kind : TokenKind} (hk : kind = .key ∨ kind = .blockMappingStart) (s : TokenReader) (n : Nat) (m : Mark) :
    R s { s with queue := s.queue.take n ++ [⟨kind, m, m⟩] ++ s.queue.drop n }

/-- The step keeps to the relation wherever it starts. -/
def Respects {α : Type} (R : TokenReader → TokenReader → Prop) (x : Scan α) : Prop := ∀ s, Ensures x s fun _ r => R s r

theorem ensures_unwind_cursor {s : TokenReader} (column : Int) :
    Ensures (unwind column) s fun _ r => r.cursor = s.cursor := by
  have hclose : ∀ (outers : List Int) (s : TokenReader), Ensures (closeBlocks column outers) s fun _ r =>
      r.cursor = s.cursor := by
    intro outers
    induction outers with
    | nil => exact fun s => (ensures_pure _).2 rfl
    | cons outer outers ih =>
      intro s
      simp only [closeBlocks, ensures_bind, ensures_get, ensures_ite, ensures_pushHere, ensures_modify, ensures_pure]
      exact ⟨fun _ => ih _, fun _ => trivial⟩
  simp only [unwind, ensures_bind, ensures_inFlow, ensures_ite, ensures_get, ensures_pure]
  exact ⟨fun _ => hclose _ _, fun _ => trivial⟩

/-- What is done after a gap. -/
def fetchHere : Scan Unit := do
  dropStaleKeys
  unwind (← mark).column
  match ← peek with
  | none => streamEnd
  | some c => tokenAt c

theorem fetch_eq : fetch = skipToToken >>= fun _ => fetchHere := rfl

section

variable {α β : Type} {R : TokenReader → TokenReader → Prop}

theorem respects_ite {b : Prop} [Decidable b] {x y : Scan α} (hx : Respects R x) (hy : Respects R y) :
    Respects R (if b then x else y) := by
  split
  · exact hx
  · exact hy

theorem respects_throw (e : Failure) : Respects R (throw e : Scan α) := fun _ => ensures_throw e

/-! ## Steps that add no token -/

section

variable [Frame R]

theorem Frame.refl (s : TokenReader) : R s s := Frame.move 0 rfl rfl rfl

theorem respects_pure (a : α) : Respects R (pure a : Scan α) := fun s => (ensures_pure a).2 (Frame.refl s)

theorem Respects.bind {x : Scan α} {f : α → Scan β} (hx : Respects R x) (hf : ∀ a, Respects R (f a)) :
    Respects R (x >>= f) :=
  fun s => ensures_bind.2 ((hx s).imp fun a r h => (hf a r).imp fun _ _ h' => Frame.trans h h')

theorem Respects.after {x : Scan α} {s s' : TokenReader} (hx : Respects R x) (h : R s s') :
    Ensures x s' fun _ r => R s r := (hx s').imp fun _ _ h' => Frame.trans h h'

theorem respects_lex {read : Lex α} (h : Lex.ReadsOn read) : Respects R (lex read) := by
  refine fun s => (ensures_lex read).2 fun a c hrun => ?_
  obtain ⟨k, -, rfl, -⟩ := h s.cursor a c hrun
  exact Frame.move k rfl rfl rfl

theorem respects_modify {f : TokenReader → TokenReader} (hc : ∀ s, (f s).cursor = s.cursor)
    (hq : ∀ s, (f s).queue = s.queue) (hv : ∀ s, (f s).version = s.version) : Respects R (modify f) := fun s =>
  (ensures_modify f).2 (Frame.move 0 (hc s) (hq s) (hv s))

theorem respects_get : Respects R get := fun s => ensures_get.2 (Frame.refl s)

theorem respects_mark : Respects R mark := respects_get.bind fun _ => respects_pure _

theorem respects_inFlow : Respects R inFlow := respects_get.bind fun _ => respects_pure _

theorem respects_allowKey (allowed : Bool) : Respects R (allowKey allowed) :=
  respects_modify (fun _ => rfl) (fun _ => rfl) fun _ => rfl

theorem Skips.respects {s r : TokenReader} (h : Skips s r) : R s r := by
  obtain ⟨cursor, keyAllowed, rfl, ⟨k, -, rfl, -⟩, -⟩ := h
  exact Frame.move k rfl rfl rfl

theorem respects_skipGap (fuel : Nat) : Respects R (skipGap fuel) := fun _ =>
  (ensures_skipGap fuel).imp fun _ _ h => h.respects

theorem respects_skipToToken : Respects R skipToToken := fun _ => ensures_skipToToken.imp fun _ _ h => h.respects

theorem respects_dropStaleKeys : Respects R dropStaleKeys := fun _ =>
  ensures_dropStaleKeys.2 fun _ => Frame.move 0 rfl rfl rfl

theorem respects_dropKey : Respects R dropKey := fun _ => ensures_dropKey.2 fun _ => Frame.move 0 rfl rfl rfl

theorem respects_saveKey : Respects R saveKey := fun s =>
  ensures_saveKey.2 ⟨fun _ _ => Frame.move 0 rfl rfl rfl, fun _ => Frame.refl s⟩

theorem respects_indentTo (column : Nat) : Respects R (indentTo column) := fun s =>
  (ensures_indentTo column).2 ⟨fun _ => Frame.move 0 rfl rfl rfl, fun _ => Frame.refl s⟩

theorem respects_needsMore : Respects R needsMore := by
  refine respects_get.bind fun _ => respects_ite (respects_pure _) ?_
  refine respects_get.bind fun _ => respects_ite (respects_pure _) ?_
  exact respects_dropStaleKeys.bind fun _ => respects_get.bind fun _ => respects_pure _

end

/-! ## Steps that add tokens of which only the kind and the place matter -/

section

variable [Grows R]

theorem respects_pushHere {kind : TokenKind} (hk : kind.isWritten = false) : Respects R (pushHere kind) := fun _ =>
  (ensures_pushHere kind).2 (Grows.push 0 hk rfl rfl rfl)

theorem respects_pushIndicator {kind : TokenKind} (hk : kind.isWritten = false) (width : Nat) :
    Respects R (pushIndicator kind width) := fun _ =>
  (ensures_pushIndicator kind width).2 (Grows.push width hk rfl rfl rfl)

theorem respects_insertBefore {kind : TokenKind} (hk : kind = .key ∨ kind = .blockMappingStart) (number : Nat) (m : Mark) :
    Respects R (insertBefore number kind m) := fun s => (ensures_insertBefore number kind m).2 (Grows.insert hk s _ m)

theorem respects_closeBlocks (column : Int) (outers : List Int) : Respects R (closeBlocks column outers) := by
  induction outers with
  | nil => exact respects_pure _
  | cons outer outers ih =>
    refine respects_get.bind fun _ => respects_ite ((respects_pushHere rfl).bind fun _ => ?_) (respects_pure _)
    exact Respects.bind (respects_modify (f := fun s => { s with indent := outer, indents := outers }) (fun _ => rfl)
      (fun _ => rfl) fun _ => rfl) fun _ => ih

theorem respects_unwind (column : Int) : Respects R (unwind column) :=
  respects_inFlow.bind fun _ => respects_ite (respects_get.bind fun _ => respects_closeBlocks _ _) (respects_pure _)

theorem respects_openBlock {kind : TokenKind} (hk : kind.isWritten = false) (cause : Cause) :
    Respects R (openBlock kind cause) := by
  have hopen : Respects R (do if ← indentTo (← mark).column then pushHere kind) := respects_mark.bind fun _ =>
    (respects_indentTo _).bind fun _ => respects_ite (respects_pushHere hk) (respects_pure _)
  refine respects_get.bind fun _ => respects_ite ?_ hopen
  exact respects_mark.bind fun _ => (respects_throw _).bind fun _ => hopen

theorem respects_indicator {kind : TokenKind} (hk : kind.isWritten = false) (allowed : Bool) :
    Respects R (do allowKey allowed; dropKey; pushIndicator kind 1) :=
  (respects_allowKey _).bind fun _ => respects_dropKey.bind fun _ => respects_pushIndicator hk _

theorem respects_streamEnd : Respects R streamEnd :=
  (respects_unwind _).bind fun _ => respects_dropKey.bind fun _ =>
    Respects.bind (respects_modify (f := fun s => { s with keyAllowed := false, keys := [], done := true }) (fun _ => rfl)
      (fun _ => rfl) fun _ => rfl) fun _ => respects_pushHere rfl

theorem respects_documentMarker {kind : TokenKind} (hk : kind.isWritten = false) : Respects R (documentMarker kind) :=
  (respects_unwind _).bind fun _ => respects_dropKey.bind fun _ => (respects_allowKey _).bind fun _ =>
    respects_pushIndicator hk _

theorem respects_flowStart {kind : TokenKind} (hk : kind.isWritten = false) (bracket : Bracket) :
    Respects R (flowStart kind bracket) :=
  respects_saveKey.bind fun _ =>
    Respects.bind (respects_modify (f := fun s => { s with flow := bracket :: s.flow, keyAllowed := true }) (fun _ => rfl)
      (fun _ => rfl) fun _ => rfl) fun _ => respects_pushIndicator hk _

theorem respects_flowEnd {kind : TokenKind} (hk : kind.isWritten = false) : Respects R (flowEnd kind) :=
  respects_dropKey.bind fun _ =>
    Respects.bind (respects_modify (f := fun s => { s with flow := s.flow.tail, keyAllowed := false }) (fun _ => rfl)
      (fun _ => rfl) fun _ => rfl) fun _ => respects_pushIndicator hk _

/-- An indicator that may open a block. -/
theorem respects_opener {opening kind : TokenKind} (ho : opening.isWritten = false) (hk : kind.isWritten = false)
    {b : Prop} [Decidable b] (cause : Cause) (allowed : Bool) : Respects R (do
      if b then openBlock opening cause
      allowKey allowed
      dropKey
      pushIndicator kind 1) :=
  respects_ite ((respects_openBlock ho _).bind fun _ => respects_indicator hk _) (respects_indicator hk _)

theorem respects_blockEntry : Respects R blockEntry := respects_inFlow.bind fun _ => respects_opener rfl rfl _ _

theorem respects_explicitKey : Respects R explicitKey := respects_inFlow.bind fun _ => respects_opener rfl rfl _ _

theorem respects_value : Respects R value := by
  have hend : Respects R (do allowKey false; pushIndicator .value 1) :=
    (respects_allowKey _).bind fun _ => respects_pushIndicator rfl _
  intro s
  rw [value, ensures_bind, ensures_get]
  dsimp only
  split
  · rw [ensures_bind, ensures_set]
    refine ((respects_insertBefore (.inl rfl) _ _).bind (fun _ => respects_ite ?_ hend) _).imp fun _ _ h => ?_
    · exact (respects_indentTo _).bind fun _ => respects_ite ((respects_insertBefore (.inr rfl) _ _).bind fun _ => hend) hend
    · refine Frame.trans ?_ h
      exact Frame.move 0 rfl rfl rfl
  · exact respects_opener rfl rfl _ _ s

end

/-! ## Scalars and tags -/

/-- The relation holds where a token is added that starts at `start`; scalars apart, it stops before the new place. -/
def Writes (R : TokenReader → TokenReader → Prop) (start : Mark) : Prop :=
  ∀ {s r : TokenReader} {x : Token} (k : Nat), x.start = start →
    (x.kind.lexemeKind ≠ .scalar → x.stop.offset ≤ r.cursor.mark.offset) →
    r.cursor = s.cursor.skip k → r.queue = s.queue ++ [x] → r.version = s.version → R s r

section

variable {s : TokenReader} (hw : Writes R s.cursor.mark)

include hw

theorem respects_push_scalar (value : String) (style : ScalarStyle) (stop : Mark) :
    Respects R (push (.scalar value style) s.cursor.mark stop) := fun _ =>
  (ensures_push _ _ _).2 (hw 0 rfl (fun h => absurd rfl h) rfl rfl rfl)

variable [Grows R]

theorem respects_keyCandidate {read : Lex TokenKind} (h : Lex.ReadsFrom (fun _ => True) 0 read s.cursor) :
    Ensures (keyCandidate read) s fun _ r => R s r := by
  rw [keyCandidate, ensures_bind]
  intro _ q hsave
  have hq : R s q := respects_saveKey s _ q hsave
  have hcursor : q.cursor = s.cursor :=
    (ensures_saveKey (Q := fun _ q => q.cursor = s.cursor)).2 ⟨fun _ _ => rfl, fun _ => rfl⟩ _ q hsave
  simp only [ensures_bind, ensures_allowKey, ensures_mark, ensures_lex, ensures_push]
  intro kind c hrun
  rw [hcursor] at hrun ⊢
  obtain ⟨k, -, rfl, -⟩ := h kind c hrun
  exact Frame.trans hq (hw k rfl (fun _ => Nat.le_refl _) (by rw [hcursor]) rfl rfl)

theorem respects_blockScalar (isFolded : Bool) : Ensures (blockScalar isFolded) s fun _ r => R s r := by
  rw [blockScalar, ensures_bind, ensures_allowKey, ensures_bind, ensures_dropKey]
  intro _
  rw [ensures_bind, ensures_mark, ensures_bind, ensures_get]
  refine Respects.after ((respects_lex fun c => (Lex.reads_blockScalar _ _ c).least (Nat.zero_le 1)).bind fun found => ?_)
    (Frame.move 0 rfl rfl rfl)
  exact respects_ite (respects_skipToToken.bind fun _ => respects_push_scalar hw _ _ _) (respects_push_scalar hw _ _ _)

theorem respects_plainScalar : Ensures plainScalar s fun _ r => R s r := by
  rw [plainScalar, ensures_bind]
  intro _ q hsave
  have hq : R s q := respects_saveKey s _ q hsave
  have hcursor : q.cursor = s.cursor :=
    (ensures_saveKey (Q := fun _ q => q.cursor = s.cursor)).2 ⟨fun _ _ => rfl, fun _ => rfl⟩ _ q hsave
  rw [ensures_bind, ensures_allowKey, ensures_bind, ensures_get, ensures_bind, ensures_mark, hcursor]
  have hrest : Respects R (do
      let read ← lex (Lex.plainScalar ⟨!q.flow.isEmpty, q.version, q.indent + 1⟩)
      if read.afterBreak then allowKey true
      push (.scalar (String.ofList read.text) .plain) s.cursor.mark read.stop) := by
    refine Respects.bind (respects_lex ?_) fun found => ?_
    · exact Lex.reads_get.bind fun _ => Lex.reads_mark.bind fun _ => Lex.readsOn_plainRest _ _ _ _
    · exact respects_ite ((respects_allowKey _).bind fun _ => respects_push_scalar hw _ _ _) (respects_push_scalar hw _ _ _)
  refine fun a r hrun => Frame.trans hq (Frame.trans ?_ (hrest _ a r hrun))
  exact Frame.move 0 hcursor.symm rfl rfl

/-- Directives apart, so does whatever the next character starts. -/
theorem respects_tokenAt {ch : Char} (hch : s.cursor.peek = some ch)
    (hd : ch = '%' → s.cursor.mark.column = 0 → Ensures directive s fun _ r => R s r) :
    Ensures (tokenAt ch) s fun _ r => R s r := by
  have hmap : ∀ {read : Lex String} {f : String → TokenKind}, Lex.ReadsFrom (fun _ => True) 1 read s.cursor →
      Ensures (keyCandidate (f <$> read)) s fun _ r => R s r := by
    intro read f hread
    refine respects_keyCandidate hw ?_
    rw [map_eq_pure_bind]
    exact (hread.bind fun _ => Lex.reads_pure _).least (Nat.zero_le 1)
  have hname : ∀ {context : Context} {f : String → TokenKind} (d : Char), (ch == d) = true → d ≠ '\n' →
      Ensures (keyCandidate (f <$> Lex.anchorName context)) s fun _ r => R s r := by
    intro context f d heq hne
    refine hmap fun a c hrun => ?_
    exact (Lex.reads_anchorName hch (by rwa [eq_of_beq heq]) a c hrun).mono (fun _ _ => trivial) (Nat.le_refl 1)
  rw [tokenAt, ensures_bind, ensures_get]
  dsimp only
  rw [ensures_ite]
  refine ⟨fun h => ?_, fun _ => ensures_ite.2 ⟨fun _ => respects_documentMarker rfl s, fun _ => ?_⟩⟩
  · rw [Bool.and_eq_true, beq_iff_eq, beq_iff_eq] at h
    exact hd h.1 h.2
  refine ensures_ite.2 ⟨fun _ => respects_documentMarker rfl s, fun _ => ?_⟩
  refine ensures_ite.2 ⟨fun _ => respects_flowStart rfl _ s, fun _ => ?_⟩
  refine ensures_ite.2 ⟨fun _ => respects_flowStart rfl _ s, fun _ => ?_⟩
  refine ensures_ite.2 ⟨fun _ => respects_flowEnd rfl s, fun _ => ?_⟩
  refine ensures_ite.2 ⟨fun _ => respects_flowEnd rfl s, fun _ => ?_⟩
  refine ensures_ite.2 ⟨fun _ => respects_indicator rfl true s,
    fun _ => ensures_ite.2 ⟨fun _ => respects_blockEntry s, fun _ => ?_⟩⟩
  refine ensures_ite.2 ⟨fun _ => respects_explicitKey s, fun _ => ensures_ite.2 ⟨fun _ => respects_value s, fun _ => ?_⟩⟩
  refine ensures_ite.2 ⟨fun h => hname _ h (by decide), fun _ => ?_⟩
  refine ensures_ite.2 ⟨fun h => hname _ h (by decide), fun _ => ?_⟩
  refine ensures_ite.2 ⟨fun h => ?_, fun _ => ?_⟩
  · refine respects_keyCandidate hw fun a c hrun => ?_
    have hread : Lex.ReadsFrom (· ≠ '\n') 1 (TokenKind.tag <$> Lex.tag s.version) s.cursor := by
      rw [map_eq_pure_bind]
      exact (Lex.reads_tag (by rw [hch, eq_of_beq h])).bind fun _ => Lex.reads_pure _
    exact (hread a c hrun).mono (fun _ _ => trivial) (Nat.zero_le 1)
  refine ensures_ite.2 ⟨fun _ => respects_blockScalar hw _, fun _ => ?_⟩
  refine ensures_ite.2 ⟨fun _ => respects_blockScalar hw _, fun _ => ?_⟩
  refine ensures_ite.2 ⟨fun _ => hmap (Lex.reads_quotedScalar _ _), fun _ => ?_⟩
  refine ensures_ite.2 ⟨fun _ => hmap (Lex.reads_quotedScalar _ _), fun _ => ?_⟩
  exact ensures_ite.2 ⟨fun _ => respects_plainScalar hw, fun _ => (respects_mark.bind fun _ => respects_throw _) s⟩

theorem respects_fetchHere (hd : ∀ q : TokenReader, q.cursor = s.cursor → s.cursor.peek = some '%' →
    s.cursor.mark.column = 0 → Ensures directive q fun _ r => R q r) : Ensures fetchHere s fun _ r => R s r := by
  simp only [fetchHere, ensures_bind, ensures_mark]
  intro _ q hdrop
  have hq : R s q := respects_dropStaleKeys s _ q hdrop
  have hcursor : q.cursor = s.cursor := (ensures_dropStaleKeys (Q := fun _ q => q.cursor = s.cursor)).2
    (fun _ => rfl) _ q hdrop
  intro _ u hunwind
  have hu : R s u := Frame.trans hq (respects_unwind _ q _ u hunwind)
  have hcursor' : u.cursor = s.cursor := (ensures_unwind_cursor _ _ u hunwind).trans hcursor
  rw [ensures_peek]
  cases hpeek : u.cursor.peek with
  | none => exact (respects_streamEnd u).imp fun _ _ h => Frame.trans hu h
  | some ch =>
    refine (respects_tokenAt (by rwa [hcursor']) hpeek fun heq hcolumn => hd u hcursor' ?_ ?_).imp fun _ _ h =>
      Frame.trans hu h
    · rw [← hcursor', hpeek, heq]
    · rw [← hcursor']
      exact hcolumn

end

end

/-! ## Later places -/

variable {α : Type} {p : Cursor → Token → Prop} {r r' s : TokenReader}

/-- From `r` on to `r'`; what is new in the queue satisfies `p` at the cursor by then. -/
structure Onward (p : Cursor → Token → Prop) (r r' : TokenReader) : Prop where
  cursor : ∃ k, r'.cursor = r.cursor.skip k
  queue : ∀ x ∈ r'.queue, x ∈ r.queue ∨ ∃ c k, r'.cursor = c.skip k ∧ p c x
  firm : r.queue.filter Token.isFirm <+: r'.queue.filter Token.isFirm

theorem Onward.of_cursor {k : Nat} (hc : r'.cursor = r.cursor.skip k) (hq : r'.queue = r.queue) : Onward p r r' :=
  ⟨⟨k, hc⟩, fun _ hx => .inl (hq ▸ hx), by rw [hq]⟩

/-- A token is added. -/
theorem Onward.of_append {k : Nat} {x : Token} (hc : r'.cursor = r.cursor.skip k) (hq : r'.queue = r.queue ++ [x])
    (hx : p r'.cursor x) : Onward p r r' := by
  refine ⟨⟨k, hc⟩, fun y hy => ?_, ?_⟩
  · rw [hq] at hy
    rcases List.mem_append.1 hy with hy | hy
    · exact .inl hy
    · rw [List.mem_singleton.1 hy]
      exact .inr ⟨_, 0, rfl, hx⟩
  · rw [hq, List.filter_append]
    exact List.prefix_append _ _

instance frame_onward : Frame (Onward p) where
  move _ hc hq _ := .of_cursor hc hq
  trans h h' := by
    obtain ⟨⟨k, hk⟩, hq, hfirm⟩ := h
    obtain ⟨⟨l, hl⟩, hq', hfirm'⟩ := h'
    refine ⟨⟨k + l, by rw [hl, hk, Cursor.skip_add]⟩, fun x hx => ?_, hfirm.trans hfirm'⟩
    rcases hq' x hx with hx | hx
    · exact (hq x hx).imp_right fun ⟨c, i, hc, hp⟩ => ⟨c, i + l, by rw [hl, hc, Cursor.skip_add], hp⟩
    · exact .inr hx

theorem Onward.trans {r'' : TokenReader} (h : Onward p r r') (h' : Onward p r' r'') : Onward p r r'' := Frame.trans h h'

theorem Onward.imp {q : Cursor → Token → Prop} (h : Onward p r r') (hq : ∀ c x, p c x → q c x) : Onward q r r' :=
  { h with queue := fun x hx => (h.queue x hx).imp_right fun ⟨c, k, hc, hx⟩ => ⟨c, k, hc, hq c x hx⟩ }

/-- What holds of all tokens other than scalars, tags and directives. -/
def HoldsOfOthers (p : Cursor → Token → Prop) : Prop := ∀ (c : Cursor) (x : Token), x.kind.isWritten = false → p c x

theorem grows_onward (hp : HoldsOfOthers p) : Grows (Onward p) where
  push _ hx hc hq _ := .of_append hc hq (hp _ _ hx)
  insert {kind} hk s n m := by
    have hother : kind.isWritten = false := by rcases hk with rfl | rfl <;> rfl
    have hloose : ∀ m, Token.isFirm ⟨kind, m, m⟩ = false := fun _ => by rcases hk with rfl | rfl <;> rfl
    refine ⟨⟨0, rfl⟩, fun x hx => ?_, ?_⟩
    · simp only [List.mem_append, List.mem_singleton] at hx
      rcases hx with (hx | rfl) | hx
      · exact .inl (List.mem_of_mem_take hx)
      · exact .inr ⟨_, 0, rfl, hp _ _ hother⟩
      · exact .inl (List.mem_of_mem_drop hx)
    · dsimp only
      rw [List.filter_append, List.filter_append, List.filter_cons_of_neg (by simp [hloose]), List.filter_nil,
        List.append_nil, ← List.filter_append, List.take_append_drop]

theorem onward_directive (hp : HoldsOfOthers p) (hs : ∀ (c : Cursor) (x : Token), x.start = s.cursor.mark →
    (x.kind.lexemeKind ≠ .scalar → x.stop.offset ≤ c.mark.offset) → p c x) :
    Ensures directive s fun _ r => Onward p s r := by
  have := grows_onward hp
  rw [directive, ensures_bind]
  intro _ u hunwind
  have hu : Onward p s u := respects_unwind _ s _ u hunwind
  have hcursor := ensures_unwind_cursor _ _ u hunwind
  rw [ensures_bind, ensures_dropKey]
  intro _
  rw [ensures_bind, ensures_allowKey, ensures_bind, ensures_mark, ensures_bind, ensures_get, ensures_bind, ensures_lex]
  rintro ⟨d, stop⟩ c hread
  obtain ⟨k, -, rfl, -⟩ := Lex.reads_directive _ _ _ c hread
  have hstop := Lex.ensures_directive_stop _ _ _ _ hread
  have hpush : ∀ v : TokenReader, v.cursor = u.cursor.skip k → v.queue = u.queue →
      Ensures (push (.directive d) u.cursor.mark stop) v fun _ r => Onward p s r := by
    intro v hv hq
    rw [ensures_push]
    exact hu.trans (.of_append hv (by rw [hq]) (hs _ _ (by rw [hcursor]) fun _ => by rw [hv]; exact hstop))
  cases d with
  | yaml v =>
    rw [ensures_bind, ensures_modify]
    exact hpush _ rfl rfl
  | tag handle lead => exact hpush _ rfl rfl
  | reserved name => exact hpush _ rfl rfl

/-- A fetch takes the reader on. Scalars start where it starts to read. -/
theorem onward_fetchHere (hp : HoldsOfOthers p) (hs : ∀ (c : Cursor) (x : Token), x.start = s.cursor.mark →
    (x.kind.lexemeKind ≠ .scalar → x.stop.offset ≤ c.mark.offset) → p c x) :
    Ensures fetchHere s fun _ r => Onward p s r := by
  have := grows_onward hp
  refine respects_fetchHere (fun k hstart hstop hc hq _ => .of_append hc hq (hs _ _ hstart hstop)) fun q hq _ _ => ?_
  exact onward_directive hp fun c x hx => hs c x (by rw [hx, hq])

/-- A step that does not go back in the text. -/
def GoesOn (x : Scan α) : Prop := Respects (Onward fun _ _ => True) x

theorem goesOn_modify {f : TokenReader → TokenReader} (hc : ∀ s, (f s).cursor = s.cursor)
    (hq : ∀ s, (f s).queue = s.queue) : GoesOn (modify f) := fun s =>
  (ensures_modify f).2 (.of_cursor (k := 0) (hc s) (hq s))

theorem goesOn_push (kind : TokenKind) (start stop : Mark) : GoesOn (push kind start stop) := fun _ =>
  (ensures_push kind start stop).2 (.of_append (k := 0) rfl rfl trivial)

theorem goesOn_fetchHere : GoesOn fetchHere := fun _ => onward_fetchHere (fun _ _ _ => trivial) fun _ _ _ _ => trivial

theorem goesOn_fetch : GoesOn fetch := Respects.bind respects_skipToToken fun _ => goesOn_fetchHere

/-! ## Versions -/

/-- With the same version. -/
def SameVersion (r r' : TokenReader) : Prop := r'.version = r.version

instance : Grows SameVersion where
  move _ _ _ hv := hv
  trans h h' := Eq.trans h' h
  push _ _ _ _ hv := hv
  insert _ _ _ _ := rfl

/-- Only directives change the version. -/
theorem ensures_fetchHere_version (h : ¬(s.cursor.peek = some '%' ∧ s.cursor.mark.column = 0)) :
    Ensures fetchHere s fun _ r => r.version = s.version :=
  respects_fetchHere (R := SameVersion) (fun _ _ _ _ _ hv => hv) fun _ _ hpeek hcolumn => absurd ⟨hpeek, hcolumn⟩ h

end Scan

end YamlStyle.Yaml

/-!
## Readers that hand out all their tokens

The tokens of a text are those that the reader at its start hands out, step by step and without fuel.
-/

namespace YamlStyle.Yaml

/-- The reader goes on to hand out these tokens, and then has nothing left. -/
inductive Drains : TokenReader → List Released → Prop
  | finish {s s' : TokenReader} (hmore : Scan.needsMore.run s = .ok (false, s')) (hq : s'.queue = []) : Drains s []
  | fetch {s s' s'' : TokenReader} {rest : List Released} (hmore : Scan.needsMore.run s = .ok (true, s'))
      (hfetch : Scan.fetch.run s' = .ok ((), s'')) (h : Drains s'' rest) : Drains s rest
  | release {s s' : TokenReader} {x : Token} {queue : List Token} {rest : List Released}
      (hmore : Scan.needsMore.run s = .ok (false, s')) (hq : s'.queue = x :: queue)
      (h : Drains { s' with queue, taken := s'.taken + 1 } rest) : Drains s (⟨x, s'.version⟩ :: rest)

variable {t : Text} {s : TokenReader} {rest : List Released}

namespace Scan

theorem run_needsMore_of_done (h : s.done = true) : needsMore.run s = .ok (false, s) := by
  have hdone : needsMore.run s = (if s.done = true then pure false else _ : Scan Bool).run s := rfl
  rw [hdone, if_pos h]
  rfl

end Scan

namespace Drains

theorem unique {rest' : List Released} (h : Drains s rest) (h' : Drains s rest') : rest = rest' := by
  induction h generalizing rest' with
  | finish hmore hq =>
    cases h' with
    | finish => rfl
    | fetch hmore' => rw [hmore] at hmore'; cases hmore'
    | release hmore' hq' => rw [hmore] at hmore'; cases hmore'; rw [hq] at hq'; cases hq'
  | fetch hmore hfetch _ ih =>
    cases h' with
    | finish hmore' => rw [hmore] at hmore'; cases hmore'
    | release hmore' => rw [hmore] at hmore'; cases hmore'
    | fetch hmore' hfetch' h' =>
      rw [hmore] at hmore'
      cases hmore'
      rw [hfetch] at hfetch'
      cases hfetch'
      exact ih h'
  | release hmore hq _ ih =>
    cases h' with
    | finish hmore' hq' => rw [hmore] at hmore'; cases hmore'; rw [hq] at hq'; cases hq'
    | fetch hmore' => rw [hmore] at hmore'; cases hmore'
    | release hmore' hq' h' =>
      rw [hmore] at hmore'
      cases hmore'
      rw [hq] at hq'
      cases hq'
      rw [ih h']

/-- A reader that is done has only its queue to hand out. -/
theorem of_done {queue : List Token} (hd : s.done = true) (hq : s.queue = queue) :
    Drains s (queue.map fun x => ⟨x, s.version⟩) := by
  induction queue generalizing s with
  | nil => exact .finish (Scan.run_needsMore_of_done hd) hq
  | cons x queue ih =>
    have h := ih (s := { s with queue, taken := s.taken + 1 }) hd rfl
    exact .release (Scan.run_needsMore_of_done hd) hq h

theorem failure_drain (h : Drains s rest) (fuel : Nat) (released : List Released) :
    (s.drain fuel released).failure = none := by
  induction h generalizing fuel released with
  | finish hmore hq =>
    cases fuel with
    | zero => rfl
    | succ fuel =>
      rw [TokenReader.drain, hmore]
      dsimp only
      rw [hq]
  | fetch hmore hfetch _ ih =>
    cases fuel with
    | zero => rfl
    | succ fuel =>
      rw [TokenReader.drain, hmore]
      dsimp only
      rw [hfetch]
      exact ih fuel released
  | release hmore hq _ ih =>
    cases fuel with
    | zero => rfl
    | succ fuel =>
      rw [TokenReader.drain, hmore]
      dsimp only
      rw [hq]
      exact ih fuel _

end Drains

namespace TokenReader

theorem exists_drains_of_done (h : s.done = true) {released : List Released} {fuel : Nat} (hf : s.queue.length < fuel) :
    ∃ rest, Drains s rest ∧ s.drain fuel released = ⟨released.reverse ++ rest, none⟩ := by
  refine ⟨_, .of_done h rfl, ?_⟩
  induction fuel generalizing s released with
  | zero => omega
  | succ fuel ih =>
    rw [drain, Scan.run_needsMore_of_done h]
    dsimp only
    cases hq : s.queue with
    | nil => simp
    | cons x queue =>
      rw [hq, List.length_cons] at hf
      refine (ih (s := { s with queue, taken := s.taken + 1 }) h (by simp only; omega)).trans ?_
      simp

/-- With enough fuel the tokens of a reader are all that it hands out, unless there is a fault. -/
theorem exists_drains (ht : t.IsRegular) {as : List Arrival} {fuel : Nat} {released : List Released}
    (h : Sound t (released.reverse.map (·.token)) as 0 s)
    (hf : 5 * t.length + 3 < fuel + released.length + s.cursor.mark.offset)
    (hnone : (s.drain fuel released).failure = none) :
    ∃ rest, Drains s rest ∧ s.drain fuel released = ⟨released.reverse ++ rest, none⟩ := by
  induction fuel generalizing s released as with
  | zero =>
    have hlen := h.length_released_le
    have hbound := h.cursor.bound
    simp only [List.length_append, List.length_map, List.length_reverse] at hlen
    omega
  | succ fuel ih =>
    have hmore := h.ensures_needsMore
    rw [drain] at hnone ⊢
    cases hrun : Scan.needsMore.run s with
    | error e =>
      rw [hrun] at hnone
      cases hnone
    | ok r =>
      obtain ⟨more, s1⟩ := r
      obtain ⟨h1, hcur, hrelease⟩ := hmore more s1 hrun
      rw [hrun] at hnone
      cases more with
      | true =>
        have hfetch := h1.ensures_fetch ht
        dsimp only at hnone ⊢
        cases hrun1 : Scan.fetch.run s1 with
        | error e =>
          rw [hrun1] at hnone
          cases hnone
        | ok r =>
          obtain ⟨u, s2⟩ := r
          rw [hrun1] at hnone
          dsimp only at hnone ⊢
          have hrest : ∃ rest, Drains s2 rest ∧ s2.drain fuel released = ⟨released.reverse ++ rest, none⟩ := by
            rcases hfetch u s2 hrun1 with ⟨as', h2, hlt⟩ | hdone
            · rw [hcur] at hlt
              exact ih h2 (by omega) hnone
            · have hbound := h.cursor.bound
              have hlen := hdone.length_le
              simp only [List.length_append, List.length_map, List.length_reverse] at hlen
              exact exists_drains_of_done hdone.done (by omega)
          obtain ⟨rest, hdrains, heq⟩ := hrest
          exact ⟨rest, .fetch hrun hrun1 hdrains, heq⟩
      | false =>
        obtain ⟨hne, hkeys⟩ := hrelease rfl
        dsimp only at hnone ⊢
        cases hq : s1.queue with
        | nil => exact absurd hq hne
        | cons x queue =>
          rw [hq] at hnone
          dsimp only at hnone ⊢
          have h2 := h1.release hq hkeys
          obtain ⟨rest, hdrains, heq⟩ := ih (s := { s1 with queue, taken := s1.taken + 1 }) (by simpa using h2)
            (by simp only [hcur, List.length_cons]; omega) hnone
          exact ⟨_, .release hrun hq hdrains, by rw [heq]; simp⟩

end TokenReader

/-- Before anything has been read. -/
theorem Sound.start (t : Text) : Sound t [] [] 0 (TokenReader.start t) where
  cursor := Cursor.isIn_ofText t
  tokens := rfl
  taken := rfl
  marked := fun a ha => by simp at ha
  passed := fun a ha => by simp at ha
  bounded := fun a ha => by simp at ha
  shown := fun a ha => by simp at ha
  ends_le := Nat.zero_le _
  ends_flow := fun h0 => absurd h0 (Nat.lt_irrefl 0)
  blocks := rfl
  depth := rfl
  keys := .nil
  keys_depth := fun x hx => by simp [TokenReader.start] at hx
  keys_queued := fun x hx => by simp [TokenReader.start] at hx
  allowed := fun _ h => by cases h
  undone := rfl

/-- The tokens of a text of allowed characters are those that the reader at its start hands out, if there is no fault. -/
theorem TokenStream.ofText_eq_iff (ht : t.IsRegular) (hallowed : ∀ ch ∈ t, isAllowed ch = true) :
    ofText t = ⟨rest, none⟩ ↔ Drains (.start t) rest := by
  have hscan : ofText t = (TokenReader.start t).drain (scanFuel t) [] := by
    rw [ofText, List.findIdx?_eq_none_iff.2 fun ch hch => by simpa using hallowed ch hch]
  have hexists : (ofText t).failure = none → ∃ rest, Drains (.start t) rest ∧ ofText t = ⟨rest, none⟩ := by
    rw [hscan]
    refine TokenReader.exists_drains ht (Sound.start t) ?_
    simp only [scanFuel, List.length_nil]
    omega
  constructor
  · intro h
    obtain ⟨rest', hdrains, heq⟩ := hexists (by rw [h])
    rw [h] at heq
    cases heq
    exact hdrains
  · intro h
    obtain ⟨rest', hdrains, heq⟩ := hexists (by rw [hscan]; exact h.failure_drain _ _)
    rw [heq, h.unique hdrains]

/-- Only texts of allowed characters have tokens and no fault. -/
theorem TokenStream.allowed_of_ofText (h : (ofText t).failure = none) : ∀ ch ∈ t, isAllowed ch = true := by
  rw [ofText] at h
  split at h
  · cases h
  · next hnone => simpa using List.findIdx?_eq_none_iff.1 hnone

end YamlStyle.Yaml
