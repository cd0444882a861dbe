import YamlStyle.Proofs.Yaml.Hazard
import YamlStyle.Tree.OfText
import YamlStyle.Proofs.Yaml.ScanSteps

/-!
# Where the tokens of a text stop

The tokens of a text end with the stream, at a character that may not occur, at a fault, or at a value
that no text may carry. The versions that directives name and the tags of nodes are traced back to the
text.
-/

namespace YamlStyle.Yaml

variable {t : Text}

/-- A reader of tokens at a cursor in `p`, all of whose tokens are traced. -/
structure TokenReader.Traces (t : Text) (p : Cursor → Prop) (s : TokenReader) : Prop where
  cursor : p s.cursor
  queue : ∀ x ∈ s.queue, Traced t x

namespace Scan

variable {α : Type} {p : Cursor → Prop} {Q : α → Prop}

/-- A step that adds only traced tokens and leaves the cursor. -/
def Keeps (t : Text) (p : Cursor → Prop) (x : Scan α) : Prop :=
  Meets (TokenReader.Traces t p) (Explains t) x fun _ s => s.Traces t p

/-- A step that adds only traced tokens and reads on. -/
abbrev KeepsOn (t : Text) (x : Scan α) : Prop := Keeps t (Cursor.IsAfter t []) x

theorem keeps_pure (a : α) : Keeps t p (pure a) := meets_pure fun _ h => h

theorem Keeps.bind {β : Type} {x : Scan α} {f : α → Scan β} (hx : Keeps t p x) (hf : ∀ a, Keeps t p (f a)) :
    Keeps t p (x >>= f) := Meets.bind hx hf

theorem keeps_get : Keeps t p get := meets_get.post fun _ _ h => h.2

theorem keeps_modify {f : TokenReader → TokenReader}
    (hf : ∀ s, (f s).cursor = s.cursor ∧ (f s).queue = s.queue) : Keeps t p (modify f) := by
  refine meets_modify fun s hs => ?_
  obtain ⟨hcursor, hqueue⟩ := hf s
  constructor
  · rw [hcursor]
    exact hs.cursor
  · rw [hqueue]
    exact hs.queue

theorem keeps_ite {b : Prop} [Decidable b] {x y : Scan α} (hx : Keeps t p x) (hy : Keeps t p y) :
    Keeps t p (if b then x else y) := meets_ite (fun _ => hx) fun _ => hy

theorem keeps_throw (f : Fault) (h : f.IsOfForm) : Keeps t p (throw (.fault f) : Scan α) :=
  meets_throw fun _ _ => .inl ⟨f, rfl, h⟩

theorem keeps_mark : Keeps t p mark := keeps_get.bind fun _ => keeps_pure _

theorem keeps_peek : Keeps t p peek := keeps_get.bind fun _ => keeps_pure _

theorem keeps_inFlow : Keeps t p inFlow := keeps_get.bind fun _ => keeps_pure _

theorem keeps_push {kind : TokenKind} {start stop : Mark} (h : Traced t ⟨kind, start, stop⟩) :
    Keeps t p (push kind start stop) := by
  refine meets_modify fun s hs => ⟨hs.cursor, fun x hx => ?_⟩
  rcases List.mem_append.1 hx with hx | hx
  · exact hs.queue x hx
  · rw [List.mem_singleton.1 hx]
    exact h

theorem keeps_pushHere {kind : TokenKind} (h : TracedAnywhere t kind) : Keeps t p (pushHere kind) :=
  keeps_mark.bind fun _ => keeps_push (h.traced _ _)

theorem failsIn_lex {s : TokenReader} {E : Failure → Prop} (read : Lex α) :
    FailsIn (lex read) s E ↔ FailsIn read s.cursor E := by
  rw [lex, failsIn_bind, ensures_get]
  constructor
  · rintro ⟨-, h⟩ e hr
    refine h e ?_
    simp only [hr]
    rfl
  · intro h
    refine ⟨failsIn_get, fun e hr => ?_⟩
    cases hread : read.run s.cursor with
    | error e' =>
      simp only [hread] at hr
      cases hr
      exact h e hread
    | ok r =>
      simp only [hread] at hr
      cases hr

theorem meets_lex {p' : Cursor → Prop} {read : Lex α}
    (h : Meets p (Explains t) read fun a c => Q a ∧ p' c) :
    Meets (TokenReader.Traces t p) (Explains t) (lex read) fun a s => Q a ∧ s.Traces t p' := by
  intro s hs
  obtain ⟨hok, hfail⟩ := h s.cursor hs.cursor
  exact ⟨(ensures_lex read).2 (hok.imp fun a c hc => ⟨hc.1, hc.2, hs.queue⟩), (failsIn_lex read).2 hfail⟩

theorem keepsOn_lex {read : Lex α} (hr : Lex.ReadsOn read) (hf : Faults read) : KeepsOn t (lex read) :=
  (meets_lex (Q := fun _ => True) ((Lex.meets_of_faults hr hf).post fun _ _ h => ⟨trivial, h⟩)).post fun _ _ h => h.2

theorem keepsOn_pushIndicator {kind : TokenKind} (h : TracedAnywhere t kind) (width : Nat) :
    KeepsOn t (pushIndicator kind width) :=
  keeps_mark.bind fun _ => (keepsOn_lex (Lex.reads_advance _) (Lex.faults_advance _)).bind fun _ =>
    keeps_mark.bind fun _ => keeps_push (h.traced _ _)

theorem keeps_allowKey (allowed : Bool) : Keeps t p (allowKey allowed) := keeps_modify fun _ => ⟨rfl, rfl⟩

/-! ## Possible keys and indentation -/

theorem meets_keyFault {P : TokenReader → Prop} {Q : Unit → TokenReader → Prop} (key : SimpleKey) :
    Meets P (Explains t) (keyFault key) Q :=
  (meets_get.bind fun _ => meets_pure (Q := fun _ _ => True) fun _ _ => trivial).bind fun _ =>
    meets_throw fun _ _ => .inl ⟨_, rfl, trivial⟩

theorem keeps_dropStaleKeys : Keeps t p dropStaleKeys := by
  refine meets_get.bind fun s => ?_
  dsimp only
  split
  · exact meets_keyFault _
  · refine meets_set fun s' hs => ?_
    obtain ⟨rfl, hs⟩ := hs
    exact ⟨hs.cursor, hs.queue⟩

theorem keeps_dropKey : Keeps t p dropKey := by
  have hset : ∀ (s : TokenReader) (keys : List (Nat × SimpleKey)),
      Meets (fun s' => s = s' ∧ s'.Traces t p) (Explains t) (set { s with keys }) fun _ s => s.Traces t p := by
    intro s keys
    refine meets_set fun s' hs => ?_
    obtain ⟨rfl, hs⟩ := hs
    exact ⟨hs.cursor, hs.queue⟩
  refine meets_get.bind fun s => ?_
  split
  · refine meets_ite (fun _ => ?_) fun _ => hset s _
    exact (meets_keyFault (Q := fun _ _ => False) _).bind fun _ _ h => h.elim
  · exact meets_pure fun _ h => h.2

theorem keeps_saveKey : Keeps t p saveKey := by
  refine keeps_get.bind fun s => keeps_ite ?_ (keeps_pure _)
  exact keeps_dropKey.bind fun _ => keeps_modify fun _ => ⟨rfl, rfl⟩

theorem keeps_closeBlocks (column : Int) (outers : List Int) : Keeps t p (closeBlocks column outers) := by
  induction outers with
  | nil => exact keeps_pure _
  | cons outer outers ih =>
    refine keeps_get.bind fun s => keeps_ite ?_ (keeps_pure _)
    exact (keeps_pushHere (by trivial)).bind fun _ => Keeps.bind (keeps_modify fun _ => ⟨rfl, rfl⟩) fun _ => ih

theorem keeps_unwind (column : Int) : Keeps t p (unwind column) :=
  keeps_inFlow.bind fun _ => keeps_ite (keeps_get.bind fun _ => keeps_closeBlocks _ _) (keeps_pure _)

theorem keeps_indentTo (column : Nat) : Keeps t p (indentTo column) := by
  refine meets_get.bind fun s => meets_ite (fun _ => ?_) fun _ => meets_pure fun _ h => h.2
  refine Meets.bind (R := fun _ s => s.Traces t p) (meets_set fun s' hs => ?_) fun _ => meets_pure fun _ h => h
  obtain ⟨rfl, hs⟩ := hs
  exact ⟨hs.cursor, hs.queue⟩

theorem keeps_openBlock {kind : TokenKind} (h : TracedAnywhere t kind) (cause : Cause)
    (hcause : cause.IsOfForm) : Keeps t p (openBlock kind cause) := by
  have hopen : Keeps t p (do if ← indentTo (← mark).column then pushHere kind) :=
    keeps_mark.bind fun _ => (keeps_indentTo _).bind fun _ => keeps_ite (keeps_pushHere h) (keeps_pure _)
  refine keeps_get.bind fun s => keeps_ite ?_ hopen
  exact keeps_mark.bind fun m => (keeps_throw (.here cause m) hcause).bind fun _ => hopen

theorem keeps_insertBefore {kind : TokenKind} (h : TracedAnywhere t kind) (number : Nat) (m : Mark) :
    Keeps t p (insertBefore number kind m) := by
  refine meets_modify fun s hs => ⟨hs.cursor, fun x hx => ?_⟩
  rcases List.mem_append.1 hx with hx | hx
  · rcases List.mem_append.1 hx with hx | hx
    · exact hs.queue x (List.mem_of_mem_take hx)
    · rw [List.mem_singleton.1 hx]
      exact h.traced _ _
  · exact hs.queue x (List.mem_of_mem_drop hx)

/-! ## Reading one token -/

theorem keepsOn_skipGap (fuel : Nat) : KeepsOn t (skipGap fuel) := by
  induction fuel with
  | zero => exact keeps_pure _
  | succ fuel ih =>
    refine keeps_inFlow.bind fun flow => (keepsOn_lex (Lex.readsOn_span _) (Lex.faults_span _)).bind fun _ => ?_
    -- After a comment as without one, the line ends here or the gap does.
    refine keeps_peek.bind fun found => keeps_ite ((keepsOn_lex (Lex.readsOn_span _) (Lex.faults_span _)).bind fun _ => ?_) ?_
    all_goals
      refine (keepsOn_lex Lex.readsOn_lineBreak Lex.faults_lineBreak).bind fun found => ?_
      cases found with
      | some _ => exact keeps_ite ((keeps_allowKey _).bind fun _ => ih) ih
      | none => exact keeps_pure _

theorem keepsOn_skipToToken : KeepsOn t skipToToken := by
  refine keeps_get.bind fun s => ?_
  dsimp only
  refine keeps_ite ?_ (keepsOn_skipGap _)
  exact (keepsOn_lex (Lex.reads_advance _) (Lex.faults_advance _)).bind fun _ => keepsOn_skipGap _

theorem keepsOn_streamEnd : KeepsOn t streamEnd :=
  (keeps_unwind _).bind fun _ => keeps_dropKey.bind fun _ =>
    Keeps.bind (keeps_modify fun _ => ⟨rfl, rfl⟩) fun _ => keeps_pushHere (by trivial)

theorem meets_mark : Meets (TokenReader.Traces t p) (Explains t) mark
    fun start s => s.Traces t fun c => c.mark = start ∧ p c :=
  meets_get.bind fun _ => meets_pure fun _ hs => by
    obtain ⟨rfl, hs⟩ := hs
    exact ⟨⟨rfl, hs.cursor⟩, hs.queue⟩

/-- A directive is read at a percent sign. -/
theorem meets_directive :
    Meets (TokenReader.Traces t fun c => c.peek = some '%' ∧ c.IsAfter t []) (Explains t) directive
      fun _ s => s.Traces t (Cursor.IsAfter t []) := by
  refine Meets.bind (keeps_unwind _) fun _ => Meets.bind keeps_dropKey fun _ => ?_
  refine Meets.bind (keeps_allowKey _) fun _ => meets_mark.bind fun start => Meets.bind keeps_get fun s => ?_
  refine (meets_lex (Lex.meets_directive_traced _ start)).bind fun read => meets_and fun hread => ?_
  obtain ⟨d, stop⟩ := read
  have hpush : KeepsOn t (push (.directive d) start stop) := keeps_push hread
  dsimp only
  split
  · exact Keeps.bind (keeps_modify fun _ => ⟨rfl, rfl⟩) fun _ => hpush
  · exact hpush

theorem keepsOn_documentMarker {kind : TokenKind} (h : TracedAnywhere t kind) : KeepsOn t (documentMarker kind) :=
  (keeps_unwind _).bind fun _ => keeps_dropKey.bind fun _ => (keeps_allowKey _).bind fun _ => keepsOn_pushIndicator h _

theorem keepsOn_flowStart {kind : TokenKind} (h : TracedAnywhere t kind) (bracket : Bracket) :
    KeepsOn t (flowStart kind bracket) :=
  keeps_saveKey.bind fun _ => Keeps.bind (keeps_modify fun _ => ⟨rfl, rfl⟩) fun _ => keepsOn_pushIndicator h _

theorem keepsOn_flowEnd {kind : TokenKind} (h : TracedAnywhere t kind) : KeepsOn t (flowEnd kind) :=
  keeps_dropKey.bind fun _ => Keeps.bind (keeps_modify fun _ => ⟨rfl, rfl⟩) fun _ => keepsOn_pushIndicator h _

theorem keepsOn_flowEntry : KeepsOn t flowEntry :=
  (keeps_allowKey _).bind fun _ => keeps_dropKey.bind fun _ => keepsOn_pushIndicator (by trivial) _

theorem keepsOn_blockEntry : KeepsOn t blockEntry := by
  have hrest : KeepsOn t (do allowKey true; dropKey; pushIndicator .blockEntry 1) :=
    (keeps_allowKey _).bind fun _ => keeps_dropKey.bind fun _ => keepsOn_pushIndicator (by trivial) _
  exact keeps_inFlow.bind fun _ => keeps_ite ((keeps_openBlock (by trivial) _ (by trivial)).bind fun _ => hrest) hrest

theorem keepsOn_explicitKey : KeepsOn t explicitKey := by
  have hrest : ∀ flow : Bool, KeepsOn t (do allowKey !flow; dropKey; pushIndicator .key 1) := fun flow =>
    (keeps_allowKey _).bind fun _ => keeps_dropKey.bind fun _ => keepsOn_pushIndicator (by trivial) _
  exact keeps_inFlow.bind fun flow => keeps_ite ((keeps_openBlock (by trivial) _ (by trivial)).bind fun _ => hrest flow) (hrest flow)

theorem keepsOn_value : KeepsOn t value := by
  have hend : ∀ allowed : Bool, KeepsOn t (do allowKey allowed; pushIndicator .value 1) := fun allowed =>
    (keeps_allowKey _).bind fun _ => keepsOn_pushIndicator (by trivial) _
  refine meets_get.bind fun s => ?_
  dsimp only
  split
  · next key _ =>
    refine Meets.bind (R := fun _ s => s.Traces t (Cursor.IsAfter t [])) (meets_set fun s' hs => ?_) fun _ => ?_
    · obtain ⟨rfl, hs⟩ := hs
      exact ⟨hs.cursor, hs.queue⟩
    · refine Keeps.bind (keeps_insertBefore (by trivial) _ _) fun _ => keeps_ite ?_ (hend false)
      refine (keeps_indentTo _).bind fun opens => keeps_ite ?_ (hend false)
      exact (keeps_insertBefore (by trivial) _ _).bind fun _ => hend false
  · have hrest : KeepsOn t (do allowKey !!s.flow.isEmpty; dropKey; pushIndicator .value 1) :=
      (keeps_allowKey _).bind fun _ => keeps_dropKey.bind fun _ => keepsOn_pushIndicator (by trivial) _
    exact Meets.pre (keeps_ite ((keeps_openBlock (by trivial) _ (by trivial)).bind fun _ => hrest) hrest) fun _ h => h.2

theorem keepsOn_keyCandidate {read : Lex TokenKind}
    (h : Meets (Cursor.IsAfter t []) (Explains t) read fun kind c => TracedAnywhere t kind ∧ c.IsAfter t []) :
    KeepsOn t (keyCandidate read) := by
  refine keeps_saveKey.bind fun _ => (keeps_allowKey _).bind fun _ => keeps_mark.bind fun start => ?_
  exact (meets_lex h).bind fun kind => meets_and fun hkind => keeps_mark.bind fun stop => keeps_push (hkind.traced _ _)

theorem keepsOn_blockScalar (isFolded : Bool) : KeepsOn t (blockScalar isFolded) := by
  refine (keeps_allowKey _).bind fun _ => keeps_dropKey.bind fun _ => keeps_mark.bind fun start => ?_
  refine keeps_get.bind fun s => (keepsOn_lex ?_ (Lex.faults_blockScalar _ _)).bind fun read => ?_
  · exact fun c => (Lex.reads_blockScalar _ _ c).least (Nat.zero_le 1)
  · obtain ⟨value, stop, blankLines⟩ := read
    have hpush : KeepsOn t (push (.scalar value (if isFolded then .folded else .literal)) start stop) :=
      keeps_push (by cases isFolded <;> trivial)
    exact keeps_ite (keepsOn_skipToToken.bind fun _ => hpush) hpush

theorem readsOn_plainScalar (place : Lex.PlainPlace) : Lex.ReadsOn (Lex.plainScalar place) :=
  Lex.reads_get.bind fun _ => Lex.reads_mark.bind fun _ => Lex.readsOn_plainRest _ _ _ _

theorem keepsOn_plainScalar : KeepsOn t plainScalar := by
  refine keeps_saveKey.bind fun _ => (keeps_allowKey _).bind fun _ => keeps_get.bind fun s => ?_
  have hread : Meets (Cursor.IsAfter t []) (Explains t) (Lex.plainScalar ⟨!s.flow.isEmpty, s.version, s.indent + 1⟩)
      fun read c => read.text.getLast? ≠ some '\n' ∧ c.IsAfter t [] :=
    (Lex.meets_of_faults (readsOn_plainScalar _) (Lex.faults_plainScalar _)).and_ensures fun _ => Lex.getLast?_plainScalar
  refine keeps_mark.bind fun start => (meets_lex hread).bind fun read => meets_and fun hlast => ?_
  have hpush : KeepsOn t (push (.scalar (String.ofList read.text) .plain) start read.stop) := keeps_push (by
    show (String.ofList read.text).toList.getLast? ≠ some '\n'
    rwa [String.toList_ofList])
  exact keeps_ite ((keeps_allowKey _).bind fun _ => hpush) hpush

theorem readsOn_anchorName (context : Context) : Lex.ReadsOn (Lex.anchorName context) :=
  Lex.reads_mark.bind fun _ => (Lex.reads_advance 1).bind fun _ => (Lex.readsOn_span _).bind fun _ =>
    Lex.reads_peek.bind fun _ =>
      Lex.reads_ite ((Lex.reads_fail _ _ _).bind fun _ => Lex.reads_pure _) (Lex.reads_pure _)

/-- A token is read at the character that it starts with. -/
theorem meets_tokenAt (c : Char) :
    Meets (TokenReader.Traces t fun cursor => cursor.peek = some c ∧ cursor.IsAfter t []) (Explains t) (tokenAt c)
      fun _ s => s.Traces t (Cursor.IsAfter t []) := by
  refine meets_get.bind fun s => ?_
  have hon : ∀ {x : Scan Unit}, KeepsOn t x →
      Meets (fun s' => s = s' ∧ s'.Traces t fun cursor => cursor.peek = some c ∧ cursor.IsAfter t []) (Explains t) x
        fun _ s => s.Traces t (Cursor.IsAfter t []) :=
    fun h => Meets.pre h fun s hs => ⟨hs.2.cursor.2, hs.2.queue⟩
  have hkind : ∀ {α : Type} {read : Lex α} (f : α → TokenKind),
      Meets (Cursor.IsAfter t []) (Explains t) read (fun a cursor => TracedAnywhere t (f a) ∧ cursor.IsAfter t []) →
      KeepsOn t (keyCandidate (f <$> read)) := by
    intro α read f h
    rw [map_eq_pure_bind]
    exact keepsOn_keyCandidate (h.bind fun a => meets_pure fun _ h => h)
  have hname : ∀ context : Context, Meets (Cursor.IsAfter t []) (Explains t) (Lex.anchorName context)
      fun name cursor => Unbroken name ∧ cursor.IsAfter t [] := fun context =>
    (Lex.meets_of_faults (readsOn_anchorName _) (Lex.faults_anchorName _)).and_ensures fun _ =>
      Lex.unbroken_anchorName context
  have hquoted : ∀ (double : Bool) (style : ScalarStyle), (∀ a, TracedAnywhere t (.scalar a style)) →
      Meets (Cursor.IsAfter t []) (Explains t) (Lex.quotedScalar double)
        fun a cursor => TracedAnywhere t (.scalar a style) ∧ cursor.IsAfter t [] := fun double style h =>
    (Lex.meets_quotedScalar double).post fun a _ hc => ⟨h a, hc⟩
  dsimp only
  refine meets_ite (fun h => ?_) fun _ => meets_ite (fun _ => ?_) fun _ => meets_ite (fun _ => ?_) fun _ =>
    meets_ite (fun _ => ?_) fun _ => meets_ite (fun _ => ?_) fun _ => meets_ite (fun _ => ?_) fun _ =>
    meets_ite (fun _ => ?_) fun _ => meets_ite (fun _ => ?_) fun _ => meets_ite (fun _ => ?_) fun _ =>
    meets_ite (fun _ => ?_) fun _ => meets_ite (fun _ => ?_) fun _ => meets_ite (fun _ => ?_) fun _ =>
    meets_ite (fun _ => ?_) fun _ => meets_ite (fun _ => ?_) fun _ => meets_ite (fun _ => ?_) fun _ =>
    meets_ite (fun _ => ?_) fun _ => meets_ite (fun _ => ?_) fun _ => meets_ite (fun _ => ?_) fun _ =>
    meets_ite (fun _ => ?_) fun _ => ?_
  · obtain rfl : c = '%' := by simpa using (Bool.and_eq_true_iff.1 h).1
    exact meets_directive.pre fun _ h => h.2
  · exact hon (keepsOn_documentMarker (by trivial))
  · exact hon (keepsOn_documentMarker (by trivial))
  · exact hon (keepsOn_flowStart (by trivial) _)
  · exact hon (keepsOn_flowStart (by trivial) _)
  · exact hon (keepsOn_flowEnd (by trivial))
  · exact hon (keepsOn_flowEnd (by trivial))
  · exact hon keepsOn_flowEntry
  · exact hon keepsOn_blockEntry
  · exact hon keepsOn_explicitKey
  · exact hon keepsOn_value
  · exact hon (hkind _ (hname _))
  · exact hon (hkind _ (hname _))
  · exact hon (hkind _ (Lex.meets_tag _))
  · exact hon (keepsOn_blockScalar _)
  · exact hon (keepsOn_blockScalar _)
  · exact hon (hkind _ (hquoted _ _ fun _ => trivial))
  · exact hon (hkind _ (hquoted _ _ fun _ => trivial))
  · exact hon keepsOn_plainScalar
  · exact hon (keeps_mark.bind fun _ => keeps_throw _ trivial)

theorem keepsOn_fetch : KeepsOn t fetch := by
  refine keepsOn_skipToToken.bind fun _ => keeps_dropStaleKeys.bind fun _ => keeps_mark.bind fun m => ?_
  refine (keeps_unwind _).bind fun _ => ?_
  refine Meets.bind (R := fun found s => s.Traces t fun c => c.peek = found ∧ c.IsAfter t []) ?_ fun found => ?_
  · exact meets_get.bind fun s => meets_pure fun s' hs => by
      obtain ⟨rfl, hs⟩ := hs
      exact ⟨⟨rfl, hs.cursor⟩, hs.queue⟩
  · cases found with
    | none => exact Meets.pre keepsOn_streamEnd fun s hs => ⟨hs.cursor.2, hs.queue⟩
    | some c => exact meets_tokenAt c

theorem keeps_needsMore : Keeps t p needsMore := by
  refine keeps_get.bind fun s => keeps_ite (keeps_pure _) (keeps_get.bind fun s => keeps_ite (keeps_pure _) ?_)
  exact keeps_dropStaleKeys.bind fun _ => keeps_get.bind fun _ => keeps_pure _

end Scan

/-! ## The whole stream -/

/-- A stream whose tokens are traced and whose failure is explained. -/
structure TokenStream.Traces (t : Text) (stream : TokenStream) : Prop where
  tokens : ∀ r ∈ stream.tokens, Traced t r.token
  failure : ∀ e, stream.failure = some e → e.IsOfForm ∨ TokenHazard t e

theorem Explains.ofForm {e : Failure} (h : Explains t e) : e.IsOfForm ∨ TokenHazard t e := by
  rcases h with ⟨f, rfl, hform⟩ | h
  · exact .inl hform
  · exact .inr h

theorem Failure.IsOfForm.recoverable {e : Failure} (h : e.IsOfForm) : Tree.isRecoverable e = true := by
  cases e with
  | unprintable | fault => rfl
  | _ => exact h.elim

theorem traces_failed {released : List Released} {e : Failure} (hr : ∀ r ∈ released, Traced t r.token)
    (he : Explains t e) : TokenStream.Traces t ⟨released.reverse, some e⟩ where
  tokens r h := hr r (List.mem_reverse.1 h)
  failure e' h := by
    cases h
    exact he.ofForm

theorem traces_drained {released : List Released} (hr : ∀ r ∈ released, Traced t r.token) :
    TokenStream.Traces t ⟨released.reverse, none⟩ where
  tokens r h := hr r (List.mem_reverse.1 h)
  failure e h := by cases h

theorem traces_drain {fuel : Nat} {s : TokenReader} {released : List Released} (hs : s.Traces t (Cursor.IsAfter t []))
    (hr : ∀ r ∈ released, Traced t r.token) : (s.drain fuel released).Traces t := by
  induction fuel generalizing s released with
  | zero => exact traces_drained hr
  | succ fuel ih =>
    obtain ⟨hmore, hmoreFails⟩ := Scan.keeps_needsMore s hs
    rw [TokenReader.drain]
    split
    · next e he => exact traces_failed hr (hmoreFails e he)
    · next s' he =>
      obtain ⟨hfetch, hfetchFails⟩ := Scan.keepsOn_fetch s' (hmore _ _ he)
      split
      · next e he => exact traces_failed hr (hfetchFails e he)
      · next s'' he => exact ih (hfetch _ _ he) hr
    · next s' he =>
      have hs' := hmore _ _ he
      split
      · exact traces_drained hr
      · next x queue hq =>
        refine ih ⟨hs'.cursor, fun y hy => hs'.queue y ?_⟩ fun r hmem => ?_
        · rw [hq]
          exact .tail _ hy
        · rcases List.mem_cons.1 hmem with rfl | hmem
          · exact hs'.queue x (by rw [hq]; exact .head _)
          · exact hr r hmem

/-- The tokens of a text are traced back to it, and stop for a reason. -/
theorem traces_ofText (t : Text) : (TokenStream.ofText t).Traces t := by
  unfold TokenStream.ofText
  split
  · constructor
    · intro r h
      cases h
    · intro e h
      cases h
      exact .inl trivial
  · refine traces_drain ⟨Cursor.isAfter_ofText t, fun x hx => ?_⟩ fun r hr => by cases hr
    rw [List.mem_singleton.1 hx]
    trivial

end YamlStyle.Yaml

namespace YamlStyle

open Yaml (TokenHazard)

variable {t : Text} {f : Yaml.Failure}

/-! ## The tree and the lexemes -/

/-- What is read after a fault is the end of the same text. -/
theorem Tree.hazard_of_grow {offset : Nat} {b : Builder} {halts : List Halt}
    (h : (grow t offset b halts).root = .error f) : TokenHazard t f := by
  fun_induction grow t offset b halts with
  | case1 => cases h
  | case2 _ _ _ _ _ _ _ _ _ _ _ _ ih => exact ih h
  | case3 => cases h
  | case4 => cases h
  | case5 offset _ _ _ _ hfailure hrecoverable =>
    cases h
    rcases (Yaml.traces_ofText (t.drop offset)).failure f hfailure with hform | hhazard
    · exact absurd hform.recoverable hrecoverable
    · exact hhazard.mono (List.drop_suffix offset t).isInfix

theorem Tree.hazard_of_build (h : (build t).root = .error f) : TokenHazard t f := hazard_of_grow h

end YamlStyle
