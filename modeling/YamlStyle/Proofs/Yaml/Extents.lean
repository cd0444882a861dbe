import YamlStyle.Proofs.Text.Place
import YamlStyle.Proofs.Yaml.Scanning
import YamlStyle.Proofs.Yaml.TokenHazards

/-!
# What tokens take up

Whatever a text holds, each of its tokens starts within it, with a character that its kind may start with.
Punctuation stays on its line, and a plain scalar does so unless a space or a break is between its words
(`isIn_of_mem_ofText`).
-/

namespace YamlStyle.Yaml

/-- Whether a scalar has a space or a break that does not end it. -/
def HasGap (value : Text) : Prop := ∃ c ∈ value.dropLast, endsName (some c) = true

/-- What a token may stand for. -/
def TokenKind.Takes (source : Text) : TokenKind → Prop
  | .flowSequenceStart | .flowSequenceEnd | .flowMappingStart | .flowMappingEnd
  | .key | .value | .blockEntry | .flowEntry => '\n' ∉ source
  | .scalar text .plain => '\n' ∉ source ∨ HasGap text.toList
  | _ => True

/-- No end of a flow collection. -/
def IsOpen (c : Option Char) : Prop := c ≠ some ']' ∧ c ≠ some '\x7d'

/-- What a token may start with. Only the ends of flow collections start with the characters for them, but
blocks, their ends and keys may start before anything. Quotes open quoted scalars. -/
def TokenKind.MayStartWith (c : Option Char) : TokenKind → Prop
  | .flowSequenceEnd => c = some ']'
  | .flowMappingEnd => c = some '\x7d'
  | .scalar _ .single => c = some '\''
  | .scalar _ .double => c = some '"'
  | .streamStart | .streamEnd | .blockSequenceStart | .blockMappingStart | .blockEnd | .key => True
  | _ => IsOpen c

/-- A token that starts within a text and stands for what its kind may. -/
structure Token.IsIn (t : Text) (x : Token) : Prop where
  bound : x.start.offset ≤ t.length
  starts : x.kind.MayStartWith t[x.start.offset]?
  takes : x.kind.Takes (t.slice x.start.offset x.stop.offset)

/-- No scalar starts with a bracket that closes a flow collection. -/
theorem TokenKind.MayStartWith.isOpen {c : Option Char} {text : String} {style : ScalarStyle}
    (h : (TokenKind.scalar text style).MayStartWith c) : IsOpen c := by
  cases style with
  | single | double =>
    rw [show c = some _ from h]
    exact ⟨by decide, by decide⟩
  | _ => exact h

theorem TokenKind.takes_of_not_mem {source : Text} (h : '\n' ∉ source) (kind : TokenKind) : kind.Takes source := by
  cases kind with
  | scalar value style => cases style <;> first | exact .inl h | trivial
  | _ => first | exact h | trivial

theorem Token.isIn_empty {t : Text} {m : Mark} (h : m.offset ≤ t.length) {kind : TokenKind}
    (hstarts : ∀ c, kind.MayStartWith c) : Token.IsIn t ⟨kind, m, m⟩ :=
  ⟨h, hstarts _, TokenKind.takes_of_not_mem (by simp [Text.slice]) kind⟩

namespace Cursor

variable {t taken before : Text} {c c' : Cursor}

theorem IsAfter.bound (h : c.IsAfter t before) : c.mark.offset ≤ t.length := by
  have := h.offset
  omega

theorem IsAfter.getElem?_eq (h : c.IsAfter t before) : t[c.mark.offset]? = c.peek := by
  rw [Cursor.peek, h.rest_eq, List.head?_drop]

theorem IsAfter.skip (h : c.IsAfter t before) (n : Nat) : (c.skip n).IsAfter t [] :=
  (h.append (passes_skip n c)).weaken

/-- What a reader passes over is the text between the marks. -/
theorem IsAfter.slice_eq (h : c.IsAfter t before) (hp : c.Passes taken c') :
    t.slice c.mark.offset c'.mark.offset = taken := by
  rw [Text.slice, ← h.rest_eq, hp.rest, hp.offset, Nat.add_sub_cancel_left, List.take_left]

end Cursor

/-! ## Plain scalars -/

namespace Lex

variable {c c₀ : Cursor} {place : PlainPlace}

theorem plainWord_eq_take (place : PlainPlace) (r : Text) : r.take (plainWord place r).length = plainWord place r := by
  induction r with
  | nil => rfl
  | cons c r ih =>
    rw [plainWord]
    split
    · rw [List.length_cons, List.take_succ_cons, ih]
    · rfl

theorem isBreak_of_lineBreak {ch : Char} (h : c.lineBreak.1 = some ch) : isBreak ch = true := by
  unfold Cursor.lineBreak at h
  split at h
  · cases h
    rfl
  · split at h
    · cases h
      rfl
    · split at h
      · next hbreak =>
        cases h
        exact hbreak
      · cases h
  · cases h

theorem ensures_plainBreaks (fuel : Nat) {read : Text} (h : ∀ ch ∈ read, isBreak ch = true) :
    Ensures (plainBreaks fuel read) c fun further _ => ∀ text ∈ further, ∀ ch ∈ text, isBreak ch = true := by
  induction fuel generalizing c read with
  | zero =>
    rw [plainBreaks, ensures_pure]
    rintro _ ⟨⟩
    exact h
  | succ fuel ih =>
    simp only [plainBreaks, ensures_bind]
    refine (ensures_span _).imp fun _ d _ => Scan.ensures_lineBreak.2 ?_
    split
    · next ch hch =>
      simp only [ensures_bind, ensures_get, ensures_ite, ensures_pure]
      refine ⟨fun _ _ hnone => (by cases hnone), fun _ => ih fun x hx => ?_⟩
      rcases List.mem_append.1 hx with hx | hx
      · exact h x hx
      · rw [List.mem_singleton.1 hx]
        exact isBreak_of_lineBreak hch
    · rw [ensures_pure]
      rintro _ ⟨⟩
      exact h

/-- A gap has a space or a break. -/
theorem ensures_plainSpaces : Ensures plainSpaces c fun found _ =>
    ∀ gap ∈ found.1, ∃ ch ∈ gap, endsName (some ch) = true := by
  simp only [plainSpaces, ensures_bind]
  refine (ensures_span _).imp fun blanks d hspan => Scan.ensures_lineBreak.2 ?_
  split
  · next first hfirst =>
    have hbreak : endsName (some first) = true := by simp [endsName, isBreak_of_lineBreak hfirst]
    simp only [ensures_bind, ensures_get, ensures_ite, ensures_pure]
    refine ⟨fun _ _ hnone => (by cases hnone), fun _ => (ensures_plainBreaks _ (by simp)).imp ?_⟩
    intro further _ hfurther gap hgap
    obtain ⟨further, rfl, rfl⟩ := Option.map_eq_some_iff.1 hgap
    unfold folded
    split
    · split
      · exact ⟨' ', List.mem_singleton_self _, rfl⟩
      · next hne =>
        obtain ⟨ch, rest, rfl⟩ := List.exists_cons_of_ne_nil (by simpa using hne)
        exact ⟨ch, .head _, by simp [endsName, hfurther _ rfl ch (.head _)]⟩
    · next hsome =>
      cases hsome
      exact ⟨first, .head _, hbreak⟩
    · next hsome => cases hsome
  · rw [ensures_pure]
    intro gap hgap
    split at hgap
    · cases hgap
    · next hne =>
      cases hgap
      obtain ⟨ch, rest, rfl⟩ := List.exists_cons_of_ne_nil (by simpa using hne)
      have hspace : ch = ' ' := by simpa using hspan.2 ch (.head _)
      exact ⟨ch, .head _, by rw [hspace]; rfl⟩

theorem hasGap_append {read gap word : Text} (hgap : ∃ ch ∈ gap, endsName (some ch) = true) (hword : word ≠ []) :
    HasGap (read ++ gap ++ word) := by
  obtain ⟨ch, hmem, hch⟩ := hgap
  refine ⟨ch, ?_, hch⟩
  rw [List.dropLast_append_of_ne_nil hword]
  simp [hmem]

/-- What a plain scalar with a value may take up from a cursor on, up to a mark. -/
def Spans (c : Cursor) (value : Text) (stop : Mark) : Prop :=
  ∃ taken c', c.Passes taken c' ∧ stop = c'.mark ∧ ('\n' ∉ taken ∨ HasGap value)

/-- Every word but the first follows a gap. -/
theorem ensures_plainRest (fuel : Nat) {before gap : Text} {read : PlainRead} (hbefore : c₀.Passes before c)
    (hgap : before = [] ∨ ∃ ch ∈ gap, endsName (some ch) = true) (hread : Spans c₀ read.text read.stop) :
    Ensures (plainRest place fuel gap read) c fun read' _ => Spans c₀ read'.text read'.stop := by
  induction fuel generalizing c before gap read with
  | zero =>
    rw [plainRest, ensures_pure]
    exact hread
  | succ fuel ih =>
    simp only [plainRest, ensures_bind, ensures_get, ensures_ite, ensures_pure, Scan.ensures_advance, ensures_mark]
    refine ⟨fun _ => hread, fun hgoes => ?_⟩
    -- A gap only becomes part of the value together with the word after it, so it never ends the value.
    have hword : plainWord place c.rest ≠ [] := by
      intro hnil
      simp [hnil] at hgoes
    have hpasses := Cursor.passes_skip (plainWord place c.rest).length c
    rw [plainWord_eq_take] at hpasses
    have hspans : Spans c₀ (read.text ++ gap ++ plainWord place c.rest)
        (c.skip (plainWord place c.rest).length).mark := by
      refine ⟨_, _, hbefore.trans hpasses, rfl, ?_⟩
      rcases hgap with rfl | hgap
      · exact .inl (not_mem_plainWord place c.rest)
      · exact .inr (hasGap_append hgap hword)
    intro found d hrun
    have hblank := ensures_plainSpaces found d hrun
    obtain ⟨taken, htaken⟩ := (readsOn_plainSpaces _ found d hrun).passes
    obtain ⟨spaces, afterBreak⟩ := found
    cases spaces with
    | none => exact (ensures_pure _).2 hspans
    | some spaces =>
      simp only [ensures_bind, ensures_get, ensures_ite, ensures_pure]
      exact ⟨fun _ => hspans, fun _ => ih ((hbefore.trans hpasses).trans htaken) (.inr (hblank spaces rfl)) hspans⟩

/-- A plain scalar is one word, or it has a gap. -/
theorem ensures_plainScalar : Ensures (plainScalar place) c fun read _ => Spans c read.text read.stop := by
  simp only [plainScalar, ensures_bind, ensures_get, ensures_mark]
  exact ensures_plainRest _ (.refl c) (.inl rfl) ⟨[], c, .refl c, rfl, .inl List.not_mem_nil⟩

end Lex

/-! ## Scanning -/

/-- A reader within a text at `c`, with the tokens that wait and the possible keys. -/
structure IsWithin (t : Text) (c : Cursor) (queue : List Token) (keys : List (Nat × SimpleKey)) : Prop where
  cursor : c.IsAfter t []
  queue : ∀ x ∈ queue, x.IsIn t
  keys : ∀ x ∈ keys, x.2.mark.offset ≤ t.length

abbrev TokenReader.IsIn (t : Text) (s : TokenReader) : Prop := IsWithin t s.cursor s.queue s.keys

namespace IsWithin

variable {t : Text} {c c' : Cursor} {queue : List Token} {keys : List (Nat × SimpleKey)}

theorem read (h : IsWithin t c queue keys) (hc : c'.IsAfter t []) : IsWithin t c' queue keys := ⟨hc, h.queue, h.keys⟩

theorem push (h : IsWithin t c queue keys) {x : Token} (hx : x.IsIn t) : IsWithin t c (queue ++ [x]) keys where
  cursor := h.cursor
  queue := List.forall_mem_append.2 ⟨h.queue, List.forall_mem_singleton.2 hx⟩
  keys := h.keys

theorem pushHere (h : IsWithin t c queue keys) {kind : TokenKind} (hstarts : ∀ c, kind.MayStartWith c) :
    IsWithin t c (queue ++ [⟨kind, c.mark, c.mark⟩]) keys :=
  h.push (Token.isIn_empty h.cursor.bound hstarts)

/-- A token whose kind may take up anything. -/
theorem pushFree (h : IsWithin t c queue keys) (hc : c'.IsAfter t []) {kind : TokenKind}
    (hstarts : kind.MayStartWith c.peek) (hfree : ∀ source, kind.Takes source) (stop : Mark) :
    IsWithin t c' (queue ++ [⟨kind, c.mark, stop⟩]) keys :=
  (h.read hc).push ⟨h.cursor.bound, h.cursor.getElem?_eq ▸ hstarts, hfree _⟩

/-- A token for one character that is no line feed. -/
theorem pushIndicator (h : IsWithin t c queue keys) {ch : Char} (hch : c.peek = some ch) (hne : ch ≠ '\n')
    {kind : TokenKind} (hstarts : kind.MayStartWith (some ch)) :
    IsWithin t (c.skip 1) (queue ++ [⟨kind, c.mark, (c.skip 1).mark⟩]) keys := by
  have hstarts' : kind.MayStartWith t[c.mark.offset]? := by rwa [h.cursor.getElem?_eq, hch]
  refine (h.read (h.cursor.skip 1)).push ⟨h.cursor.bound, hstarts', TokenKind.takes_of_not_mem ?_ kind⟩
  have hslice : t.slice c.mark.offset (c.skip 1).mark.offset = [ch] := h.cursor.slice_eq (Cursor.passes_next hch)
  simpa only [hslice, List.mem_singleton] using Ne.symm hne

theorem insert (h : IsWithin t c queue keys) {m : Mark} (hm : m.offset ≤ t.length) (n : Nat) (kind : TokenKind)
    (hstarts : ∀ c, kind.MayStartWith c) :
    IsWithin t c (queue.take n ++ [⟨kind, m, m⟩] ++ queue.drop n) keys where
  cursor := h.cursor
  queue := by
    have hbefore : ∀ x ∈ queue.take n, x.IsIn t := fun x hx => h.queue x (List.mem_of_mem_take hx)
    have hafter : ∀ x ∈ queue.drop n, x.IsIn t := fun x hx => h.queue x (List.mem_of_mem_drop hx)
    have hnew := List.forall_mem_singleton.2 (Token.isIn_empty hm hstarts)
    exact List.forall_mem_append.2 ⟨List.forall_mem_append.2 ⟨hbefore, hnew⟩, hafter⟩
  keys := h.keys

theorem forget (h : IsWithin t c queue keys) (p : Nat × SimpleKey → Bool) : IsWithin t c queue (keys.filter p) :=
  ⟨h.cursor, h.queue, fun x hx => h.keys x (List.mem_filter.1 hx).1⟩

theorem forgetAll (h : IsWithin t c queue keys) : IsWithin t c queue [] :=
  ⟨h.cursor, h.queue, fun x hx => by cases hx⟩

theorem note (h : IsWithin t c queue keys) (depth number : Nat) (required : Bool) :
    IsWithin t c queue (keys ++ [(depth, ⟨number, required, c.mark⟩)]) where
  cursor := h.cursor
  queue := h.queue
  keys := List.forall_mem_append.2 ⟨h.keys, List.forall_mem_singleton.2 h.cursor.bound⟩

end IsWithin

namespace Scan

variable {t : Text} {s : TokenReader} {ch : Char} {α : Type}

theorem isIn_closeBlocks (h : s.IsIn t) (column : Int) (outers : List Int) :
    Ensures (closeBlocks column outers) s fun _ s' => s'.IsIn t ∧ s'.cursor = s.cursor := by
  induction outers generalizing s with
  | nil =>
    rw [closeBlocks, ensures_pure]
    exact ⟨h, rfl⟩
  | cons outer outers ih =>
    rw [closeBlocks, ensures_bind, ensures_get, ensures_ite]
    refine ⟨fun _ => ?_, fun _ => (ensures_pure _).2 ⟨h, rfl⟩⟩
    rw [ensures_bind, ensures_pushHere, ensures_bind, ensures_modify]
    exact ih (h.pushHere fun _ => trivial)

theorem isIn_unwind (h : s.IsIn t) (column : Int) :
    Ensures (unwind column) s fun _ s' => s'.IsIn t ∧ s'.cursor = s.cursor := by
  rw [unwind, ensures_bind, ensures_inFlow, ensures_ite]
  refine ⟨fun _ => ?_, fun _ => (ensures_pure _).2 ⟨h, rfl⟩⟩
  rw [ensures_bind, ensures_get]
  exact isIn_closeBlocks h column s.indents

theorem isIn_skipToToken (h : s.IsIn t) : Ensures skipToToken s fun _ s' => s'.IsIn t := by
  refine ensures_skipToToken.imp fun _ s' hskips => ?_
  obtain ⟨cursor, keyAllowed, rfl, hreach, -⟩ := hskips
  exact h.read (h.cursor.reaches hreach)

theorem isIn_saveKey {Q : Unit → TokenReader → Prop} (h : s.IsIn t)
    (hq : ∀ keys, IsWithin t s.cursor s.queue keys → Q () { s with keys }) : Ensures saveKey s Q :=
  ensures_saveKey.2 ⟨fun _ _ => hq _ ((h.forget _).note _ _ _), fun _ => hq s.keys h⟩

theorem isIn_streamEnd (h : s.IsIn t) : Ensures streamEnd s fun _ s' => s'.IsIn t := by
  simp only [streamEnd, ensures_bind, ensures_dropKey, ensures_modify, ensures_pushHere]
  exact (isIn_unwind h _).imp fun _ s' hs' _ => hs'.1.forgetAll.pushHere fun _ => trivial

theorem isIn_directive (h : s.IsIn t) (hopen : IsOpen s.cursor.peek) :
    Ensures directive s fun _ s' => s'.IsIn t := by
  simp only [directive, ensures_bind, ensures_dropKey, ensures_allowKey, ensures_mark, ensures_get, ensures_lex]
  refine (isIn_unwind h _).imp fun _ s' hs' _ => fun read c hread => ?_
  have hc := hs'.1.cursor.reaches (Lex.reads_directive _ _ read c hread)
  have hfree : ∀ source, (TokenKind.directive read.1).Takes source := fun _ => trivial
  have hstarts : (TokenKind.directive read.1).MayStartWith s'.cursor.peek := by rwa [hs'.2]
  have hpush := (hs'.1.forget (·.1 != s'.flow.length)).pushFree hc hstarts hfree read.2
  dsimp only
  split <;> simp only [ensures_bind, ensures_modify, ensures_push] <;> exact hpush

theorem isIn_documentMarker (h : s.IsIn t) {kind : TokenKind} (hstarts : kind.MayStartWith s.cursor.peek)
    (hfree : ∀ source, kind.Takes source) : Ensures (documentMarker kind) s fun _ s' => s'.IsIn t := by
  simp only [documentMarker, ensures_bind, ensures_dropKey, ensures_allowKey, ensures_pushIndicator]
  exact (isIn_unwind h _).imp fun _ s' hs' _ => (hs'.1.forget _).pushFree (hs'.1.cursor.skip 3) (hs'.2 ▸ hstarts) hfree _

theorem isIn_flowStart (h : s.IsIn t) (hch : s.cursor.peek = some ch) (hne : ch ≠ '\n') {kind : TokenKind}
    (hstarts : kind.MayStartWith (some ch)) (bracket : Bracket) :
    Ensures (flowStart kind bracket) s fun _ s' => s'.IsIn t := by
  simp only [flowStart, ensures_bind, ensures_modify, ensures_pushIndicator]
  exact isIn_saveKey h fun keys hkeys => hkeys.pushIndicator hch hne hstarts

theorem isIn_flowEnd (h : s.IsIn t) (hch : s.cursor.peek = some ch) (hne : ch ≠ '\n') {kind : TokenKind}
    (hstarts : kind.MayStartWith (some ch)) : Ensures (flowEnd kind) s fun _ s' => s'.IsIn t := by
  simp only [flowEnd, ensures_bind, ensures_dropKey, ensures_modify, ensures_pushIndicator]
  exact fun _ => (h.forget _).pushIndicator hch hne hstarts

theorem isIn_flowEntry (h : s.IsIn t) (hch : s.cursor.peek = some ch) (hne : ch ≠ '\n') (hopen : IsOpen (some ch)) :
    Ensures flowEntry s fun _ s' => s'.IsIn t := by
  simp only [flowEntry, ensures_bind, ensures_allowKey, ensures_dropKey, ensures_pushIndicator]
  exact fun _ => (h.forget _).pushIndicator hch hne hopen

theorem isIn_openBlock (h : s.IsIn t) {kind : TokenKind} (hstarts : ∀ c, kind.MayStartWith c) (cause : Cause) :
    Ensures (openBlock kind cause) s fun _ s' => s'.IsIn t ∧ s'.cursor = s.cursor :=
  (ensures_openBlock kind cause).2 fun _ => ⟨fun _ => ⟨h.pushHere hstarts, rfl⟩, fun _ => ⟨h, rfl⟩⟩

/-- Punctuation that may open a block before it. -/
theorem isIn_afterBlock {x : Unit → Scan Unit} (h : s.IsIn t) (flow : Bool) {kind : TokenKind}
    (hstarts : ∀ c, kind.MayStartWith c) (cause : Cause)
    (hx : ∀ s' : TokenReader, s'.IsIn t → s'.cursor = s.cursor → Ensures (x ()) s' fun _ s' => s'.IsIn t) :
    Ensures (if !flow then openBlock kind cause >>= x else x ()) s fun _ s' => s'.IsIn t := by
  cases flow with
  | true => exact hx s h rfl
  | false => exact ensures_bind.2 ((isIn_openBlock h hstarts cause).imp fun _ s' hs' => hx s' hs'.1 hs'.2)

theorem isIn_blockEntry (h : s.IsIn t) (hch : s.cursor.peek = some ch) (hne : ch ≠ '\n') (hopen : IsOpen (some ch)) :
    Ensures blockEntry s fun _ s' => s'.IsIn t := by
  rw [blockEntry, ensures_bind, ensures_inFlow]
  dsimp only
  refine isIn_afterBlock h _ ?_ _ fun s' h' hcursor => ?_
  · exact fun _ => trivial
  simp only [ensures_bind, ensures_allowKey, ensures_dropKey, ensures_pushIndicator]
  exact fun _ => (h'.forget _).pushIndicator (hcursor ▸ hch) hne hopen

theorem isIn_explicitKey (h : s.IsIn t) (hch : s.cursor.peek = some ch) (hne : ch ≠ '\n') :
    Ensures explicitKey s fun _ s' => s'.IsIn t := by
  rw [explicitKey, ensures_bind, ensures_inFlow]
  dsimp only
  refine isIn_afterBlock h _ ?_ _ fun s' h' hcursor => ?_
  · exact fun _ => trivial
  simp only [ensures_bind, ensures_allowKey, ensures_dropKey, ensures_pushIndicator]
  exact fun _ => (h'.forget _).pushIndicator (hcursor ▸ hch) hne trivial

/-- The possible key that a colon claims starts within the text. -/
theorem isIn_value (h : s.IsIn t) (hch : s.cursor.peek = some ch) (hne : ch ≠ '\n') (hopen : IsOpen (some ch)) :
    Ensures value s fun _ s' => s'.IsIn t := by
  rw [value, ensures_bind, ensures_get]
  dsimp only
  split
  · next key hkey =>
    have hmark : key.mark.offset ≤ t.length := h.keys _ (KeysHold.mem_of_lookup hkey)
    simp only [ensures_bind, ensures_set, ensures_insertBefore, ensures_ite, ensures_indentTo, ensures_allowKey,
      ensures_pushIndicator]
    -- The key, and the mapping it may open, go where the possible key was noted, before what waits since.
    have hkeyed := (h.forget (·.1 != s.flow.length)).insert hmark (key.number - s.taken) .key fun _ => trivial
    have hopened := hkeyed.insert hmark (key.number - s.taken) .blockMappingStart fun _ => trivial
    refine ⟨fun _ => ⟨fun _ => ⟨fun _ => ?_, fun h => absurd trivial h⟩,
      fun _ => ⟨fun h => (by cases h), fun _ => ?_⟩⟩, fun _ => ?_⟩
    · exact hopened.pushIndicator hch hne hopen
    · exact hkeyed.pushIndicator hch hne hopen
    · exact hkeyed.pushIndicator hch hne hopen
  · refine isIn_afterBlock h _ ?_ _ fun s' h' hcursor => ?_
    · exact fun _ => trivial
    simp only [ensures_bind, ensures_allowKey, ensures_dropKey, ensures_pushIndicator]
    exact fun _ => (h'.forget _).pushIndicator (hcursor ▸ hch) hne hopen

theorem isIn_keyCandidate {read : Lex α} (h : s.IsIn t) {f : α → TokenKind}
    (hread : Lex.ReadsFrom (fun _ => True) 0 read s.cursor) (hstarts : ∀ a, (f a).MayStartWith s.cursor.peek)
    (hfree : ∀ a source, (f a).Takes source) :
    Ensures (keyCandidate (f <$> read)) s fun _ s' => s'.IsIn t := by
  simp only [keyCandidate, ensures_bind, ensures_allowKey, ensures_mark, ensures_lex, ensures_map, ensures_push]
  refine isIn_saveKey h fun keys hkeys a c hrun => ?_
  exact hkeys.pushFree (h.cursor.reaches (hread a c hrun)) (hstarts a) (hfree a) _

theorem isIn_blockScalar (h : s.IsIn t) (hopen : IsOpen s.cursor.peek) (isFolded : Bool) :
    Ensures (blockScalar isFolded) s fun _ s' => s'.IsIn t := by
  simp only [blockScalar, ensures_bind, ensures_allowKey, ensures_dropKey, ensures_mark, ensures_get, ensures_lex,
    ensures_ite, ensures_push]
  intro _ read c hread
  have hcursor := h.cursor.reaches (Lex.reads_blockScalar _ _ _ read c hread)
  have hread := (h.forget (·.1 != s.flow.length)).read hcursor
  have hx : Token.IsIn t ⟨.scalar read.1 (if isFolded then .folded else .literal), s.cursor.mark, read.2.1⟩ :=
    ⟨h.cursor.bound, by rw [h.cursor.getElem?_eq]; cases isFolded <;> exact hopen, by cases isFolded <;> trivial⟩
  exact ⟨fun _ => (isIn_skipToToken hread).imp fun _ s' h' => h'.push hx, fun _ => hread.push hx⟩

theorem isIn_plainScalar (h : s.IsIn t) (hopen : IsOpen s.cursor.peek) :
    Ensures plainScalar s fun _ s' => s'.IsIn t := by
  simp only [plainScalar, ensures_bind, ensures_allowKey, ensures_mark, ensures_get, ensures_lex, ensures_ite,
    ensures_push]
  refine isIn_saveKey h fun keys hkeys read c hread => ?_
  obtain ⟨taken, c', hpasses, hstop, htaken⟩ := Lex.ensures_plainScalar read c hread
  have hx : Token.IsIn t ⟨.scalar (String.ofList read.text) .plain, s.cursor.mark, read.stop⟩ := by
    refine ⟨h.cursor.bound, h.cursor.getElem?_eq ▸ hopen, ?_⟩
    rw [hstop, h.cursor.slice_eq hpasses, TokenKind.Takes, String.toList_ofList]
    exact htaken
  have hpush := (hkeys.read (h.cursor.reaches (readsOn_plainScalar _ _ read c hread))).push hx
  exact ⟨fun _ => hpush, fun _ => hpush⟩

theorem isOpen_of_atMarker {c : Cursor} {ch : Char} (h : c.atMarker ch = true) (hch : IsOpen (some ch)) : IsOpen c.peek := by
  unfold Cursor.atMarker at h
  rw [Bool.and_eq_true, beq_iff_eq] at h
  have hpeek : c.peek = some ch := by
    rw [Cursor.peek, ← List.take_append_drop 3 c.rest, h.1]
    rfl
  rwa [hpeek]

theorem isIn_tokenAt (h : s.IsIn t) (hch : s.cursor.peek = some ch) : Ensures (tokenAt ch) s fun _ s' => s'.IsIn t := by
  have hne : ∀ {d : Char}, (ch == d) = true → d ≠ '\n' → ch ≠ '\n' := fun hd hne => by rwa [eq_of_beq hd]
  have hne' : ∀ {d : Char} {b : Bool}, (ch == d && b) = true → d ≠ '\n' → ch ≠ '\n' :=
    fun hd => hne (Bool.and_eq_true_iff.1 hd).1
  rw [tokenAt, ensures_bind, ensures_get]
  dsimp only
  refine ensures_ite.2 ⟨fun hd => isIn_directive h ?_, fun _ => ?_⟩
  · rw [hch, eq_of_beq (Bool.and_eq_true_iff.1 hd).1]
    exact ⟨by decide, by decide⟩
  refine ensures_ite.2 ⟨fun hd => isIn_documentMarker h ?_ fun _ => trivial, fun _ => ?_⟩
  · exact isOpen_of_atMarker (Bool.and_eq_true_iff.1 hd).2 ⟨by decide, by decide⟩
  refine ensures_ite.2 ⟨fun hd => isIn_documentMarker h ?_ fun _ => trivial, fun _ => ?_⟩
  · exact isOpen_of_atMarker (Bool.and_eq_true_iff.1 hd).2 ⟨by decide, by decide⟩
  refine ensures_ite.2 ⟨fun hd => isIn_flowStart h hch (hne hd (by decide)) ?_ _, fun _ => ?_⟩
  · rw [eq_of_beq hd]
    exact ⟨by decide, by decide⟩
  refine ensures_ite.2 ⟨fun hd => isIn_flowStart h hch (hne hd (by decide)) ?_ _, fun _ => ?_⟩
  · rw [eq_of_beq hd]
    exact ⟨by decide, by decide⟩
  refine ensures_ite.2 ⟨fun hd => isIn_flowEnd h hch (hne hd (by decide)) ?_, fun hsquare => ?_⟩
  · exact congrArg some (eq_of_beq hd)
  refine ensures_ite.2 ⟨fun hd => isIn_flowEnd h hch (hne hd (by decide)) ?_, fun hcurly => ?_⟩
  · exact congrArg some (eq_of_beq hd)
  -- Nothing else starts with a bracket that closes.
  have hopen : IsOpen (some ch) :=
    ⟨fun heq => hsquare (beq_iff_eq.2 (Option.some.inj heq)), fun heq => hcurly (beq_iff_eq.2 (Option.some.inj heq))⟩
  have hpeek : IsOpen s.cursor.peek := by rwa [hch]
  refine ensures_ite.2 ⟨fun hd => isIn_flowEntry h hch (hne hd (by decide)) hopen, fun _ => ?_⟩
  refine ensures_ite.2 ⟨fun hd => isIn_blockEntry h hch (hne' hd (by decide)) hopen, fun _ => ?_⟩
  refine ensures_ite.2 ⟨fun hd => isIn_explicitKey h hch (hne' hd (by decide)), fun _ => ?_⟩
  refine ensures_ite.2 ⟨fun hd => isIn_value h hch (hne' hd (by decide)) hopen, fun _ => ?_⟩
  refine ensures_ite.2 ⟨fun _ => isIn_keyCandidate h (readsOn_anchorName _ _) (fun _ => hpeek) fun _ _ => trivial,
    fun _ => ?_⟩
  refine ensures_ite.2 ⟨fun _ => isIn_keyCandidate h (readsOn_anchorName _ _) (fun _ => hpeek) fun _ _ => trivial,
    fun _ => ?_⟩
  refine ensures_ite.2 ⟨fun hd => isIn_keyCandidate h ?_ (fun _ => hpeek) fun _ _ => trivial, fun _ => ?_⟩
  · rw [eq_of_beq hd] at hch
    exact fun a c' hr => (Lex.reads_tag hch a c' hr).mono (fun _ _ => trivial) (Nat.zero_le 1)
  refine ensures_ite.2 ⟨fun _ => isIn_blockScalar h hpeek false, fun _ => ?_⟩
  refine ensures_ite.2 ⟨fun _ => isIn_blockScalar h hpeek true, fun _ => ?_⟩
  refine ensures_ite.2 ⟨fun hd => isIn_keyCandidate h ?_ (fun _ => ?_) fun _ _ => trivial, fun _ => ?_⟩
  · exact (Lex.reads_quotedScalar false _).least (Nat.zero_le 1)
  · exact hch.trans (congrArg some (eq_of_beq hd))
  refine ensures_ite.2 ⟨fun hd => isIn_keyCandidate h ?_ (fun _ => ?_) fun _ _ => trivial, fun _ => ?_⟩
  · exact (Lex.reads_quotedScalar true _).least (Nat.zero_le 1)
  · exact hch.trans (congrArg some (eq_of_beq hd))
  refine ensures_ite.2 ⟨fun _ => isIn_plainScalar h hpeek, fun _ => ?_⟩
  simp only [ensures_bind, ensures_mark, ensures_throw]

theorem isIn_fetch (h : s.IsIn t) : Ensures fetch s fun _ s' => s'.IsIn t := by
  simp only [fetch, ensures_bind, ensures_mark, ensures_peek]
  refine (isIn_skipToToken h).imp fun _ s₁ h₁ => ensures_dropStaleKeys.2 fun _ => ?_
  refine (isIn_unwind (h₁.forget _) _).imp fun _ s₂ h₂ => ?_
  split
  · exact isIn_streamEnd h₂.1
  · next c hc => exact isIn_tokenAt h₂.1 hc

theorem isIn_needsMore (h : s.IsIn t) : Ensures needsMore s fun _ s' => s'.IsIn t := by
  simp only [needsMore, ensures_bind, ensures_get, ensures_ite, ensures_pure]
  exact ⟨fun _ => h, fun _ => ⟨fun _ => h, fun _ => ensures_dropStaleKeys.2 fun _ => h.forget _⟩⟩

end Scan

/-! ## The whole stream -/

variable {t : Text}

theorem isIn_of_mem_drain {fuel : Nat} {s : TokenReader} {released : List Released} (hs : s.IsIn t)
    (hr : ∀ r ∈ released, r.token.IsIn t) : ∀ r ∈ (s.drain fuel released).tokens, r.token.IsIn t := by
  have hdrained : ∀ r ∈ released.reverse, r.token.IsIn t := fun r h => hr r (List.mem_reverse.1 h)
  induction fuel generalizing s released with
  | zero => exact hdrained
  | succ fuel ih =>
    rw [TokenReader.drain]
    split
    · exact hdrained
    · next s' hmore =>
      have hs' := Scan.isIn_needsMore hs _ _ hmore
      split
      · exact hdrained
      · next s'' hfetch => exact ih (Scan.isIn_fetch hs' _ _ hfetch) hr hdrained
    · next s' hmore =>
      have hs' := Scan.isIn_needsMore hs _ _ hmore
      split
      · exact hdrained
      · next x queue hq =>
        have hqueue := hs'.queue
        rw [hq] at hqueue
        have hr' : ∀ r ∈ (⟨x, s'.version⟩ :: released : List Released), r.token.IsIn t :=
          List.forall_mem_cons.2 ⟨hqueue x (.head _), hr⟩
        exact ih ⟨hs'.cursor, fun y hy => hqueue y (.tail _ hy), hs'.keys⟩ hr' fun r h => hr' r (List.mem_reverse.1 h)

/-- Every token of a text starts within it and stands for what its kind may. -/
theorem isIn_of_mem_ofText {r : Released} (h : r ∈ (TokenStream.ofText t).tokens) : r.token.IsIn t := by
  unfold TokenStream.ofText at h
  split at h
  · cases h
  · refine isIn_of_mem_drain ⟨Cursor.isAfter_ofText t, ?_, fun x hx => by cases hx⟩ (fun r hr => by cases hr) r h
    exact List.forall_mem_singleton.2 (Token.isIn_empty (Nat.zero_le _) fun _ => trivial)

end YamlStyle.Yaml
