import YamlStyle.Proofs.Yaml.Marks
import YamlStyle.Proofs.Yaml.PendingKeys
import YamlStyle.Proofs.Yaml.ScanSteps

/-!
# A scan lays tokens out

What the reader of tokens has read so far, handed out or not, is a list of arrivals that fit the
blocks around them; the columns it keeps are those of the blocks still open.
-/

namespace YamlStyle.Yaml

open Layout

/-- The layout after arrivals from the start on. -/
abbrev laid (as : List Arrival) : Layout := Layout.start.afterAll as

/-- The token that every stream starts with. -/
def streamStart : Token := .mark0 .streamStart ⟨0, 0, 0⟩

/-- A reader that has read `as`, and after them `n` block ends at its place. -/
structure Sound (t : Text) (released : List Token) (as : List Arrival) (n : Nat) (s : TokenReader) : Prop where
  cursor : s.cursor.IsIn t
  tokens : released ++ s.queue =
    streamStart :: (as.flatMap Arrival.tokens ++ List.replicate n (.mark0 .blockEnd s.cursor.mark))
  taken : s.taken = released.length
  marked : ∀ a ∈ as, a.token.start = (LineIndex.ofText t).mark a.token.start.offset
  passed : ∀ a ∈ as, a.token.start.offset < s.cursor.mark.offset
  bounded : ∀ a ∈ as, a.token.kind = .key → a.token.stop.offset ≤ t.length
  shown : ∀ a ∈ as, a.token.kind.isShown = true
  ends_le : n ≤ (laid as).blocks.length
  ends_flow : 0 < n → s.flow = []
  blocks : ((laid as).blocks.drop n).map (fun b => (b.column : Int)) ++ [-1] = s.indent :: s.indents
  depth : (laid as).depth = s.flow.length
  keys : KeysHold s.keys as
  keys_depth : ∀ x ∈ s.keys, x.1 ≤ s.flow.length
  keys_queued : ∀ x ∈ s.keys, s.taken ≤ x.2.number
  /-- No key may start on the line of a token that leads to content. -/
  allowed : s.flow = [] → s.keyAllowed = false → ∀ x ∈ (laid as).last, x.kind.isLead = true →
    x.start.line = s.cursor.mark.line ∧ ∀ b ∈ (laid as).blocks.head?, b.column ≤ x.start.column
  undone : s.done = false

variable {t : Text} {released : List Token} {as : List Arrival} {n : Nat} {s s' : TokenReader}

namespace Scan

/-! ## Gaps -/

/-- Reading over a gap. In a block a line break allows keys again. -/
def Skips (s s' : TokenReader) : Prop :=
  ∃ cursor keyAllowed, s' = { s with cursor, keyAllowed } ∧ s.cursor.Reaches (fun _ => True) 0 cursor ∧
    (s.flow = [] → keyAllowed = false → s.keyAllowed = false ∧ s.cursor.Reaches (· ≠ '\n') 0 cursor)

theorem lineBreak_none {c : Cursor} (h : c.lineBreak.1 = none) : c.lineBreak.2 = c := by
  unfold Cursor.lineBreak at h ⊢
  split at h <;> try split at h
  all_goals first | (split at h <;> simp_all) | simp_all

theorem ensures_lineBreak {c : Cursor} {Q : Option Char → Cursor → Prop} :
    Ensures Lex.lineBreak c Q ↔ Q c.lineBreak.1 c.lineBreak.2 := by
  constructor
  · intro h
    exact h _ _ rfl
  · intro h a c' hr
    have : c.lineBreak = (a, c') := Except.ok.inj hr
    rw [this] at h
    exact h

theorem skips_of_reaches {cursor : Cursor} (h : s.cursor.Reaches (· ≠ '\n') 0 cursor) :
    Skips s { s with cursor } :=
  ⟨cursor, s.keyAllowed, rfl, h.mono (fun _ _ => trivial) (Nat.le_refl 0), fun _ ha => ⟨ha, h⟩⟩

theorem Skips.after_break {cursor : Cursor} {keyAllowed : Bool} (hr : s.cursor.Reaches (fun _ => True) 0 cursor)
    (hk : s.flow = [] → keyAllowed = true) (h : Skips { s with cursor, keyAllowed } s') : Skips s s' := by
  obtain ⟨cursor', keyAllowed', rfl, hr', hk'⟩ := h
  refine ⟨cursor', keyAllowed', rfl, hr.trans hr', fun hf ha => ?_⟩
  have := (hk' hf ha).1
  rw [hk hf] at this
  cases this

/-- What is read of a gap after a line of it, if a line break was found. -/
def skipLines (fuel : Nat) (flow : Bool) : Option Char → Scan Unit
  | some _ => do
    if !flow then allowKey true
    skipGap fuel
  | none => return

theorem ensures_skipGap (fuel : Nat) : Ensures (skipGap fuel) s fun _ s' => Skips s s' := by
  induction fuel generalizing s with
  | zero =>
    rw [skipGap, ensures_pure]
    exact skips_of_reaches (.refl _ _)
  | succ fuel ih =>
    have hblank : ∀ ch, (ch == ' ' || (!s.flow.isEmpty && ch == '\t')) = true → ch ≠ '\n' := by
      rintro ch h rfl
      simp at h
    have hcomment : ∀ ch, (!isBreak ch) = true → ch ≠ '\n' := by
      rintro ch h rfl
      revert h
      decide
    -- After a line break only what follows matters; without one the gap is over.
    have hbreak : ∀ c, s.cursor.Reaches (· ≠ '\n') 0 c →
        Ensures (lex Lex.lineBreak >>= skipLines fuel (!s.flow.isEmpty)) { s with cursor := c } fun _ s' => Skips s s' := by
      intro c hc
      rw [ensures_bind, ensures_lex, ensures_lineBreak]
      cases hl : c.lineBreak.1 with
      | none =>
        simp only [skipLines, ensures_pure, lineBreak_none hl]
        exact skips_of_reaches hc
      | some ch =>
        have hreach := (hc.mono (fun _ _ => trivial) (Nat.le_refl 0)).trans c.reaches_lineBreak
        simp only [skipLines, ensures_ite, ensures_bind, ensures_allowKey, Bool.not_not, List.isEmpty_iff]
        refine ⟨fun _ => ih.imp fun _ s' h => h.after_break hreach fun _ => rfl,
          fun hf => ih.imp fun _ s' h => h.after_break hreach fun hf' => absurd hf' hf⟩
    rw [skipGap]
    simp only [ensures_bind, ensures_inFlow, ensures_lex, ensures_peek, ensures_ite]
    intro _ c hspan
    have hc := Lex.reads_span hblank _ _ _ hspan
    refine ⟨fun _ _ c' hspan' => ?_, fun _ => ?_⟩
    · exact (ensures_lex _).1 (ensures_bind.1 (hbreak c' (hc.trans (Lex.reads_span hcomment _ _ _ hspan'))))
    · exact (ensures_lex _).1 (ensures_bind.1 (hbreak c hc))

theorem ensures_skipToToken : Ensures skipToToken s fun _ s' => Skips s s' := by
  rw [skipToToken]
  simp only [ensures_bind, ensures_get, ensures_ite, ensures_lex, ensures_advance, Bool.and_eq_true, beq_iff_eq]
  refine ⟨fun hc => (ensures_skipGap _).imp fun _ s' h => ?_, fun _ => ensures_skipGap _⟩
  have hreach := Lex.readsFrom_indicator hc.2 (by decide) () (s.cursor.skip 1) rfl
  obtain ⟨cursor, keyAllowed, rfl, hr, hk⟩ := h
  have hreach0 := hreach.mono (fun _ h => h) (Nat.zero_le 1)
  exact ⟨cursor, keyAllowed, rfl, (hreach0.mono (fun _ _ => trivial) (Nat.le_refl 0)).trans hr,
    fun hf ha => ⟨(hk hf ha).1, hreach0.trans (hk hf ha).2⟩⟩

/-! ## Block ends -/

/-- How many blocks are deeper than a column. -/
def deeper (column : Int) (blocks : List Block) : Nat := (blocks.takeWhile fun b => column < b.column).length

theorem ensures_closeBlocks (column : Int) (blocks : List Block)
    (h : blocks.map (fun b => (b.column : Int)) ++ [-1] = s.indent :: s.indents) :
    Ensures (closeBlocks column s.indents) s fun _ s' => ∃ indent indents,
      s' = { s with queue := s.queue ++ List.replicate (deeper column blocks) (.mark0 .blockEnd s.cursor.mark)
                    indent, indents } ∧
      (blocks.drop (deeper column blocks)).map (fun b => (b.column : Int)) ++ [-1] = indent :: indents := by
  induction blocks generalizing s with
  | nil =>
    simp only [List.map_nil, List.nil_append, List.cons.injEq] at h
    rw [← h.2, closeBlocks, ensures_pure]
    exact ⟨s.indent, s.indents, by simp [deeper], by simp [deeper, h]⟩
  | cons b blocks ih =>
    simp only [List.map_cons, List.cons_append, List.cons.injEq] at h
    cases hi : s.indents with
    | nil =>
      rw [hi] at h
      simp at h
    | cons outer outers =>
      simp only [closeBlocks, ensures_bind, ensures_get, ensures_ite, ensures_pushHere, ensures_modify, ensures_pure]
      refine ⟨fun hlt => ?_, fun hle => ?_⟩
      · rw [← h.1] at hlt
        have hd : deeper column (b :: blocks) = deeper column blocks + 1 := by simp [deeper, hlt]
        refine (ih (s := { s with queue := s.queue ++ [⟨.blockEnd, s.cursor.mark, s.cursor.mark⟩]
                                  indent := outer, indents := outers }) (by rw [h.2, hi])).imp fun _ s' h' => ?_
        obtain ⟨indent, indents, rfl, hrest⟩ := h'
        refine ⟨indent, indents, ?_, by rw [hd, List.drop_succ_cons]; exact hrest⟩
        simp [hd, List.replicate_succ, Token.mark0]
      · rw [← h.1] at hle
        have hd : deeper column (b :: blocks) = 0 := by simp [deeper, hle]
        refine ⟨s.indent, s.indents, by simp [hd], ?_⟩
        rw [hd, List.drop_zero, List.map_cons, List.cons_append, h.1, h.2]

theorem ensures_unwind (column : Int) (blocks : List Block)
    (h : blocks.map (fun b => (b.column : Int)) ++ [-1] = s.indent :: s.indents) :
    Ensures (unwind column) s fun _ s' => ∃ n indent indents, n = (if s.flow = [] then deeper column blocks else 0) ∧
      s' = { s with queue := s.queue ++ List.replicate n (.mark0 .blockEnd s.cursor.mark), indent, indents } ∧
      (blocks.drop n).map (fun b => (b.column : Int)) ++ [-1] = indent :: indents := by
  simp only [unwind, ensures_bind, ensures_inFlow, ensures_ite, ensures_get, ensures_pure, Bool.not_not,
    List.isEmpty_iff]
  refine ⟨fun hf => (ensures_closeBlocks column blocks h).imp fun _ s' h' => ?_, fun hf => ?_⟩
  · obtain ⟨indent, indents, rfl, hrest⟩ := h'
    exact ⟨_, indent, indents, (if_pos hf).symm, rfl, hrest⟩
  · exact ⟨0, s.indent, s.indents, (if_neg hf).symm, by simp, h⟩

theorem deeper_le (column : Int) (blocks : List Block) : deeper column blocks ≤ blocks.length :=
  (List.takeWhile_sublist _).length_le

theorem take_deeper (column : Int) (blocks : List Block) :
    ∀ b ∈ blocks.take (deeper column blocks), column < b.column := by
  intro b hb
  rw [deeper, ← List.prefix_iff_eq_take.1 (List.takeWhile_prefix _)] at hb
  simpa using List.all_eq_true.1 List.all_takeWhile b hb

theorem drop_deeper (column : Int) (blocks : List Block) :
    ∀ b ∈ (blocks.drop (deeper column blocks)).head?, (b.column : Int) ≤ column := by
  induction blocks with
  | nil => intro b hb; simp at hb
  | cons c blocks ih =>
    intro b hb
    by_cases hc : column < c.column
    · have hd : deeper column (c :: blocks) = deeper column blocks + 1 := by simp [deeper, hc]
      rw [hd, List.drop_succ_cons] at hb
      exact ih b hb
    · have hd : deeper column (c :: blocks) = 0 := by simp [deeper, hc]
      rw [hd, List.drop_zero] at hb
      cases hb
      omega

theorem deeper_neg (blocks : List Block) : deeper (-1) blocks = blocks.length := by
  induction blocks with
  | nil => rfl
  | cons b blocks ih =>
    have hb : (-1 : Int) < b.column := by omega
    rw [deeper, List.takeWhile_cons_of_pos (by simpa using hb), List.length_cons, List.length_cons, ← ih, deeper]

end Scan

namespace Sound

/-! ## Before the next token -/

theorem skip (ht : t.IsRegular) (h : Sound t released as 0 s) (hs : Scan.Skips s s') : Sound t released as 0 s' := by
  obtain ⟨cursor, keyAllowed, rfl, hr, hk⟩ := hs
  obtain ⟨hin, ho⟩ := h.cursor.reaches ht hr
  refine { h with cursor := hin, tokens := by simpa using h.tokens, passed := fun a ha => ?_, allowed := fun hf ha => ?_ }
  · have := h.passed a ha
    simp only
    omega
  · obtain ⟨ha, hline⟩ := hk hf ha
    simp only
    rw [h.cursor.line_eq ht hline]
    exact h.allowed hf ha

theorem dropStale (h : Sound t released as 0 s)
    (hr : ∀ x ∈ s.keys, Scan.isStale s.cursor.mark x.2 = true → x.2.required = false) :
    Sound t released as 0 { s with keys := s.keys.filter fun x => !Scan.isStale s.cursor.mark x.2 } :=
  { h with
    keys := h.keys.filter fun x hx hp => hr x hx (by simpa using hp)
    keys_depth := fun x hx => h.keys_depth x (List.mem_filter.1 hx).1
    keys_queued := fun x hx => h.keys_queued x (List.mem_filter.1 hx).1 }

/-- The possible keys are on the line of the reader. -/
def OnLine (s : TokenReader) : Prop := ∀ x ∈ s.keys, x.2.mark.line = s.cursor.mark.line

theorem onLine_dropStale : OnLine { s with keys := s.keys.filter fun x => !Scan.isStale s.cursor.mark x.2 } := by
  intro x hx
  have := (List.mem_filter.1 hx).2
  simp only [Scan.isStale, Bool.not_eq_true', Bool.or_eq_false_iff, bne_eq_false_iff_eq] at this
  exact this.1

/-- The place of the reader agrees with the blocks that are still open after `n` ends. -/
structure Placed (as : List Arrival) (n : Nat) (s : TokenReader) : Prop where
  deeper : s.flow = [] → ∀ b ∈ (laid as).blocks.take n, s.cursor.mark.column < b.column
  inside : s.flow = [] → ∀ b ∈ ((laid as).blocks.drop n).head?, b.column ≤ s.cursor.mark.column

theorem ensures_unwind (h : Sound t released as 0 s) :
    Ensures (Scan.unwind s.cursor.mark.column) s fun _ s' =>
      ∃ n, Sound t released as n s' ∧ Placed as n s' ∧ s'.cursor = s.cursor ∧ s'.keys = s.keys ∧ s'.flow = s.flow := by
  refine (Scan.ensures_unwind _ (laid as).blocks (by simpa using h.blocks)).imp fun _ s' h' => ?_
  obtain ⟨n, indent, indents, hn, rfl, hrest⟩ := h'
  refine ⟨n, { h with tokens := ?_, ends_le := ?_, ends_flow := ?_, blocks := hrest }, ⟨fun hf => ?_, fun hf => ?_⟩,
    rfl, rfl, rfl⟩
  · rw [← List.append_assoc, h.tokens]
    simp
  · rw [hn]
    split
    · exact Scan.deeper_le _ _
    · exact Nat.zero_le _
  · intro hpos
    by_cases hf : s.flow = []
    · exact hf
    · rw [if_neg hf] at hn
      omega
  · intro b hb
    simp only at hf
    rw [hn, if_pos hf] at hb
    have := Scan.take_deeper _ _ b hb
    simp only
    omega
  · intro b hb
    simp only at hf
    rw [hn, if_pos hf] at hb
    have := Scan.drop_deeper _ _ b hb
    simp only
    omega

/-- At a boundary all blocks end, unless a flow collection is open. -/
theorem ensures_unwind_all (h : Sound t released as n s) :
    Ensures (Scan.unwind (-1)) s fun _ s' =>
      ∃ m, Sound t released as m s' ∧ (s.flow = [] → m = (laid as).blocks.length) ∧
        s'.cursor = s.cursor ∧ s'.keys = s.keys ∧ s'.flow = s.flow ∧ s'.version = s.version := by
  refine (Scan.ensures_unwind (-1) ((laid as).blocks.drop n) h.blocks).imp fun _ s' h' => ?_
  obtain ⟨k, indent, indents, hk, rfl, hrest⟩ := h'
  have hk' : s.flow = [] → n + k = (laid as).blocks.length := by
    intro hf
    have := h.ends_le
    rw [hk, if_pos hf, Scan.deeper_neg, List.length_drop]
    omega
  refine ⟨n + k, { h with tokens := ?_, ends_le := ?_, ends_flow := ?_, blocks := ?_ }, hk', rfl, rfl, rfl, rfl⟩
  · rw [← List.append_assoc, h.tokens, ← List.replicate_append_replicate]
    simp
  · by_cases hf : s.flow = []
    · exact Nat.le_of_eq (hk' hf)
    · rw [hk, if_neg hf]
      exact h.ends_le
  · intro hpos
    by_cases hf : s.flow = []
    · exact hf
    · rw [hk, if_neg hf] at hpos
      exact h.ends_flow hpos
  · rw [← List.drop_drop]
    exact hrest

/-! ## Keys on the line of the reader -/

theorem key_before (h : Sound t released as n s) (hl : OnLine s) {x : Nat × SimpleKey} (hx : x ∈ s.keys) :
    x.2.mark.column < s.cursor.mark.column := by
  obtain ⟨pre, a, post, rfl, hp, -⟩ := h.keys.pending x hx
  have ha : a ∈ pre ++ a :: post := by simp
  have hline := hl x hx
  rw [← hp.mark, h.marked a ha, h.cursor.mark] at hline ⊢
  exact LineIndex.column_mark_lt (h.passed a ha) hline

/-- The block around a possible key outside flow collections is still the innermost one. -/
theorem base_inside (h : Sound t released as n s) {x : Nat × SimpleKey} (hx : x ∈ s.keys) (h0 : x.1 = 0) :
    ∀ b ∈ (laid as).blocks.head?, b.column ≤ x.2.mark.column := by
  obtain ⟨pre, a, post, rfl, hp, hbase⟩ := h.keys.pending x hx
  have hplain := isPlain_of_isKeyable hp.keyable
  -- Nothing on the line of the key has opened or ended a block.
  have hblocks : (laid (pre ++ a :: post)).blocks = (laid pre).within a := by
    rw [laid, afterAll_append, afterAll_cons, blocks_afterAll_of_inline (hbase h0).line,
      blocks_after_of_not_isBlockStart hplain.notStart]
  rw [hblocks, ← hp.mark]
  exact hp.fits.inside (by rw [hp.depth, h0]) hplain.notBoundary

theorem ends_eq_zero (h : Sound t released as n s) (hl : OnLine s) (hp : Placed as n s) {x : Nat × SimpleKey}
    (hx : x ∈ s.keys) (h0 : x.1 = 0) : n = 0 := by
  rcases Nat.eq_zero_or_pos n with hn | hn
  · exact hn
  · have hf := h.ends_flow hn
    have hle := h.ends_le
    cases hb : (laid as).blocks with
    | nil =>
      rw [hb] at hle
      simpa using hle
    | cons b bs =>
      -- A block that ends here starts right of the reader; the innermost one starts left of the key.
      have hin := h.base_inside hx h0 b (by rw [hb]; rfl)
      have hdeep := hp.deeper hf b (by
        rw [hb]
        exact (List.mem_take_iff_getElem.2 ⟨0, by simp; omega, rfl⟩))
      have := h.key_before hl hx
      omega

/-- A token that comes on the line of a key outside flow collections. -/
theorem inline_of_mem (h : Sound t released as n s) (hl : OnLine s) (hp : Placed as n s) {y : Token}
    (hy : y.start = s.cursor.mark) (hs : y.kind.lexemeKind.isBlockStart = false)
    (hfree : s.flow = [] → y.kind.isBoundary = false ∧ y.isIndicator = false) {x : Nat × SimpleKey} (hx : x ∈ s.keys)
    (h0 : x.1 = 0) : (laid as).Inline x.2.mark.column ⟨n, y⟩ where
  ends := h.ends_eq_zero hl hp hx h0
  notStart := hs
  column := by rw [hy]; exact h.key_before hl hx
  free hd := hfree (List.length_eq_zero_iff.1 (h.depth ▸ hd))

/-- Where no key may start, no content misses its key. -/
theorem not_misses (h : Sound t released as n s) (hp : Placed as n s) (hk : s.keyAllowed = false) {y : Token}
    (hy : y.start = s.cursor.mark) : ¬(laid as).Misses ⟨n, y⟩ := by
  intro hm
  have hf : s.flow = [] := List.length_eq_zero_iff.1 (h.depth ▸ hm.depth)
  obtain ⟨x, hx, hlead, hlt⟩ := hm.lead
  obtain ⟨b, hb, hcol⟩ := hm.column
  obtain ⟨hline, hhead⟩ := h.allowed hf hk x hx hlead
  obtain ⟨a, ha, rfl⟩ := exists_of_last_afterAll hx
  -- The lead is on the line of the reader, hence left of it and right of its block.
  have hlast : a.token.start.column < s.cursor.mark.column := by
    rw [h.marked a ha, h.cursor.mark] at hline ⊢
    exact LineIndex.column_mark_lt (h.passed a ha) hline
  rw [hy] at hcol
  cases hbs : (laid as).blocks with
  | nil => simp [within, hbs] at hb
  | cons c bs =>
    have hc := hhead c (by rw [hbs]; rfl)
    rcases Nat.eq_zero_or_pos n with hn | hn
    · rw [within, hn, List.drop_zero, hbs] at hb
      cases hb
      omega
    · have := hp.deeper hf c (by
        rw [hbs]
        exact (List.mem_take_iff_getElem.2 ⟨0, by simp; omega, rfl⟩))
      omega

/-! ## Arrivals that fit -/

theorem depth_eq_zero_iff (h : Sound t released as n s) : (laid as).depth = 0 ↔ s.flow = [] := by
  rw [h.depth, List.length_eq_zero_iff]

theorem last_passed (h : Sound t released as n s) : ∀ x ∈ (laid as).last, x.start.offset < s.cursor.mark.offset := by
  intro x hx
  obtain ⟨a, ha, rfl⟩ := exists_of_last_afterAll hx
  exact h.passed a ha

theorem last_lt (h : Sound t released as n s) {y : Token} (hy : y.start = s.cursor.mark) :
    ∀ x ∈ (laid as).last, x.start.offset < y.start.offset := by
  rw [hy]
  exact h.last_passed

/-- No block ends inside a flow collection. -/
theorem ends_eq_zero_of_depth (h : Sound t released as n s) (hd : 0 < (laid as).depth) : n = 0 := by
  rcases Nat.eq_zero_or_pos n with hn | hn
  · exact hn
  · have := h.depth_eq_zero_iff.2 (h.ends_flow hn)
    omega

theorem indent_eq (h : Sound t released as n s) {y : Token} {b : Block}
    (hb : ((laid as).within ⟨n, y⟩).head? = some b) : s.indent = b.column := by
  have hblocks := h.blocks
  rw [within] at hb
  cases hd : (laid as).blocks.drop n with
  | nil => rw [hd] at hb; cases hb
  | cons c cs =>
    rw [hd] at hb hblocks
    cases hb
    simp only [List.map_cons, List.cons_append, List.cons.injEq] at hblocks
    exact hblocks.1.symm

theorem exists_block_of_le_indent (h : Sound t released as n s) (hp : Placed as n s) (hf : s.flow = []) {y : Token}
    (hi : ¬s.indent < s.cursor.mark.column) :
    ∃ b, ((laid as).within ⟨n, y⟩).head? = some b ∧ b.column = s.cursor.mark.column := by
  have hblocks := h.blocks
  have hin := hp.inside hf
  rw [within]
  cases hd : (laid as).blocks.drop n with
  | nil =>
    rw [hd] at hblocks
    simp only [List.map_nil, List.nil_append, List.cons.injEq] at hblocks
    omega
  | cons c cs =>
    rw [hd] at hblocks hin
    simp only [List.map_cons, List.cons_append, List.cons.injEq] at hblocks
    have := hin c rfl
    exact ⟨c, rfl, by omega⟩

theorem fits_plain (h : Sound t released as n s) (hp : Placed as n s) {y : Token} (hy : y.start = s.cursor.mark)
    (hk : IsPlain y.kind)
    (hind : s.flow = [] → y.isIndicator = true →
      ∃ b, ((laid as).within ⟨n, y⟩).head? = some b ∧ b.column = s.cursor.mark.column) : (laid as).Fits ⟨n, y⟩ := by
  have hlast := h.last_lt hy
  refine fits_of_isPlain hk (fun x hx => .inl (hlast x hx)) h.ends_eq_zero_of_depth (fun _ => hlast) h.ends_le
    (fun hd => ?_) (fun hd => ?_) fun hd hi => ?_
  · rw [hy]
    exact hp.deeper (h.depth_eq_zero_iff.1 hd)
  · rw [hy]
    exact hp.inside (h.depth_eq_zero_iff.1 hd)
  · rw [hy]
    exact hind (h.depth_eq_zero_iff.1 hd) hi

theorem fits_blockScalar (h : Sound t released as n s) (hp : Placed as n s) {y : Token} (hy : y.start = s.cursor.mark)
    (hk : y.kind.isBlockScalar = true) (hf : s.flow = []) : (laid as).Fits ⟨n, y⟩ := by
  have hlast := h.last_lt hy
  have hkind : y.kind.lexemeKind.isBlockStart = false ∧ y.isIndicator = false := by
    cases hy' : y.kind <;> simp_all [TokenKind.isBlockScalar, TokenKind.lexemeKind, LexemeKind.isBlockStart,
      Token.isIndicator]
  have hd := h.depth_eq_zero_iff.2 hf
  refine ⟨fun x hx => .inl (hlast x hx), fun hd' => by omega, fun _ => hlast, h.ends_le, fun _ hb => ?_, fun _ _ => ?_,
    fun _ _ => ?_, fun hs => ?_, fun _ hi => ?_, fun _ => hd⟩
  · cases hy' : y.kind <;> simp_all [TokenKind.isBlockScalar, TokenKind.isBoundary]
  · rw [hy]
    exact hp.deeper hf
  · rw [hy]
    exact hp.inside hf
  · rw [hkind.1] at hs
    cases hs
  · rw [hkind.2] at hi
    cases hi

theorem fits_boundary (h : Sound t released as n s) {y : Token} (hy : y.start = s.cursor.mark)
    (hk : y.kind.isBoundary = true) (hall : s.flow = [] → n = (laid as).blocks.length)
    (hcol : y.kind ≠ .streamEnd → s.cursor.mark.column = 0) : (laid as).Fits ⟨n, y⟩ := by
  have hlast := h.last_lt hy
  have hkind : y.kind.lexemeKind.isBlockStart = false ∧ y.isIndicator = false ∧ y.kind.isBlockScalar = false := by
    rcases eq_of_isBoundary hk with ⟨d, hy'⟩ | hy' | hy' | hy' <;>
      simp [hy', TokenKind.lexemeKind, LexemeKind.isBlockStart, Token.isIndicator, TokenKind.isBlockScalar]
  refine ⟨fun x hx => .inl (hlast x hx), fun hd => ⟨h.ends_eq_zero_of_depth hd, hkind.1⟩, fun _ => hlast, h.ends_le,
    fun hd _ => ?_, fun _ hb => ?_, fun _ hb => ?_, fun hs => ?_, fun _ hi => ?_, fun hb => ?_⟩
  · rw [within, List.drop_eq_nil_iff, hall (h.depth_eq_zero_iff.1 hd), hy]
    exact ⟨Nat.le_refl _, hcol⟩
  · rw [hk] at hb
    cases hb
  · rw [hk] at hb
    cases hb
  · rw [hkind.1] at hs
    cases hs
  · rw [hkind.2.1] at hi
    cases hi
  · rw [hkind.2.2] at hb
    cases hb

/-- A block starts deeper than the one around it. -/
theorem fits_start (h : Sound t released as n s) (hp : Placed as n s) {y : Token} (hy : y.start = s.cursor.mark)
    (hk : y.kind.lexemeKind.isBlockStart = true) (hf : s.flow = []) (hi : s.indent < s.cursor.mark.column) :
    (laid as).Fits ⟨n, y⟩ := by
  have hlast := h.last_lt hy
  have hkind : y.kind.isBoundary = false ∧ y.isIndicator = false ∧ y.kind.isBlockScalar = false := by
    rcases eq_of_isBlockStart hk with hy' | hy' <;>
      simp [hy', TokenKind.isBoundary, Token.isIndicator, TokenKind.isBlockScalar]
  have hd := h.depth_eq_zero_iff.2 hf
  refine ⟨fun x hx => .inl (hlast x hx), fun hd' => by omega, fun _ => hlast, h.ends_le, fun _ hb => ?_, fun _ _ => ?_,
    fun _ _ => ?_, fun _ b hb => ?_, fun _ hi => ?_, fun hb => ?_⟩
  · rw [hkind.1] at hb
    cases hb
  · rw [hy]
    exact hp.deeper hf
  · rw [hy]
    exact hp.inside hf
  · have := h.indent_eq hb
    simp only [hy]
    omega
  · rw [hkind.2.1] at hi
    cases hi
  · rw [hkind.2.2] at hb
    cases hb

end Sound

end YamlStyle.Yaml
