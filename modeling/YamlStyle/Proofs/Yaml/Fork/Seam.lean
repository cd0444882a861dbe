import YamlStyle.Proofs.Yaml.Fork.Rejoining
import YamlStyle.Proofs.Yaml.Fork.Releasing

/-!
# A scalar with and without its quotes

Where two texts part one reader reads a quoted scalar, the other one a plain scalar. If both end their lines, and nothing
deeper comes after them, the readers go on alike.
-/

namespace YamlStyle.Yaml

open Scan Fork

namespace Scan

variable {s s' r : TokenReader}

/-! ## Scalars read -/

theorem exists_of_run_lex {γ : Type} {read : Lex γ} {a : γ} (h : (lex read).run s = .ok (a, r)) :
    ∃ c, read.run s.cursor = .ok (a, c) ∧ r = { s with cursor := c } :=
  (ensures_lex read (Q := fun a r => ∃ c, read.run s.cursor = .ok (a, c) ∧ r = { s with cursor := c })).2
    (fun _ c h => ⟨c, h, rfl⟩) a r h

theorem exists_of_run_keyCandidate {read : Lex TokenKind} (h : (keyCandidate read).run s = .ok ((), r)) :
    ∃ s' kind c, saveKey.run s = .ok ((), s') ∧ read.run s'.cursor = .ok (kind, c) ∧
      r = { s' with keyAllowed := false, cursor := c, queue := s'.queue ++ [⟨kind, s'.cursor.mark, c.mark⟩] } := by
  rw [keyCandidate] at h
  obtain ⟨⟨⟩, s', hsave, h⟩ := exists_of_run_bind_ok h
  rw [run_bind_ok (a := ()) (r := { s' with keyAllowed := false }) rfl, run_bind_ok rfl] at h
  obtain ⟨kind, q, hlex, h⟩ := exists_of_run_bind_ok h
  obtain ⟨c, hread, rfl⟩ := exists_of_run_lex hlex
  refine ⟨s', kind, c, hsave, hread, ?_⟩
  rw [run_bind_ok rfl] at h
  cases h
  rfl

theorem run_plainScalar (hsave : saveKey.run s = .ok ((), s')) {read : Lex.PlainRead} {e : Cursor}
    (hread : (Lex.plainScalar ⟨!s'.flow.isEmpty, s'.version, s'.indent + 1⟩).run s'.cursor = .ok (read, e)) :
    plainScalar.run s = .ok ((), { s' with
      keyAllowed := read.afterBreak
      cursor := e
      queue := s'.queue ++ [⟨.scalar (String.ofList read.text) .plain, s'.cursor.mark, read.stop⟩] }) := by
  have hlex := run_lex (s := { s' with keyAllowed := false }) hread
  rw [plainScalar, run_bind_ok hsave, run_bind_ok (a := ()) (r := { s' with keyAllowed := false }) rfl, run_bind_ok rfl,
    run_bind_ok rfl, run_bind_ok hlex]
  obtain ⟨text, stop, afterBreak⟩ := read
  cases afterBreak <;> rfl

theorem ensures_quotedToken_kind {ch : Char} {c : Cursor} :
    Ensures (quotedToken ch) c fun kind _ => ∃ value style, kind = .scalar value style ∧
    (style = .single ∨ style = .double) := by
  rw [quotedToken]
  split <;> exact ensures_map.2 fun value _ _ => ⟨value, _, rfl, by simp⟩

/-- A plain scalar is what starts here. -/
theorem tokenAt_eq_plainScalar {ch : Char} (hflow : s.flow = []) (hcolumn : s.cursor.mark.column ≠ 0)
    (h : isIndicator ch = false ∨ (ch = '-' ∨ ch = '?' ∨ ch = ':') ∧ endsWord (s.cursor.peekAt 1) = false) :
    (tokenAt ch).run s = plainScalar.run s := by
  have hstarts : startsPlain s ch = true := by
    rcases h with h | ⟨rfl | rfl | rfl, h⟩ <;> simp [startsPlain, h, hflow]
  -- Characters that start other tokens are indicators.
  have hnone : ∀ d, isIndicator d = true → d ∉ ['-', '?', ':'] → (ch == d) = false := by
    intro d hd hother
    refine beq_false_of_ne ?_
    rintro rfl
    rcases h with h | ⟨h, -⟩
    · rw [h] at hd
      cases hd
    · exact hother (by simpa using h)
  have hblank : ∀ d, isIndicator d = true → (ch == d && endsWord (s.cursor.peekAt 1)) = false := by
    intro d hd
    rcases h with h | ⟨-, h⟩
    · have hne : ch ≠ d := by
        rintro rfl
        rw [h] at hd
        cases hd
      rw [beq_false_of_ne hne, Bool.false_and]
    · rw [h, Bool.and_false]
  have hvalue : isValueIndicator s = endsWord (s.cursor.peekAt 1) := by rw [isValueIndicator, hflow]
  rw [tokenAt, run_bind_ok (a := s) (r := s) rfl]
  simp only [hflow, hvalue, hblank '-' (by decide), hblank '?' (by decide), hblank ':' (by decide), hstarts,
    hnone '[' (by decide) (by decide), hnone ']' (by decide) (by decide), hnone '\x7b' (by decide) (by decide),
    hnone '\x7d' (by decide) (by decide), hnone ',' (by decide) (by decide), hnone '*' (by decide) (by decide),
    hnone '&' (by decide) (by decide), hnone '!' (by decide) (by decide), hnone '|' (by decide) (by decide),
    hnone '>' (by decide) (by decide), hnone '\'' (by decide) (by decide), hnone '"' (by decide) (by decide),
    hnone '%' (by decide) (by decide), beq_false_of_ne hcolumn, List.isEmpty_nil,
    Bool.not_true, Bool.false_or, Bool.false_and, Bool.false_eq_true, if_false, if_true]

end Scan

/-- A text that a reader outside flow collections reads as itself, on one line. -/
structure ReadsPlain (v : Text) : Prop where
  words : Lex.IsPlainText v
  columns : ∀ ch ∈ v, Lex.TakesColumn ch
  leads : ∃ ch, v.head? = some ch ∧ (isIndicator ch = false ∨ (ch = '-' ∨ ch = '?' ∨ ch = ':') ∧ endsWord v[1]? = false)

namespace ReadsPlain

variable {v : Text} (h : ReadsPlain v)

include h

theorem length_pos : 0 < v.length := by
  obtain ⟨ch, hch, -⟩ := h.leads
  exact List.length_pos_of_mem (List.mem_of_mem_head? hch)

theorem startsWord (r : Text) : StartsWord (v ++ r) := by
  obtain ⟨ch, w, rfl, hword, hhash⟩ := h.words.exists_cons
  exact ⟨ch, w ++ r, rfl, hword, hhash, (h.columns ch (.head _)).2.2⟩

/-- What a reader that comes to the text sees. -/
theorem exists_peek {c : Cursor} {r : Text} (hrest : c.rest = v ++ r) : ∃ ch, c.peek = some ch ∧
    (isIndicator ch = false ∨ (ch = '-' ∨ ch = '?' ∨ ch = ':') ∧ endsWord (c.peekAt 1) = false) := by
  obtain ⟨ch, hch, hleads⟩ := h.leads
  obtain ⟨w, hw⟩ := List.head?_eq_some_iff.1 hch
  refine ⟨ch, by rw [Cursor.peek, hrest, hw]; rfl, hleads.imp_right fun ⟨hkind, hnext⟩ => ⟨hkind, ?_⟩⟩
  cases hsecond : v[1]? with
  | none =>
    rw [hsecond] at hnext
    cases hnext
  | some x =>
    rw [hsecond] at hnext
    rw [Cursor.peekAt, hrest, List.getElem?_append_left (List.getElem?_eq_some_iff.1 hsecond).1, hsecond]
    exact hnext

/-- Past the text. -/
theorem skip {c : Cursor} {r : Text} (hrest : c.rest = v ++ r) : (c.skip v.length).rest = r ∧
    (c.skip v.length).mark.offset = c.mark.offset + v.length ∧ (c.skip v.length).mark.line = c.mark.line := by
  have hlength : v.length ≤ c.rest.length := by
    rw [hrest, List.length_append]
    omega
  have hmark := Lex.mark_skip hlength (by rw [hrest, List.take_left]; exact h.columns)
  exact ⟨by rw [Cursor.rest_skip, hrest, List.drop_left], by rw [hmark], by rw [hmark]⟩

end ReadsPlain

/-- The end of a line ends a plain scalar. -/
theorem LineEnd.endsPlain {spaces comment feed later : Text} (h : LineEnd spaces comment feed later) :
    Lex.EndsPlain (spaces ++ (comment ++ (feed ++ later))) := by
  left
  cases hs : spaces with
  | cons x more =>
    rw [h.blank x (by rw [hs]; exact .head _)]
    rfl
  | nil =>
    rcases h.remark with rfl | ⟨hne, -⟩
    · rcases h.breaks with rfl | rfl | ⟨rfl, rfl⟩ <;> rfl
    · exact absurd hs hne

namespace Fork

variable {F : Fork} {t : Text} {released : List Token} {as : List Arrival} {a a' b b' r : TokenReader}

/-! ## Before the scalars -/

/-- Two readers that are about to read the scalars with which their texts go on. -/
structure AtSeam (F : Fork) (t : Text) (released : List Token) (a b a' b' : TokenReader) : Prop where
  twins : F.Twins [] [] a' b'
  sound : ∃ as n, Sound t released as n a'
  cursor : a'.cursor = a.cursor
  cursor' : b'.cursor = b.cursor
  ends : ∃ n m, a'.queue = a.queue ++ List.replicate n (.mark0 .blockEnd m)
  flow : a'.flow = a.flow
  online : Sound.OnLine a'
  indent : a.flow = [] → a'.indent ≤ a'.cursor.mark.column

/-- Before a scalar the blocks that it does not belong to end. -/
theorem exists_atSeam (h : F.Twins [] [] a b) (hsound : Sound t released as 0 a) (hrun : fetchHere.run a = .ok ((), r))
    {ch ch' : Char} (hch : a.cursor.peek = some ch) (hch' : b.cursor.peek = some ch') :
    ∃ a' b', F.AtSeam t released a b a' b' ∧
      (tokenAt ch).run a' = .ok ((), r) ∧ fetchHere.run b = (tokenAt ch').run b' := by
  rw [fetchHere] at hrun
  obtain ⟨⟨⟩, a₁, hdrop, hrun⟩ := exists_of_run_bind_ok hrun
  obtain ⟨⟨⟩, b₁, hdrop', -, htwins₁, hcursor₁⟩ := follows_dropStaleKeys (G := anywhere) h () a₁ hdrop trivial
  obtain ⟨hstale, rfl⟩ := ensures_dropStaleKeys_eq _ _ hdrop
  have hsound₁ := hsound.dropStale hstale
  rw [run_bind_ok (a := a.cursor.mark) rfl] at hrun
  obtain ⟨⟨⟩, a₂, hunwind, hrun⟩ := exists_of_run_bind_ok hrun
  obtain ⟨⟨⟩, b₂, hunwind', -, htwins₂, hcursor₂⟩ := follows_unwind htwins₁ () a₂ hunwind trivial
  obtain ⟨n, hsound₂, hplaced, -, hkeys₂, hflow₂⟩ := hsound₁.ensures_unwind () a₂ hunwind
  have hcursor : a₂.cursor = a.cursor := hcursor₂.trans hcursor₁
  have hcursor' : b₂.cursor = b.cursor := by
    have hb₁ : b₁.cursor = b.cursor := (ensures_dropStaleKeys (Q := fun _ r => r.cursor = b.cursor)).2
      (fun _ => rfl) _ _ hdrop'
    exact (ensures_unwind_cursor _ _ _ hunwind').trans hb₁
  have hrun' : fetchHere.run b = (tokenAt ch').run b₂ := by
    have hcolumn : (b₁.cursor.mark.column : Int) = a.cursor.mark.column := by rw [F.column htwins₁.cursor.marks]
    rw [fetchHere, run_bind_ok hdrop', run_bind_ok (a := b₁.cursor.mark) rfl, hcolumn, run_bind_ok hunwind',
      run_bind_ok (a := some ch') (r := b₂) (by rw [← hch', ← hcursor']; rfl)]
  rw [run_bind_ok (a := some ch) (r := a₂) (by rw [← hch, ← hcursor]; rfl)] at hrun
  refine ⟨a₂, b₂, ⟨htwins₂, ⟨_, _, hsound₂⟩, hcursor, hcursor', ⟨n, a₂.cursor.mark, ?_⟩, hflow₂, ?_, fun hflow => ?_⟩,
    hrun, hrun'⟩
  · have htokens := hsound.tokens
    have htokens₂ := hsound₂.tokens
    rw [List.replicate_zero, List.append_nil] at htokens
    rw [← List.cons_append, ← htokens, List.append_assoc] at htokens₂
    exact List.append_cancel_left htokens₂
  · exact Sound.onLine_congr Sound.onLine_dropStale hkeys₂ hcursor₂
  · have hblocks := hsound₂.blocks
    cases hd : (laid as).blocks.drop n with
    | nil =>
      rw [hd, List.map_nil, List.nil_append] at hblocks
      have := (List.cons.inj hblocks).1
      omega
    | cons block blocks =>
      rw [hd, List.map_cons, List.cons_append] at hblocks
      have hinside := hplaced.inside (hflow₂.trans hflow) block (by rw [hd]; rfl)
      rw [← (List.cons.inj hblocks).1]
      exact_mod_cast hinside

/-! ## The scalar with its quotes -/

/-- A quoted scalar `x` is read; the reader stands at `c` after it. -/
structure Quoted (F : Fork) (t : Text) (released : List Token) (a b a' b' saved r : TokenReader) (x : Token)
    (c : Cursor) : Prop
    extends F.AtSeam t released a b a' b' where
  fetch : ∀ ch, b.cursor.peek = some ch → fetchHere.run b = (tokenAt ch).run b'
  save : saveKey.run a' = .ok ((), saved)
  isOn : ∃ k, c = a.cursor.skip (k + 1)
  start : x.start = a.cursor.mark
  stop : x.stop = c.mark
  kind : ∃ value style, x.kind = .scalar value style
  read : r = { saved with keyAllowed := false, cursor := c, queue := a'.queue ++ [x] }

theorem eq_of_saveKey {s s' : TokenReader} (h : saveKey.run s = .ok ((), s')) : ∃ keys, s' = { s with keys } ∧
    ∀ y ∈ keys, y ∈ s.keys ∨ y.2.mark = s.cursor.mark := by
  refine (ensures_saveKey (Q := fun _ s' => ∃ keys, s' = { s with keys } ∧
    ∀ y ∈ keys, y ∈ s.keys ∨ y.2.mark = s.cursor.mark)).2
    ⟨fun _ _ => ⟨_, rfl, fun y hy => ?_⟩, fun _ => ⟨_, rfl, fun y hy => .inl hy⟩⟩ _ _ h
  rcases List.mem_append.1 hy with hy | hy
  · exact .inl (List.mem_of_mem_filter hy)
  · rw [List.mem_singleton.1 hy]
    exact .inr rfl

theorem exists_quoted (h : F.Twins [] [] a b) (hne : F.left ≠ []) (hleft : a.cursor.rest = F.left)
    (hsound : Sound t released as 0 a) (hrun : fetchHere.run a = .ok ((), r)) :
    ∃ a' b' saved x c, F.Quoted t released a b a' b' saved r x c := by
  obtain ⟨hquoted, hword⟩ := F.parts hne
  obtain ⟨ch, left, hl, hch⟩ := hquoted
  obtain ⟨ch', right, hr, -⟩ := hword
  have hpeek : a.cursor.peek = some ch := by rw [Cursor.peek, hleft, hl]; rfl
  obtain ⟨hcolumn, hpeek'⟩ : a.cursor.mark.column ≠ 0 ∧ b.cursor.peek = some ch' := by
    rcases h.cursor.cases_start with hb | ⟨-, -, hc', hcolumn⟩
    · have := hb.resolve_left hne
      rw [hleft] at this
      omega
    · exact ⟨hcolumn, by rw [Cursor.peek, hc', hr]; rfl⟩
  obtain ⟨a', b', hseam, hrun, hfetch⟩ := exists_atSeam h hsound hrun hpeek hpeek'
  rw [tokenAt_quote (by rw [hseam.cursor]; exact hcolumn) hch] at hrun
  obtain ⟨saved, kind, c, hsave, hread, rfl⟩ := exists_of_run_keyCandidate hrun
  obtain ⟨keys, rfl, -⟩ := eq_of_saveKey hsave
  have hcursor : a'.cursor = a.cursor := hseam.cursor
  rw [hcursor] at hread
  obtain ⟨k, hk, rfl, -⟩ := reads_quotedToken _ _ _ hread
  obtain ⟨value, style, rfl, -⟩ := ensures_quotedToken_kind _ _ hread
  refine ⟨a', b', _, ⟨.scalar value style, a.cursor.mark, (a.cursor.skip k).mark⟩, a.cursor.skip k, { hseam with
    fetch := fun x hx => ?_
    save := hsave
    isOn := ⟨k - 1, by rw [Nat.sub_add_cancel hk]⟩
    start := rfl
    stop := rfl
    kind := ⟨value, style, rfl⟩
    read := by rw [hcursor] }⟩
  rw [hpeek'] at hx
  cases hx
  exact hfetch

namespace Quoted

variable {a' b' saved : TokenReader} {x : Token} {c : Cursor} (h : F.Quoted t released a b a' b' saved r x c)

include h

/-- The scalar with which the texts part is the only one that starts there. -/
theorem eq_of_start (ht : t.IsRegular) {rest : List Released} (hdrains : Drains r rest) {y : Released} (hy : y ∈ rest)
    (hscalar : y.token.kind.lexemeKind = .scalar) (hstart : y.token.start.offset = a.cursor.mark.offset)
    (hleft : a.cursor.rest ≠ []) : y.token = x := by
  obtain ⟨as, n, hsound⟩ := h.sound
  have hin : a.cursor.IsIn t := h.cursor ▸ hsound.cursor
  obtain ⟨k, hk⟩ := h.isOn
  obtain ⟨hin', hoffset⟩ := hin.skip ht (k + 1)
  have hlater : a.cursor.mark.offset < r.cursor.mark.offset := by
    have := List.length_pos_iff.2 hleft
    rw [h.read]
    dsimp only
    rw [hk]
    omega
  have hread : r.cursor.IsIn t := by
    rw [h.read]
    dsimp only
    rwa [hk]
  rcases hdrains.start_of_scalar ht hread y hy hscalar with hmem | hle
  · rw [h.read] at hmem
    rcases List.mem_append.1 hmem with hmem | hmem
    · have := hsound.start_lt (List.mem_append_right _ hmem) hscalar
      rw [h.cursor] at this
      omega
    · exact List.mem_singleton.1 hmem
  · omega

end Quoted

/-! ## What comes after the scalars -/

theorem leaves_of {s : TokenReader} {q : List Token} {x : Token} {g : Cursor} {allowed : Bool} (hundone : s.done = false)
    (hflow : s.flow = []) (hq : s.queue = q ++ [x]) (hx : x.kind ≠ .value) (hoffset : s.cursor.mark.offset ≠ 0)
    (hgap : Gap s.cursor s.keyAllowed g allowed) : s.Leaves g allowed where
  undone := hundone
  flow := hflow
  queued := by simp [hq]
  last := by simpa [hq] using hx
  offset := hoffset
  gap := hgap

/-- Possible keys of an earlier line are stale. -/
theorem leavesLine_of {s : TokenReader} {g : Cursor} (h : s.Leaves g true)
    (hkeys : ∀ y ∈ s.keys, y.2.mark.line < g.mark.line) : s.LeavesLine g where
  toLeaves := h
  stale y hy := by
    have := hkeys y hy
    rw [isStale, Bool.or_eq_true, bne_iff_ne]
    exact .inl (by omega)

/-- The same gap in two texts. -/
theorem beside_of_gap (hl : F.left = []) {c c' g g' : Cursor} (h : F.Beside c c') (hoffset : c.mark.offset ≠ 0)
    (hgap : Gap c true g true) (hgap' : Gap c' true g' true) : F.Beside g g' := by
  have htwins : F.Twins [] [] (TokenReader.movedTo ⟨c, [], -1, [], true, [], [], 0, .v1_2, false⟩ c)
      (TokenReader.movedTo ⟨c', [], -1, [], true, [], [], 0, .v1_2, false⟩ c') :=
    ⟨h, rfl, rfl, rfl, rfl, .nil, fun x hx => (by cases hx), ⟨[], [], rfl, rfl, .nil⟩, rfl, rfl, rfl, rfl⟩
  have hrun := run_skipToToken (s := TokenReader.movedTo ⟨c, [], -1, [], true, [], [], 0, .v1_2, false⟩ c) rfl hoffset hgap
  have hoffset' : c'.mark.offset ≠ 0 := fun h0 => hoffset ((F.atStart h.marks).1 h0)
  have hrun' := run_skipToToken (s := TokenReader.movedTo ⟨c', [], -1, [], true, [], [], 0, .v1_2, false⟩ c') rfl
    hoffset' hgap'
  obtain ⟨⟨⟩, r', hfound, -, hfollow⟩ := follows_skipToToken htwins _ _ hrun (.inl hl)
  rw [hrun'] at hfound
  cases hfound
  exact hfollow.cursor

/-- After the same end of a line two texts go on alike. -/
theorem exists_beside_next {spaces comment feed later : Text} (hline : LineEnd spaces comment feed later)
    (hfeed : feed ≠ []) {c d g : Cursor}
    (hc : c.rest = spaces ++ (comment ++ (feed ++ later))) (hd : d.rest = spaces ++ (comment ++ (feed ++ later)))
    (hgap : Gap (LineEnd.next spaces comment feed c) true g true) :
    ∃ found e g', ∃ (base base' : Mark) (hb : base.offset ≠ 0) (hb' : base'.offset ≠ 0),
      Lex.plainSpaces.run d = .ok (found, e) ∧ Gap e found.2 g' true ∧
      Gap (LineEnd.next spaces comment feed d) true g' true ∧ (shift base base' hb hb').Beside g g' ∧
      base.offset = c.mark.offset + (spaces.length + (comment.length + feed.length)) ∧
      base'.offset = d.mark.offset + (spaces.length + (comment.length + feed.length)) := by
  obtain ⟨found, e, hspaces⟩ := LineEnd.exists_run_plainSpaces d
  obtain ⟨g', allowed', hgap'⟩ := exists_gap e found.2
  have hwhole := hline.gap_next hfeed hd (gap_of_plainSpaces hspaces (by rwa [Bool.or_false]))
  obtain rfl := hwhole.allowed_of_true
  have hpos := List.length_pos_iff.2 hfeed
  have hnext := hline.mark_next hfeed hc
  have hnext' := hline.mark_next hfeed hd
  have hb : (LineEnd.next spaces comment feed c).mark.offset ≠ 0 := by
    rw [hnext]
    simp only
    omega
  have hb' : (LineEnd.next spaces comment feed d).mark.offset ≠ 0 := by
    rw [hnext']
    simp only
    omega
  have hbeside := beside_of_gap (F := shift _ _ hb hb') rfl (beside_shift
    (by rw [LineEnd.rest_next hc, LineEnd.rest_next hd]) (Shifted.refl (by rw [hnext, hnext']))) hb hgap hwhole
  exact ⟨found, e, g', _, _, hb, hb', hspaces, hgap', hwhole, hbeside, by rw [hnext], by rw [hnext']⟩

/-- The scalar is read without quotes, as `v`; the reader stands at `e` after it. -/
structure Bare (F : Fork) (a b b' saved saved' r' : TokenReader) (v : Text) (stop : Mark) (afterBreak : Bool)
    (e : Cursor) : Prop where
  twins : F.Twins [] [] saved saved'
  fetch : fetchHere.run b = .ok ((), r')
  leaves : ∀ {g : Cursor} {allowed : Bool}, Gap e afterBreak g allowed → r'.Leaves g allowed
  read : r' = { saved' with
    keyAllowed := afterBreak, cursor := e
    queue := b'.queue ++ [⟨.scalar (String.ofList v) .plain, a.cursor.mark, stop⟩] }

namespace Quoted

variable {a' b' saved : TokenReader} {x : Token} {c : Cursor} (h : F.Quoted t released a b a' b' saved r x c)
  {spaces comment feed later : Text} {g : Cursor}

include h

theorem line_lt (hline : LineEnd spaces comment feed later) (hfeed : feed ≠ [])
    (hc : c.rest = spaces ++ (comment ++ (feed ++ later)))
    (hgap : Gap (LineEnd.next spaces comment feed c) true g true) : a.cursor.mark.line < g.mark.line := by
  obtain ⟨k, rfl⟩ := h.isOn
  have hle : a.cursor.mark.line ≤ (a.cursor.skip (k + 1)).mark.line := Cursor.IsOn.line_le ⟨_, rfl⟩
  have hnext := hgap.isOn.line_le
  rw [hline.mark_next hfeed hc] at hnext
  simp only at hnext
  omega

theorem line_of_keys {y : Nat × SimpleKey} (hy : y ∈ saved.keys) : y.2.mark.line = a.cursor.mark.line := by
  obtain ⟨keys, rfl, hkeys⟩ := eq_of_saveKey h.save
  rw [← h.cursor]
  rcases hkeys y hy with hy | hy
  · exact h.online y hy
  · rw [hy]

theorem leaves (ht : t.IsRegular) (hflow : a.flow = []) (hleft : a.cursor.rest ≠ []) {allowed : Bool}
    (hgap : Gap c false g allowed) : r.Leaves g allowed := by
  obtain ⟨as, n, hsound⟩ := h.sound
  obtain ⟨k, hk⟩ := h.isOn
  obtain ⟨value, style, hkind⟩ := h.kind
  obtain ⟨keys, hsaved, -⟩ := eq_of_saveKey h.save
  have hoffset := (hsound.cursor.skip ht (k + 1)).2
  rw [h.cursor] at hoffset
  have hpos := List.length_pos_iff.2 hleft
  have hread := h.read
  refine leaves_of (q := a'.queue) (x := x) ?_ ?_ ?_ (by rw [hkind]; nofun) ?_ ?_
  · rw [hread, hsaved]
    exact hsound.undone
  · rw [hread, hsaved]
    exact h.flow.trans hflow
  · rw [hread]
  · rw [hread]
    dsimp only
    rw [hk]
    omega
  · rw [hread]
    exact hgap

/-- After a quoted scalar that ends its line. -/
theorem exists_leavesLine (ht : t.IsRegular) (hflow : a.flow = []) (hleft : a.cursor.rest ≠ [])
    (hline : LineEnd spaces comment feed later) (hfeed : feed ≠ [])
    (hc : c.rest = spaces ++ (comment ++ (feed ++ later))) :
    ∃ g, r.LeavesLine g ∧ Gap (LineEnd.next spaces comment feed c) true g true := by
  obtain ⟨g, allowed, hgap⟩ := exists_gap c false
  have hnext := hline.gap_next hfeed hc hgap
  obtain rfl := hnext.allowed_of_true
  refine ⟨g, leavesLine_of (h.leaves ht hflow hleft hgap) fun y hy => ?_, hnext⟩
  rw [h.read] at hy
  rw [h.line_of_keys hy]
  exact h.line_lt hline hfeed hc hnext

theorem loneKey (hflow : a.flow = []) : LoneKey r.keys := by
  obtain ⟨as, n, hsound⟩ := h.sound
  have hflow' := h.flow.trans hflow
  have hkeys : LoneKey a'.keys := loneKey_of_le (hsound.keys.sorted.imp And.left) fun y hy => by
    have := hsound.keys_depth y hy
    rwa [hflow'] at this
  have hsaved := loneKey_saveKey hkeys hflow' h.save
  rw [h.read]
  exact hsaved

/-- Where the other reader stands. -/
theorem right (hmarks : ∀ m m', F.Marks m m' → m' = m) (hne : F.left ≠ []) (hleft : a.cursor.rest = F.left) :
    b'.cursor.rest = F.right ∧ b'.cursor.mark = a.cursor.mark ∧ a.cursor.mark.column ≠ 0 := by
  have hbeside := h.twins.cursor
  rw [h.cursor] at hbeside
  rcases hbeside.cases_start with hb | ⟨-, -, hright, hcolumn⟩
  · have := hb.resolve_left hne
    rw [hleft] at this
    omega
  · exact ⟨hright, hmarks _ _ hbeside.marks, hcolumn⟩

/-- In place of the quoted scalar a plain one is read. -/
theorem exists_bare (hmarks : ∀ m m', F.Marks m m' → m' = m) (hne : F.left ≠ []) (hleft : a.cursor.rest = F.left)
    (hflow : a.flow = []) {v w : Text} (hright : F.right = v ++ w) (hv : ReadsPlain v) (hw : Lex.EndsPlain w)
    {found : Option Text × Bool} {e : Cursor} (hspaces : Lex.plainSpaces.run (b'.cursor.skip v.length) = .ok (found, e))
    (hhalts : ∀ place : Lex.PlainPlace, place.column = a'.indent + 1 → Lex.Halts place found.1 e) :
    ∃ saved' r' stop, F.Bare a b b' saved saved' r' v stop found.2 e := by
  obtain ⟨hrest, hmark, hcolumn⟩ := h.right hmarks hne hleft
  rw [hright] at hrest
  obtain ⟨ch, hpeek, hleads⟩ := hv.exists_peek hrest
  obtain ⟨⟨⟩, saved', hsave', -, htwins, -⟩ := follows_saveKey h.twins () saved h.save trivial
  obtain ⟨keys', hsaved', -⟩ := eq_of_saveKey hsave'
  have hscursor : saved'.cursor = b'.cursor := by rw [hsaved']
  have hsflow : saved'.flow = [] := by rw [hsaved']; exact h.twins.flow.trans (h.flow.trans hflow)
  have hsindent : saved'.indent = a'.indent := by rw [hsaved']; exact h.twins.indent
  have hread : (Lex.plainScalar ⟨!saved'.flow.isEmpty, saved'.version, saved'.indent + 1⟩).run saved'.cursor =
      .ok (⟨v, (saved'.cursor.skip v.length).mark, found.2⟩, e) := by
    rw [hscursor]
    refine Lex.run_plainScalar hv.words (by rw [hsflow]; rfl) hrest ?_ hv.columns hw hspaces (hhalts _ (by rw [hsindent]))
    have hindent := h.indent hflow
    rw [h.cursor] at hindent
    simp only [hsindent, hmark]
    omega
  have hrun := run_plainScalar hsave' hread
  rw [← tokenAt_eq_plainScalar (h.twins.flow.trans (h.flow.trans hflow)) (by rw [hmark]; exact hcolumn) hleads,
    ← h.fetch ch (by rw [← h.cursor']; exact hpeek)] at hrun
  refine ⟨saved', _, (saved'.cursor.skip v.length).mark, htwins, hrun, fun hgap => ?_, by rw [hscursor, hmark, hsaved']⟩
  refine leaves_of (q := saved'.queue) ?_ hsflow rfl nofun ?_ hgap
  · obtain ⟨as, n, hsound⟩ := h.sound
    rw [hsaved']
    exact h.twins.done.trans hsound.undone
  · obtain ⟨k, -, rfl, -⟩ := Lex.readsOn_plainSpaces _ _ _ hspaces
    have hoffset := (hv.skip hrest).2.1
    have hle := (b'.cursor.skip v.length).offset_le_skip k
    have hpos := hv.length_pos
    simp only
    omega

/-- After a plain scalar with the same line end the readers go on alike, if no plain scalar goes on there. -/
theorem exists_bare_line (hmarks : ∀ m m', F.Marks m m' → m' = m) (hne : F.left ≠ []) (hleft : a.cursor.rest = F.left)
    (hflow : a.flow = []) (hline : LineEnd spaces comment feed later) (hfeed : feed ≠ [])
    (hc : c.rest = spaces ++ (comment ++ (feed ++ later))) (hgap : Gap (LineEnd.next spaces comment feed c) true g true)
    {v : Text} (hright : F.right = v ++ c.rest) (hv : ReadsPlain v)
    (hends : g.peek = none ∨ (g.mark.column : Int) < a'.indent + 1 ∨ g.mark.column = 0 ∧ g.atSeparator = true) :
    ∃ saved' r' stop afterBreak e, F.Bare a b b' saved saved' r' v stop afterBreak e ∧
      ∃ g', ∃ (base base' : Mark) (hb : base.offset ≠ 0) (hb' : base'.offset ≠ 0), r'.LeavesLine g' ∧
        (shift base base' hb hb').Beside g g' ∧
        base.offset = c.mark.offset + (spaces.length + (comment.length + feed.length)) ∧
        base'.offset = a.cursor.mark.offset + v.length + (spaces.length + (comment.length + feed.length)) := by
  obtain ⟨hrest, hmark, -⟩ := h.right hmarks hne hleft
  rw [hright] at hrest
  obtain ⟨hdone, hoffset, hsameLine⟩ := hv.skip hrest
  rw [hmark] at hoffset hsameLine
  -- The next line is the same in both texts.
  obtain ⟨found, e, g', base, base', hb, hb', hspaces, hgap', hwhole, hbeside, hbase, hbase'⟩ :=
    exists_beside_next hline hfeed hc (hdone.trans hc) hgap
  obtain ⟨saved', r', stop, hbare⟩ := h.exists_bare hmarks hne hleft hflow hright hv (by rw [hc]; exact hline.endsPlain)
    hspaces fun place hplace => hline.halts (hdone.trans hc) hspaces hgap' (by
      rw [hbeside.peek (.inl rfl), hbeside.atSeparator (.inl rfl), (shift _ _ hb hb').column hbeside.marks, hplace]
      exact hends)
  refine ⟨saved', r', stop, found.2, e, hbare, g', base, base', hb, hb', leavesLine_of (hbare.leaves hgap') fun y hy => ?_,
    hbeside, hbase, by rw [hbase', hoffset]⟩
  rw [hbare.read] at hy
  obtain ⟨x, hx, hsame⟩ := exists_left_of_mem hbare.twins.keys hy
  rw [hmarks _ _ hsame.marks, h.line_of_keys hx, ← hsameLine]
  have hle := hwhole.isOn.line_le
  rw [hline.mark_next hfeed (hdone.trans hc)] at hle
  simp only at hle
  omega

/-- So they do at the end of the text. -/
theorem exists_bare_end (hmarks : ∀ m m', F.Marks m m' → m' = m) (hne : F.left ≠ []) (hleft : a.cursor.rest = F.left)
    (hflow : a.flow = []) (hline : LineEnd spaces comment feed later) (hfeed : feed = [])
    (hc : c.rest = spaces ++ (comment ++ (feed ++ later))) {v : Text} (hright : F.right = v ++ c.rest) (hv : ReadsPlain v) :
    ∃ saved' r' stop afterBreak e, F.Bare a b b' saved saved' r' v stop afterBreak e ∧
      ∃ g' allowed, r'.Leaves g' allowed ∧ g'.peek = none ∧
        g'.mark.offset = a.cursor.mark.offset + v.length + (spaces.length + (comment.length + feed.length)) := by
  obtain ⟨hrest, hmark, -⟩ := h.right hmarks hne hleft
  rw [hright] at hrest
  obtain ⟨hdone, hoffset, -⟩ := hv.skip hrest
  obtain ⟨found, e, hspaces⟩ := LineEnd.exists_run_plainSpaces (b'.cursor.skip v.length)
  obtain ⟨g', allowed, hgap'⟩ := exists_gap e found.2
  obtain ⟨hnext, -⟩ := hline.gap_end hfeed (hdone.trans hc) (gap_of_plainSpaces hspaces (by rwa [Bool.or_false]))
  have hpeek := hline.peek_next hfeed (hdone.trans hc)
  rw [← hnext] at hpeek
  obtain ⟨saved', r', stop, hbare⟩ := h.exists_bare hmarks hne hleft hflow hright hv (by rw [hc]; exact hline.endsPlain)
    hspaces fun place _ => hline.halts (hdone.trans hc) hspaces hgap' (.inl hpeek)
  refine ⟨saved', r', stop, found.2, e, hbare, g', allowed, hbare.leaves hgap', hpeek, ?_⟩
  rw [hnext, LineEnd.offset_next (hdone.trans hc), hoffset, hmark]

end Quoted

end Fork

end YamlStyle.Yaml
