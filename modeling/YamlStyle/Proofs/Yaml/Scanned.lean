import YamlStyle.Proofs.Yaml.Fetching

/-!
# The tokens of a text

A scan that does not fail reads a text to its end, and all its tokens arrive where they fit.
-/

namespace YamlStyle.Yaml

open Layout Scan

/-! ## The number of tokens -/

namespace Layout

variable {l : Layout} {a : Arrival} {as : List Arrival}

/-- How many tokens and blocks there may be up to the last token: four for each offset. -/
def allowance (l : Layout) : Nat :=
  match l.last with
  | some x => 4 * x.start.offset + x.rank + 2
  | none => 0

theorem rank_le (x : Token) : x.rank ≤ 2 := by
  unfold Token.rank
  split
  · omega
  · split <;> omega

theorem length_opened_le (x : Token) : (opened x).length ≤ 1 := by
  cases hk : x.kind <;> simp [opened, hk]

theorem opened_of_rank_pos {x : Token} (h : 0 < x.rank) : opened x = [] := by
  refine opened_of_not_isBlockStart (Bool.eq_false_iff.2 fun hs => ?_)
  rw [Token.rank_of_isBlockStart hs] at h
  exact Nat.lt_irrefl 0 h

theorem Fits.allowance_after (h : l.Fits a) : (opened a.token).length + 1 + l.allowance ≤ (l.after a).allowance := by
  have ho := length_opened_le a.token
  cases hl : l.last with
  | none =>
    simp only [allowance, hl, last_after]
    omega
  | some x =>
    simp only [allowance, hl, last_after]
    have hx := rank_le x
    rcases h.order x hl with hlt | ⟨heq, hlt⟩
    · omega
    · rw [opened_of_rank_pos (by omega), List.length_nil]
      omega

theorem length_le_allowance (h : Walks Fits l as) :
    (as.flatMap Arrival.tokens).length + (l.afterAll as).blocks.length + l.allowance ≤
      l.blocks.length + (l.afterAll as).allowance := by
  induction as generalizing l with
  | nil => simp
  | cons a as ih =>
    have hstep := h.1.allowance_after
    have hrest := ih h.2
    have hle := h.1.ends_le
    have hblocks : (l.after a).blocks.length = (opened a.token).length + (l.blocks.length - a.ends) := by
      simp [after, within]
    have htokens : a.tokens.length = a.ends + 1 := by simp [Arrival.tokens]
    rw [afterAll_cons, List.flatMap_cons, List.length_append]
    omega

end Layout

theorem KeysHold.fits {keys : List (Nat × SimpleKey)} {as : List Arrival} (h : KeysHold keys as) :
    Walks Fits .start as := by
  by_cases hbase : ∃ x ∈ keys, x.1 = 0
  · obtain ⟨x, hx, h0⟩ := hbase
    obtain ⟨pre, a, post, rfl, hp, hb⟩ := h.pending x hx
    have hb := hb h0
    exact walks_append.2 ⟨hb.earlier.imp fun _ _ ha => ha.1, hp.fits, hb.later.imp fun _ _ ha => ha.1⟩
  · exact (h.free fun x hx h0 => hbase ⟨x, hx, h0⟩).imp fun _ _ ha => ha.1

/-! ## The end of the stream -/

/-- The end of the stream, and the block ends before it. -/
def ending (t : Text) (n : Nat) : Arrival := ⟨n, .mark0 .streamEnd ((LineIndex.ofText t).mark t.length)⟩

/-- All that has been read of a text, to the end of the stream. -/
structure Scanned (t : Text) (as : List Arrival) (tokens : List Token) : Prop where
  tokens : tokens = streamStart :: as.flatMap Arrival.tokens
  marked : ∀ a ∈ as, a.token.start = (LineIndex.ofText t).mark a.token.start.offset
  bounded : ∀ a ∈ as, a.token.kind = .key → a.token.stop.offset ≤ t.length
  ended : ∃ init n, as = init ++ [ending t n] ∧ ∀ a ∈ init, a.token.kind.isShown = true
  fits : Walks Fits .start as
  walks : (laid as).depth = 0 → Walks Admits .start as

/-- A reader that has nothing more to read. -/
structure Done (t : Text) (released : List Token) (s : TokenReader) : Prop where
  done : s.done = true
  scanned : ∃ as, Scanned t as (released ++ s.queue)
  length_le : (released ++ s.queue).length ≤ 4 * t.length + 2

namespace Sound

variable {t : Text} {released : List Token} {as : List Arrival} {n : Nat} {s : TokenReader} {c : Char}

theorem length_le (h : Sound t released as n s) :
    (as.flatMap Arrival.tokens).length + (laid as).blocks.length ≤ 4 * s.cursor.mark.offset := by
  have hcount : _ + (laid as).blocks.length + 0 ≤ 0 + (laid as).allowance := length_le_allowance h.keys.fits
  have hlast := h.last_passed
  cases hl : (laid as).last with
  | none =>
    have hallow : (laid as).allowance = 0 := by rw [allowance, hl]
    omega
  | some x =>
    have hallow : (laid as).allowance = 4 * x.start.offset + x.rank + 2 := by rw [allowance, hl]
    have hx := rank_le x
    have hlt := hlast x hl
    omega

theorem offset_eq (h : Sound t released as n s) (hc : s.cursor.peek = none) : s.cursor.mark.offset = t.length := by
  have hrest := h.cursor.rest
  have hbound := h.cursor.bound
  rw [Cursor.peek, List.head?_eq_none_iff] at hc
  rw [hc] at hrest
  have := List.drop_eq_nil_iff.1 hrest.symm
  omega

theorem ensures_streamEnd (h : Sound t released as n s) (hc : s.cursor.peek = none) :
    Ensures Scan.streamEnd s fun _ s' => Done t released s' := by
  simp only [Scan.streamEnd, ensures_bind]
  refine h.ensures_unwind_all.imp fun _ s1 h1 => ?_
  obtain ⟨m, h1, hm, hcur, -, hflow, -⟩ := h1
  rw [← hcur] at hc
  rw [← hflow] at hm
  simp only [ensures_dropKey, ensures_modify, ensures_pushHere]
  intro hr
  have hoffset := h1.offset_eq hc
  have hmark : s1.cursor.mark = (LineIndex.ofText t).mark t.length := by rw [← hoffset]; exact h1.cursor.mark
  have hend : (laid as).Fits (ending t m) := h1.fits_boundary hmark.symm rfl hm fun hk => absurd rfl hk
  refine ⟨rfl, ⟨as ++ [ending t m], ?_, ?_, ?_, ?_, ?_, ?_⟩, ?_⟩
  · rw [← List.append_assoc, h1.tokens, hmark]
    simp [ending, Arrival.tokens, Token.mark0]
  · intro a ha
    rcases List.mem_append.1 ha with ha | ha
    · exact h1.marked a ha
    · rw [List.mem_singleton.1 ha]
      rfl
  · intro a ha hk
    rcases List.mem_append.1 ha with ha | ha
    · exact h1.bounded a ha hk
    · rw [List.mem_singleton.1 ha] at hk
      cases hk
  · exact ⟨as, m, rfl, h1.shown⟩
  · exact walks_append.2 ⟨h1.keys.fits, hend, trivial⟩
  · intro hd
    have hd : (laid as).depth = 0 := by
      rw [laid, afterAll_append, afterAll_cons, afterAll_nil] at hd
      exact hd
    have hf := h1.depth_eq_zero_iff.1 hd
    refine walks_append.2 ⟨h1.keys.walks fun x hx h0 => hr x.2 ?_, ⟨hend, not_misses_of_not_isKeyable rfl⟩, trivial⟩
    rw [hf, List.length_nil, ← h0]
    exact h1.keys.lookup_eq hx
  · have hlen := h1.length_le
    have hle := h1.ends_le
    rw [← List.append_assoc, h1.tokens]
    simp only [List.length_append, List.length_cons, List.length_replicate, List.length_nil]
    omega

/-! ## One more token -/

/-- Any character starts a token that fits, or the scan fails. -/
theorem ensures_tokenAt (ht : t.IsRegular) (h : Sound t released as n s) (hl : OnLine s) (hp : Placed as n s)
    (hc : s.cursor.peek = some c) : Ensures (Scan.tokenAt c) s fun _ s' => Goes t released s.cursor.mark.offset s' := by
  have hcolumn : ∀ {b : Bool}, (b && s.cursor.mark.column == 0) = true → s.cursor.mark.column = 0 := by
    intro _ hb
    simpa using (Bool.and_eq_true_iff.1 hb).2
  have hcolumn' : ∀ {b : Bool}, (s.cursor.mark.column == 0 && b) = true → s.cursor.mark.column = 0 := by
    intro _ hb
    simpa using (Bool.and_eq_true_iff.1 hb).1
  have hblock : ∀ {b : Bool}, (b && !(!s.flow.isEmpty)) = true → s.flow = [] := by
    intro _ hb
    simpa using (Bool.and_eq_true_iff.1 hb).2
  have hname : ∀ (context : Context), c ≠ '\n' →
      Ensures (Lex.anchorName context) s.cursor fun _ cursor => s.cursor.Reaches (· ≠ '\n') 1 cursor :=
    fun _ hn => Lex.reads_anchorName hc hn
  have hany : ∀ {c' : Cursor}, s.cursor.Reaches (· ≠ '\n') 1 c' → s.cursor.Reaches (fun _ => True) 1 c' :=
    fun hr => hr.mono (fun _ _ => trivial) (Nat.le_refl 1)
  simp only [Scan.tokenAt, ensures_bind, ensures_get, ensures_ite]
  refine ⟨fun hb => ?_, fun _ => ⟨fun hb => ?_, fun _ => ⟨fun hb => ?_, fun _ => ⟨fun hb => ?_, fun _ =>
    ⟨fun hb => ?_, fun _ => ⟨fun hb => ?_, fun _ => ⟨fun hb => ?_, fun _ => ⟨fun hb => ?_, fun _ =>
    ⟨fun hb => ?_, fun _ => ⟨fun hb => ?_, fun _ => ⟨fun hb => ?_, fun hv => ⟨fun hb => ?_, fun _ =>
    ⟨fun hb => ?_, fun _ => ⟨fun hb => ?_, fun _ => ⟨fun hb => ?_, fun _ => ⟨fun hb => ?_, fun _ =>
    ⟨fun hb => ?_, fun _ => ⟨fun hb => ?_, fun _ => ⟨fun hb => ?_, fun _ => ?_⟩⟩⟩⟩⟩⟩⟩⟩⟩⟩⟩⟩⟩⟩⟩⟩⟩⟩⟩
  -- Directives and document markers: at the start of a line.
  · exact h.ensures_directive ht hl hc (hcolumn hb)
  · exact h.ensures_documentMarker ht hl hc (hcolumn' hb) (.inl rfl)
  · exact h.ensures_documentMarker ht hl hc (hcolumn' hb) (.inr rfl)
  -- Flow collections.
  · exact h.ensures_flowStart ht hl hp hc (.inl rfl) _
  · exact h.ensures_flowStart ht hl hp hc (.inr rfl) _
  · exact h.ensures_flowEnd ht hl hp hc (.inl rfl)
  · exact h.ensures_flowEnd ht hl hp hc (.inr rfl)
  · exact h.ensures_flowEntry ht hl hp hc
  -- Indicators that may open a block.
  · exact h.ensures_blockEntry ht hl hp hc
  · exact h.ensures_explicitKey ht hl hp hc
  · exact h.ensures_value ht hl hp (by rw [hc, eq_of_beq (Bool.and_eq_true_iff.1 hb).1])
  -- Aliases, anchors and tags: their names stay on the line.
  · refine h.ensures_keyCandidate ht hl hp hc (ensures_map.2 ((hname _ ?_).imp fun _ _ hr => ?_))
    · rw [eq_of_beq hb]
      decide
    · exact ⟨rfl, rfl, hany hr, fun _ => hr⟩
  · refine h.ensures_keyCandidate ht hl hp hc (ensures_map.2 ((hname _ ?_).imp fun _ _ hr => ?_))
    · rw [eq_of_beq hb]
      decide
    · exact ⟨rfl, rfl, hany hr, fun _ => hr⟩
  · have htag : Ensures (Lex.tag s.version) s.cursor fun _ cursor => s.cursor.Reaches (· ≠ '\n') 1 cursor :=
      Lex.reads_tag (by rw [hc, eq_of_beq hb])
    exact h.ensures_keyCandidate ht hl hp hc (ensures_map.2 (htag.imp fun _ _ hr => ⟨rfl, rfl, hany hr, fun _ => hr⟩))
  -- Scalars: block, quoted, plain.
  · exact h.ensures_blockScalar ht hl hp hc (hblock hb) false
  · exact h.ensures_blockScalar ht hl hp hc (hblock hb) true
  · exact h.ensures_keyCandidate ht hl hp hc
      (ensures_map.2 (Ensures.imp (Lex.reads_quotedScalar false s.cursor) fun _ _ hr => ⟨rfl, rfl, hr, fun hk => by cases hk⟩))
  · exact h.ensures_keyCandidate ht hl hp hc
      (ensures_map.2 (Ensures.imp (Lex.reads_quotedScalar true s.cursor) fun _ _ hr => ⟨rfl, rfl, hr, fun hk => by cases hk⟩))
  · exact h.ensures_plainScalar ht hl hp hc hb hv
  · simp only [ensures_mark, ensures_throw]

theorem ensures_fetch (ht : t.IsRegular) (h : Sound t released as 0 s) :
    Ensures Scan.fetch s fun _ s' => Goes t released s.cursor.mark.offset s' ∨ Done t released s' := by
  simp only [Scan.fetch, ensures_bind]
  refine ensures_skipToToken.imp fun _ s1 hskip => ?_
  have h1 := h.skip ht hskip
  have hle : s.cursor.mark.offset ≤ s1.cursor.mark.offset := by
    obtain ⟨cursor, keyAllowed, rfl, hr, -⟩ := hskip
    have := (h.cursor.reaches ht hr).2
    simp only
    omega
  rw [ensures_dropStaleKeys]
  intro hstale
  have h2 := h1.dropStale hstale
  simp only [ensures_mark]
  refine h2.ensures_unwind.imp fun _ s3 h3 => ?_
  obtain ⟨n, h3, hp, hcur, hkeys, -⟩ := h3
  have hl : OnLine s3 := onLine_congr onLine_dropStale hkeys hcur
  rw [ensures_peek]
  cases hc : s3.cursor.peek with
  | none => exact (h3.ensures_streamEnd hc).imp fun _ _ hd => .inr hd
  | some c =>
    refine (h3.ensures_tokenAt ht hl hp hc).imp fun _ s4 h4 => .inl ?_
    obtain ⟨as', h4, hlt⟩ := h4
    rw [hcur] at hlt
    exact ⟨as', h4, Nat.lt_of_le_of_lt hle hlt⟩

/-- The first token of the queue is handed out once no key has its number. -/
theorem ensures_needsMore (h : Sound t released as 0 s) :
    Ensures Scan.needsMore s fun more s' => Sound t released as 0 s' ∧ s'.cursor = s.cursor ∧
      (more = false → s'.queue ≠ [] ∧ ∀ x ∈ s'.keys, x.2.number ≠ s'.taken) := by
  simp only [Scan.needsMore, ensures_bind, ensures_get, ensures_ite, ensures_pure, ensures_dropStaleKeys]
  refine ⟨fun hd => by simp [h.undone] at hd, fun _ => ⟨fun _ => ⟨h, trivial, fun hm => by cases hm⟩, fun hq hr => ?_⟩⟩
  refine ⟨h.dropStale hr, trivial, fun hm => ⟨fun hq' => hq (by simpa using hq'), fun x hx heq => ?_⟩⟩
  rw [List.any_eq_false] at hm
  exact hm x hx (by simpa using heq)

theorem release (h : Sound t released as 0 s) {x : Token} {queue : List Token} (hq : s.queue = x :: queue)
    (hkeys : ∀ x ∈ s.keys, x.2.number ≠ s.taken) :
    Sound t (released ++ [x]) as 0 { s with queue, taken := s.taken + 1 } := by
  refine { h with tokens := ?_, taken := ?_, keys_queued := fun y hy => ?_ }
  · have := h.tokens
    rw [hq] at this
    simpa using this
  · simp [h.taken]
  · have := h.keys_queued y hy
    have := hkeys y hy
    simp only
    omega

theorem not_streamEnd_of_mem (h : Sound t released as n s) : ∀ x ∈ released, x.kind ≠ .streamEnd := by
  intro x hx
  have hmem : x ∈ released ++ s.queue := List.mem_append_left _ hx
  simp only [h.tokens, List.mem_cons, List.mem_append, List.mem_flatMap, Arrival.tokens, List.mem_replicate,
    List.not_mem_nil, or_false] at hmem
  rcases hmem with rfl | ⟨a, ha, ⟨-, rfl⟩ | rfl⟩ | ⟨-, rfl⟩
  · simp [streamStart, Token.mark0]
  · simp [Token.mark0]
  · exact fun hk => absurd (h.shown a ha) (by simp [hk, TokenKind.isShown])
  · simp [Token.mark0]

theorem length_released_le (h : Sound t released as 0 s) : (released ++ s.queue).length ≤ 4 * t.length + 1 := by
  have hlen := h.length_le
  have hbound := h.cursor.bound
  rw [h.tokens]
  simp only [List.length_append, List.length_cons, List.length_replicate]
  omega

end Sound

/-! ## All tokens -/

variable {t : Text} {as : List Arrival} {s : TokenReader}

/-- Either the tokens go on to the end of the stream, or they fail before it. -/
structure TokenStream.Settled (t : Text) (st : TokenStream) : Prop where
  scanned : st.failure = none → ∃ as, Scanned t as (st.tokens.map (·.token))
  unended : st.failure ≠ none → ∀ x ∈ st.tokens, x.token.kind ≠ .streamEnd

theorem TokenStream.Settled.of_failure {st : TokenStream} (hf : st.failure ≠ none)
    (h : ∀ x ∈ st.tokens, x.token.kind ≠ .streamEnd) : st.Settled t :=
  ⟨fun hnone => absurd hnone hf, fun _ => h⟩

namespace TokenReader

theorem drain_done (h : s.done = true) (released : List Released) {fuel : Nat} (hf : s.queue.length < fuel) :
    (s.drain fuel released).failure = none ∧
      (s.drain fuel released).tokens.map (·.token) = released.reverse.map (·.token) ++ s.queue := by
  induction fuel generalizing s released with
  | zero => omega
  | succ fuel ih =>
    have hmore : Scan.needsMore.run s = .ok (false, s) := by
      simp only [Scan.needsMore, StateT.run_bind, StateT.run_get]
      simp [h, pure, Except.pure, bind, Except.bind, StateT.run, StateT.pure]
    rw [drain, hmore]
    dsimp only
    cases hq : s.queue with
    | nil => simp
    | cons x queue =>
      rw [hq, List.length_cons] at hf
      obtain ⟨hnone, htokens⟩ := ih (s := { s with queue, taken := s.taken + 1 }) h (⟨x, s.version⟩ :: released)
        (by simp only; omega)
      refine ⟨hnone, ?_⟩
      rw [htokens]
      simp

theorem settled_of_done {released : List Released} (h : Done t (released.reverse.map (·.token)) s) {fuel : Nat}
    (hf : 4 * t.length + 2 < fuel + released.length) : (s.drain fuel released).Settled t := by
  have hlen := h.length_le
  simp only [List.length_append, List.length_map, List.length_reverse] at hlen
  have hqueue : s.queue.length < fuel := by omega
  obtain ⟨hnone, htokens⟩ := drain_done h.done released hqueue
  refine ⟨fun _ => ?_, fun hne => absurd hnone hne⟩
  rw [htokens]
  exact h.scanned

/-- Every step of the reader hands out a token or reads on. -/
theorem settled_drain (ht : t.IsRegular) {fuel : Nat} {released : List Released}
    (h : Sound t (released.reverse.map (·.token)) as 0 s)
    (hf : 5 * t.length + 3 < fuel + released.length + s.cursor.mark.offset) : (s.drain fuel released).Settled t := by
  have hunended : ∀ x ∈ released.reverse, x.token.kind ≠ .streamEnd := fun x hx =>
    h.not_streamEnd_of_mem _ (List.mem_map_of_mem hx)
  induction fuel generalizing s released as with
  | zero =>
    -- The fuel outlasts all tokens: each offset accounts for four of them at most.
    have hlen := h.length_released_le
    have hbound := h.cursor.bound
    simp only [List.length_append, List.length_map, List.length_reverse] at hlen
    omega
  | succ fuel ih =>
    have hmore := h.ensures_needsMore
    rw [drain]
    cases hrun : Scan.needsMore.run s with
    | error e => exact .of_failure (Option.some_ne_none e) hunended
    | ok r =>
      obtain ⟨more, s1⟩ := r
      obtain ⟨h1, hcur, hrelease⟩ := hmore more s1 hrun
      cases more with
      -- A fetch reads on, or it is the last one.
      | true =>
        have hfetch := h1.ensures_fetch ht
        dsimp only
        cases hrun1 : Scan.fetch.run s1 with
        | error e => exact .of_failure (Option.some_ne_none e) hunended
        | ok r =>
          obtain ⟨u, s2⟩ := r
          rcases hfetch u s2 hrun1 with ⟨as', h2, hlt⟩ | hdone
          · rw [hcur] at hlt
            exact ih h2 (by omega) hunended
          · have hbound := h.cursor.bound
            exact settled_of_done hdone (by omega)
      -- The first token of the queue is handed out; no key can come before it any more.
      | false =>
        obtain ⟨hne, hkeys⟩ := hrelease rfl
        dsimp only
        cases hq : s1.queue with
        | nil => exact absurd hq hne
        | cons x queue =>
          have h2 := h1.release hq hkeys
          refine ih (s := { s1 with queue, taken := s1.taken + 1 }) (by simpa using h2) ?_ ?_
          · simp only [hcur, List.length_cons]
            omega
          · intro y hy
            exact h2.not_streamEnd_of_mem _ (by simpa using List.mem_map_of_mem hy)

end TokenReader

theorem TokenStream.settled_ofText (ht : t.IsRegular) : (ofText t).Settled t := by
  rw [ofText]
  split
  · exact .of_failure (Option.some_ne_none _) fun x hx => by simp at hx
  · refine TokenReader.settled_drain ht (?_ : Sound t _ [] 0 _) ?_
    · exact {
        cursor := Cursor.isIn_ofText t
        tokens := rfl
        taken := rfl
        marked := fun a ha => by simp at ha
        passed := fun a ha => by simp at ha
        bounded := fun a ha => by simp at ha
        shown := fun a ha => by simp at ha
        ends_le := Nat.zero_le _
        ends_flow := fun h0 => absurd h0 (Nat.lt_irrefl 0)
        blocks := rfl
        depth := rfl
        keys := .nil
        keys_depth := fun x hx => by simp [TokenReader.start] at hx
        keys_queued := fun x hx => by simp [TokenReader.start] at hx
        allowed := fun _ h => by cases h
        undone := rfl }
    · simp only [scanFuel, List.length_nil]
      omega

end YamlStyle.Yaml
