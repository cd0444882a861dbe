import YamlStyle.Proofs.Yaml.Draining
import YamlStyle.Proofs.Yaml.Ensures

/-!
# What stands deeper than the blocks around it

Where a line starts deeper than the innermost block, something begins: a block, a flow collection or a node. No later
colon makes a key of that block out of it, because a deeper key opens a mapping of its own.
-/

namespace YamlStyle.Yaml

/-- The token with number `n` is still to be handed out, and begins something. A possible key with this number is not
inside a flow collection, and starts at `m`. -/
structure TokenReader.Begins (taken n : Nat) (m : Mark) (s : TokenReader) : Prop where
  taken_eq : s.taken = taken
  taken_le : taken ≤ n
  token : ∃ x, s.queue[n - taken]? = some x ∧ x.kind.isCloser = false
  numbers : ∀ x ∈ s.keys, n ≤ x.2.number
  first : ∀ x ∈ s.keys, x.2.number = n → x.1 = 0 ∧ x.2.mark = m

/-- The innermost block is not as deep as the token with number `n`, if that may turn out to be a key. -/
def TokenReader.IsAbove (n : Nat) (m : Mark) (s : TokenReader) : Prop := ∀ x ∈ s.keys, x.2.number = n → s.indent < m.column

namespace Scan

variable {k n : Nat} {m : Mark} {s : TokenReader} {α β : Type}

/-- Both of them. -/
def Deeper (k n : Nat) (m : Mark) (s : TokenReader) : Prop := s.Begins k n m ∧ s.IsAbove n m

theorem Deeper.filter (h : Deeper k n m s) (p : Nat × SimpleKey → Bool) : Deeper k n m { s with keys := s.keys.filter p } :=
  ⟨{ h.1 with
    numbers := fun x hx => h.1.numbers x (List.mem_of_mem_filter hx)
    first := fun x hx => h.1.first x (List.mem_of_mem_filter hx) }, fun x hx => h.2 x (List.mem_of_mem_filter hx)⟩

theorem Deeper.move (h : Deeper k n m s) (cursor : Cursor) : Deeper k n m { s with cursor } := ⟨{ h.1 with }, h.2⟩

theorem Deeper.allow (h : Deeper k n m s) (keyAllowed : Bool) : Deeper k n m { s with keyAllowed } := ⟨{ h.1 with }, h.2⟩

theorem begins_push (h : s.Begins k n m) (x : Token) : TokenReader.Begins k n m { s with queue := s.queue ++ [x] } := by
  obtain ⟨y, hy, hkind⟩ := h.token
  refine { h with token := ⟨y, ?_, hkind⟩ }
  rw [List.getElem?_append_left (List.getElem?_eq_some_iff.1 hy).1, hy]

theorem Deeper.push (h : Deeper k n m s) (x : Token) : Deeper k n m { s with queue := s.queue ++ [x] } :=
  ⟨begins_push h.1 x, h.2⟩

theorem begins_insert (h : s.Begins k n m) {number : Nat} (hn : n < number) (x : Token) : TokenReader.Begins k n m
    { s with queue := s.queue.take (number - s.taken) ++ [x] ++ s.queue.drop (number - s.taken) } := by
  obtain ⟨y, hy, hkind⟩ := h.token
  refine { h with token := ⟨y, ?_, hkind⟩ }
  have hlen := (List.getElem?_eq_some_iff.1 hy).1
  have htaken := h.taken_eq
  have hle := h.taken_le
  have hlt : n - k < (s.queue.take (number - s.taken)).length := by
    rw [List.length_take]
    omega
  dsimp only
  rw [List.append_assoc, List.getElem?_append_left hlt, List.getElem?_take_of_lt (by omega), hy]

/-- Something that begins may be put before a key that the token is. -/
theorem begins_at (h : s.Begins k n m) (x : Token) (hx : x.kind.isCloser = false) (key : Token) :
    TokenReader.Begins k n m { s with queue :=
      (s.queue.take (n - s.taken) ++ [key] ++ s.queue.drop (n - s.taken)).take (n - s.taken) ++ [x] ++
        (s.queue.take (n - s.taken) ++ [key] ++ s.queue.drop (n - s.taken)).drop (n - s.taken) } := by
  have htaken := h.taken_eq
  obtain ⟨y, hy, -⟩ := h.token
  have hlen := (List.getElem?_eq_some_iff.1 hy).1
  have htake : ((s.queue.take (n - s.taken) ++ [key] ++ s.queue.drop (n - s.taken)).take
    (n - s.taken)).length = n - s.taken := by
    rw [List.length_take, List.length_append, List.length_append, List.length_take]
    omega
  refine { h with token := ⟨x, ?_, hx⟩ }
  rw [htaken] at htake ⊢
  dsimp only
  rw [List.append_assoc, List.getElem?_append_right (Nat.le_of_eq htake), htake, Nat.sub_self]
  rfl

/-- A step that keeps what stands deeper. -/
def Deepens (k n : Nat) (m : Mark) (x : Scan α) : Prop := ∀ s, Deeper k n m s → Ensures x s fun _ r => Deeper k n m r

theorem Deepens.bind {x : Scan α} {f : α → Scan β} (hx : Deepens k n m x) (hf : ∀ a, Deepens k n m (f a)) :
    Deepens k n m (x >>= f) := fun s h => ensures_bind.2 ((hx s h).imp fun a r hr => hf a r hr)

theorem deepens_pure (a : α) : Deepens k n m (pure a : Scan α) := fun _ h => (ensures_pure a).2 h

theorem deepens_get : Deepens k n m get := fun _ h => ensures_get.2 h

theorem deepens_throw (e : Failure) : Deepens k n m (throw e : Scan α) := fun _ _ => ensures_throw e

theorem deepens_lex (read : Lex α) : Deepens k n m (lex read) := fun _ h => (ensures_lex read).2 fun _ c _ => h.move c

theorem deepens_ite {b : Prop} [Decidable b] {x y : Scan α} (hx : Deepens k n m x) (hy : Deepens k n m y) :
    Deepens k n m (if b then x else y) := by
  split
  · exact hx
  · exact hy

theorem deepens_mark : Deepens k n m mark := deepens_get.bind fun _ => deepens_pure _

theorem deepens_allowKey (allowed : Bool) : Deepens k n m (allowKey allowed) :=
    fun _ h => (ensures_allowKey allowed).2 (h.allow _)

theorem deepens_push (kind : TokenKind) (start stop : Mark) : Deepens k n m (push kind start stop) := fun _ h =>
  (ensures_push kind start stop).2 (h.push _)

theorem deepens_pushIndicator (kind : TokenKind) (width : Nat) : Deepens k n m (pushIndicator kind width) :=
  deepens_mark.bind fun _ => (deepens_lex _).bind fun _ => deepens_mark.bind fun _ => deepens_push _ _ _

theorem deepens_dropKey : Deepens k n m dropKey := fun _ h => ensures_dropKey.2 fun _ => h.filter _

theorem deepens_skipToToken : Deepens k n m skipToToken := fun _ h => ensures_skipToToken.imp fun _ _ hskip => by
  obtain ⟨cursor, keyAllowed, rfl, -⟩ := hskip
  exact (h.move cursor).allow keyAllowed

/-- A key that is noted comes after the token. -/
theorem deepens_saveKey : Deepens k n m saveKey := by
  intro s h
  refine ensures_saveKey.2 ⟨fun _ _ => ?_, fun _ => h⟩
  obtain ⟨x, hx, -⟩ := h.1.token
  have hlen := (List.getElem?_eq_some_iff.1 hx).1
  have htaken := h.1.taken_eq
  have hle := h.1.taken_le
  have hnew : ∀ y ∈ s.keys.filter (·.1 != s.flow.length) ++ [(s.flow.length, (⟨s.taken + s.queue.length,
      s.flow.isEmpty && s.indent == s.cursor.mark.column, s.cursor.mark⟩ : SimpleKey))], y ∈ s.keys ∨ n < y.2.number := by
    intro y hy
    rcases List.mem_append.1 hy with hy | hy
    · exact .inl (List.mem_of_mem_filter hy)
    · rw [List.mem_singleton.1 hy]
      simp only
      omega
  refine ⟨{ h.1 with numbers := fun y hy => ?_, first := fun y hy hn => ?_ }, fun y hy hn => ?_⟩
  · rcases hnew y hy with hy | hy
    · exact h.1.numbers y hy
    · omega
  · rcases hnew y hy with hy | hy
    · exact h.1.first y hy hn
    · omega
  · rcases hnew y hy with hy | hy
    · exact h.2 y hy hn
    · omega

/-- Where the possible key outside flow collections has been dropped, the token is no possible key any more. -/
theorem deeper_of_dropped (h : s.Begins k n m) (hkeys : ∀ x ∈ s.keys, x.1 ≠ 0) : Deeper k n m s :=
  ⟨h, fun x hx hn => absurd (h.first x hx hn).1 (hkeys x hx)⟩

/-- Opening a block and dropping the possible key there. -/
theorem ensures_open_indicator (h : Deeper k n m s) (hflow : s.flow = []) (opening kind : TokenKind) (cause : Cause)
    (allowed : Bool) : Ensures (do
      openBlock opening cause
      allowKey allowed
      dropKey
      pushIndicator kind 1) s fun _ r => Deeper k n m r := by
  have hrest : ∀ r : TokenReader, r.Begins k n m → r.flow = [] → Ensures (do
      allowKey allowed
      dropKey
      pushIndicator kind 1) r fun _ r => Deeper k n m r := by
    intro r hr hflow
    rw [ensures_bind, ensures_allowKey, ensures_bind, ensures_dropKey]
    intro _
    have hdropped : Deeper k n m { r with keyAllowed := allowed, keys := r.keys.filter (·.1 != r.flow.length) } := by
      refine deeper_of_dropped { hr with
        numbers := fun x hx => hr.numbers x (List.mem_of_mem_filter hx)
        first := fun x hx => hr.first x (List.mem_of_mem_filter hx) } fun x hx => ?_
      have hne := (List.mem_filter.1 hx).2
      rw [hflow] at hne
      simpa using hne
    exact deepens_pushIndicator kind 1 _ hdropped
  rw [ensures_bind, ensures_openBlock]
  let q : TokenReader := { s with indents := s.indent :: s.indents, indent := (s.cursor.mark.column : Int) }
  exact fun _ => ⟨fun _ => hrest _ (begins_push (s := q) { h.1 with } _)
    hflow, fun _ => hrest _ h.1 hflow⟩

/-! ## Block ends -/

theorem begins_closeBlocks (target : Int) {outers : List Int} (h : s.Begins k n m) : Ensures (closeBlocks target outers) s
    fun _ r => r.Begins k n m ∧ r.keys = s.keys ∧ r.flow = s.flow ∧ r.cursor = s.cursor ∧ (s.indent ≤ target → r = s) := by
  induction outers generalizing s with
  | nil => exact (ensures_pure _).2 ⟨h, rfl, rfl, rfl, fun _ => rfl⟩
  | cons outer outers ih =>
    simp only [closeBlocks, ensures_bind, ensures_get, ensures_ite, ensures_pushHere, ensures_modify, ensures_pure]
    refine ⟨fun hlt => ?_, fun _ => ⟨h, trivial, trivial, trivial, fun _ => trivial⟩⟩
    refine (ih (s := { s with queue := s.queue ++ [⟨.blockEnd, s.cursor.mark, s.cursor.mark⟩]
                              indent := outer, indents := outers }) { begins_push h _ with }).imp fun _ r hr => ?_
    exact ⟨hr.1, hr.2.1, hr.2.2.1, hr.2.2.2.1, fun hle => by omega⟩

theorem begins_unwind (target : Int) (h : s.Begins k n m) : Ensures (unwind target) s fun _ r =>
    r.Begins k n m ∧ r.keys = s.keys ∧ r.flow = s.flow ∧ r.cursor = s.cursor ∧
    (s.flow ≠ [] ∨ s.indent ≤ target → r = s) := by
  simp only [unwind, ensures_bind, ensures_inFlow, ensures_ite, ensures_get, ensures_pure, Bool.not_not, List.isEmpty_iff]
  refine ⟨fun hflow => (begins_closeBlocks target h).imp fun _ r hr => ?_,
    fun _ => ⟨h, trivial, trivial, trivial, fun _ => trivial⟩⟩
  exact ⟨hr.1, hr.2.1, hr.2.2.1, hr.2.2.2.1, fun hor => hr.2.2.2.2 (hor.resolve_left fun hne => hne hflow)⟩

/-- At the start of a line all blocks end, and what might have been a key there is none. -/
theorem deepens_boundary {f : Unit → Scan α} (hf : Deepens k n m (f ())) :
    Deepens k n m (unwind (-1) >>= fun _ => dropKey >>= f) := by
  intro s h
  rw [ensures_bind]
  refine (begins_unwind _ h.1).imp fun _ r ⟨hr, hkeys, hflow, _, hsame⟩ => ?_
  rw [ensures_bind, ensures_dropKey]
  intro _
  refine hf _ ?_
  by_cases hnil : s.flow = []
  · refine deeper_of_dropped { hr with
      numbers := fun x hx => hr.numbers x (List.mem_of_mem_filter hx)
      first := fun x hx => hr.first x (List.mem_of_mem_filter hx) } fun x hx => ?_
    have hne := (List.mem_filter.1 hx).2
    rw [hflow, hnil] at hne
    simpa using hne
  · rw [hsame (.inl hnil)]
    exact h.filter _

theorem deepens_streamEnd : Deepens k n m streamEnd := by
  refine deepens_boundary fun s h => ?_
  rw [ensures_bind, ensures_modify, ensures_pushHere]
  exact Deeper.push (s := { s with keyAllowed := false, keys := [], done := true })
    ⟨{ h.1 with numbers := fun x hx => (by cases hx), first := fun x hx => (by cases hx) }, fun x hx => by cases hx⟩ _

theorem deepens_directive : Deepens k n m directive := by
  refine deepens_boundary ((deepens_allowKey _).bind fun _ => deepens_mark.bind fun _ =>
    deepens_get.bind fun _ => (deepens_lex _).bind fun found => ?_)
  obtain ⟨d, stop⟩ := found
  cases d with
  | yaml v =>
    refine Deepens.bind (fun s h => ?_) fun _ => deepens_push _ _ _
    exact (ensures_modify _).2 ⟨{ h.1 with }, h.2⟩
  | tag handle lead => exact deepens_push _ _ _
  | reserved name => exact deepens_push _ _ _

theorem deepens_documentMarker (kind : TokenKind) : Deepens k n m (documentMarker kind) :=
  deepens_boundary ((deepens_allowKey _).bind fun _ => deepens_pushIndicator _ _)

/-! ## Tokens -/

theorem deepens_indicator (kind : TokenKind) (allowed : Bool) :
    Deepens k n m (do allowKey allowed; dropKey; pushIndicator kind 1) :=
  (deepens_allowKey _).bind fun _ => deepens_dropKey.bind fun _ => deepens_pushIndicator _ _

theorem deepens_flow {f : TokenReader → List Bracket} {allowed : Bool} :
    Deepens k n m (modify fun s => { s with flow := f s, keyAllowed := allowed }) := fun _ h =>
  (ensures_modify _).2 ⟨{ h.1 with }, h.2⟩

theorem deepens_flowStart (kind : TokenKind) (bracket : Bracket) : Deepens k n m (flowStart kind bracket) :=
  deepens_saveKey.bind fun _ => deepens_flow.bind fun _ => deepens_pushIndicator _ _

theorem deepens_flowEnd (kind : TokenKind) : Deepens k n m (flowEnd kind) :=
  deepens_dropKey.bind fun _ => deepens_flow.bind fun _ => deepens_pushIndicator _ _

theorem deepens_blockEntry : Deepens k n m blockEntry := by
  intro s h
  rw [blockEntry, ensures_bind, ensures_inFlow, ensures_ite]
  refine ⟨fun hflow => ensures_open_indicator h (by simpa using hflow) _ _ _ _, fun _ => deepens_indicator _ _ s h⟩

theorem deepens_explicitKey : Deepens k n m explicitKey := by
  intro s h
  rw [explicitKey, ensures_bind, ensures_inFlow]
  dsimp only
  rw [ensures_ite]
  exact ⟨fun hflow => ensures_open_indicator h (by simpa using hflow) _ _ _ _, fun _ => deepens_indicator _ _ s h⟩

/-- If a colon claims the token as a key, a mapping begins with it. -/
theorem deepens_value : Deepens k n m value := by
  intro s h
  have hend : Deepens k n m (do allowKey false; pushIndicator .value 1) :=
    (deepens_allowKey _).bind fun _ => deepens_pushIndicator _ _
  rw [value, ensures_bind, ensures_get]
  dsimp only
  split
  · next key hkey =>
    have hmem : (s.flow.length, key) ∈ s.keys := KeysHold.mem_of_lookup hkey
    have hfilter := h.filter (·.1 != s.flow.length)
    have hdropped : s.flow = [] → ∀ x ∈ s.keys.filter (·.1 != s.flow.length), x.1 ≠ 0 := by
      intro hflow x hx
      have hne := (List.mem_filter.1 hx).2
      rw [hflow] at hne
      simpa using hne
    -- Either the key comes after the token, or it is the token.
    have hor : n < key.number ∨ key.number = n ∧ s.flow = [] ∧ s.indent < key.mark.column := by
      rcases Nat.lt_or_eq_of_le (h.1.numbers _ hmem) with hlt | heq
      · exact .inl hlt
      · obtain ⟨hzero, hmark⟩ := h.1.first _ hmem heq.symm
        exact .inr ⟨heq.symm, List.length_eq_zero_iff.1 hzero, by rw [hmark]; exact h.2 _ hmem heq.symm⟩
    rw [ensures_bind, ensures_set, ensures_bind, ensures_insertBefore, ensures_ite]
    refine ⟨fun hflow => ?_, fun hflow => ?_⟩
    · have hnil : s.flow = [] := by simpa using hflow
      rw [ensures_bind, ensures_indentTo]
      refine ⟨fun _ => ?_, fun hnot => ?_⟩
      · rw [if_pos rfl, ensures_bind, ensures_insertBefore]
        refine hend _ (deeper_of_dropped ?_ (hdropped hnil))
        rcases hor with hlt | ⟨heq, -, -⟩
        · have hkey := begins_insert hfilter.1 hlt ⟨.key, key.mark, key.mark⟩
          exact { begins_insert hkey hlt ⟨.blockMappingStart, key.mark, key.mark⟩ with }
        · rw [heq]
          exact { begins_at hfilter.1 _ rfl ⟨.key, key.mark, key.mark⟩ with }
      · have hlt := hor.resolve_right fun heq => hnot heq.2.2
        rw [if_neg (by decide)]
        exact hend _ (deeper_of_dropped (begins_insert hfilter.1 hlt _) (hdropped hnil))
    · have hlt := hor.resolve_right fun heq => hflow (by rw [heq.2.1]; rfl)
      exact hend _ ⟨begins_insert hfilter.1 hlt _, hfilter.2⟩
  · rw [ensures_ite]
    exact ⟨fun hflow => ensures_open_indicator h (by simpa using hflow) _ _ _ _, fun _ => deepens_indicator _ _ s h⟩

theorem deepens_keyCandidate (read : Lex TokenKind) : Deepens k n m (keyCandidate read) :=
  deepens_saveKey.bind fun _ => (deepens_allowKey _).bind fun _ => deepens_mark.bind fun _ => (deepens_lex _).bind fun _ =>
    deepens_mark.bind fun _ => deepens_push _ _ _

theorem deepens_blockScalar (isFolded : Bool) : Deepens k n m (blockScalar isFolded) :=
  (deepens_allowKey _).bind fun _ => deepens_dropKey.bind fun _ => deepens_mark.bind fun _ => deepens_get.bind fun _ =>
    (deepens_lex _).bind fun _ => deepens_ite (deepens_skipToToken.bind fun _ => deepens_push _ _ _) (deepens_push _ _ _)

theorem deepens_plainScalar : Deepens k n m plainScalar :=
  deepens_saveKey.bind fun _ => (deepens_allowKey _).bind fun _ => deepens_get.bind fun _ => deepens_mark.bind fun _ =>
    (deepens_lex _).bind fun _ => deepens_ite ((deepens_allowKey _).bind fun _ => deepens_push _ _ _) (deepens_push _ _ _)

theorem deepens_tokenAt (ch : Char) : Deepens k n m (tokenAt ch) := by
  refine deepens_get.bind fun _ => ?_
  refine deepens_ite deepens_directive (deepens_ite (deepens_documentMarker _) (deepens_ite (deepens_documentMarker _) ?_))
  refine deepens_ite (deepens_flowStart _ _) (deepens_ite (deepens_flowStart _ _) (deepens_ite (deepens_flowEnd _)
    (deepens_ite (deepens_flowEnd _) ?_)))
  refine deepens_ite (deepens_indicator _ _) (deepens_ite deepens_blockEntry (deepens_ite deepens_explicitKey
    (deepens_ite deepens_value ?_)))
  refine deepens_ite (deepens_keyCandidate _) (deepens_ite (deepens_keyCandidate _)
    (deepens_ite (deepens_keyCandidate _) ?_))
  refine deepens_ite (deepens_blockScalar _) (deepens_ite (deepens_blockScalar _) ?_)
  refine deepens_ite (deepens_keyCandidate _) (deepens_ite (deepens_keyCandidate _) (deepens_ite deepens_plainScalar ?_))
  exact deepens_mark.bind fun _ => deepens_throw _

/-! ## Fetches -/

/-- At a mark or after it. -/
def IsAt (m : Mark) (c : Cursor) : Prop := m.line < c.mark.line ∨ m.line = c.mark.line ∧ m.column ≤ c.mark.column

theorem IsAt.skip {c : Cursor} (h : IsAt m c) (l : Nat) : IsAt m (c.skip l) := by
  induction l generalizing c with
  | zero => exact h
  | succ l ih =>
    refine ih (c := c.next) ?_
    obtain ⟨_ | ⟨ch, r⟩, mark⟩ := c
    · exact h
    · simp only [IsAt, Cursor.next, advanceMark] at h ⊢
      split
      · simp only
        omega
      · split <;> simp only <;> omega

/-- A key that is still possible stands on the line of the reader, which has not gone back. -/
theorem ensures_fetchHere_deeper (h : Deeper k n m s) (hat : IsAt m s.cursor) :
    Ensures fetchHere s fun _ r => Deeper k n m r := by
  rw [fetchHere, ensures_bind, ensures_dropStaleKeys]
  intro _
  have hfilter := h.filter fun x => !isStale s.cursor.mark x.2
  rw [ensures_bind, ensures_mark, ensures_bind]
  refine (begins_unwind _ hfilter.1).imp ?_
  rintro - r ⟨hr, hkeys, -, -, hsame⟩
  have hdeeper : Deeper k n m r := by
    refine ⟨hr, fun x hx hn => ?_⟩
    have hx' : x ∈ s.keys.filter fun x => !isStale s.cursor.mark x.2 := by rw [hkeys] at hx; exact hx
    have hline := (List.mem_filter.1 hx').2
    simp only [isStale, Bool.not_eq_true', Bool.or_eq_false_iff, bne_eq_false_iff_eq] at hline
    have hmark := (hr.first x hx hn).2
    have habove := hfilter.2 x hx' hn
    rw [hmark] at hline
    rw [hsame (.inr ?_)]
    · exact habove
    · rcases hat with hat | ⟨-, hat⟩
      · omega
      · simp only at habove ⊢
        omega
  rw [ensures_bind, ensures_peek]
  cases r.cursor.peek with
  | none => exact deepens_streamEnd r hdeeper
  | some ch => exact deepens_tokenAt ch r hdeeper

/-! ## Where something begins -/

theorem deeper_of_append (hn : n = s.taken + s.queue.length) {r : TokenReader} {x : Token} {more : List Token}
    (htaken : r.taken = s.taken) (hq : r.queue = s.queue ++ x :: more) (hx : x.kind.isCloser = false)
    (hkeys : ∀ y ∈ r.keys, y.1 = 0 ∧ y.2.number = n ∧ y.2.mark = m) (hdeep : r.keys ≠ [] → r.indent < m.column) :
    Deeper s.taken n m r := by
  refine ⟨⟨htaken, by omega, ⟨x, ?_, hx⟩, fun y hy => Nat.le_of_eq (hkeys y hy).2.1.symm, fun y hy _ => ?_⟩,
    fun y hy _ => ?_⟩
  · rw [hq, List.getElem?_append_right (by omega), hn, Nat.add_sub_cancel_left, Nat.sub_self]
    rfl
  · exact ⟨(hkeys y hy).1, (hkeys y hy).2.2⟩
  · exact hdeep (List.ne_nil_of_mem hy)

/-- A reader on a line that starts deeper than the innermost block. -/
structure IsDeep (s : TokenReader) : Prop where
  flow : s.flow = []
  keys : s.keys = []
  allowed : s.keyAllowed = true
  deep : s.indent < s.cursor.mark.column

section

variable (h : IsDeep s)

include h

theorem begins_keyCandidate {read : Lex TokenKind} (hread : Ensures read s.cursor fun kind _ => kind.isCloser = false) :
    Ensures (keyCandidate read) s fun _ r => Deeper s.taken (s.taken + s.queue.length) s.cursor.mark r := by
  rw [keyCandidate, ensures_bind, ensures_saveKey]
  refine ⟨fun _ _ => ?_, fun hno => by rw [h.allowed] at hno; cases hno⟩
  simp only [ensures_bind, ensures_allowKey, ensures_mark, ensures_lex, ensures_push]
  intro kind c hrun
  refine deeper_of_append rfl rfl rfl (hread kind c hrun) (fun y hy => ?_) fun _ => h.deep
  rw [h.keys] at hy
  rw [List.mem_singleton.1 hy]
  exact ⟨by rw [h.flow]; rfl, rfl, rfl⟩

theorem begins_flowStart {kind : TokenKind} (hkind : kind.isCloser = false) (bracket : Bracket) :
    Ensures (flowStart kind bracket) s fun _ r => Deeper s.taken (s.taken + s.queue.length) s.cursor.mark r := by
  rw [flowStart, ensures_bind, ensures_saveKey]
  refine ⟨fun _ _ => ?_, fun hno => by rw [h.allowed] at hno; cases hno⟩
  rw [ensures_bind, ensures_modify, ensures_pushIndicator]
  refine deeper_of_append rfl rfl rfl hkind (fun y hy => ?_) fun _ => h.deep
  rw [h.keys] at hy
  rw [List.mem_singleton.1 hy]
  exact ⟨by rw [h.flow]; rfl, rfl, rfl⟩

omit h in
theorem begins_pushIndicator {kind : TokenKind} (hkind : kind.isCloser = false) {r : TokenReader}
    (htaken : r.taken = s.taken)
    (hqueue : r.queue = s.queue) (hkeys : r.keys = []) :
    Ensures (pushIndicator kind 1) r fun _ r => Deeper s.taken (s.taken + s.queue.length) s.cursor.mark r := by
  rw [ensures_pushIndicator]
  refine deeper_of_append rfl htaken (by rw [hqueue]) hkind (fun y hy => ?_) fun hne => absurd hkeys hne
  rw [show _ = ([] : List (Nat × SimpleKey)) from hkeys] at hy
  cases hy

theorem filter_keys (p : Nat × SimpleKey → Bool) : s.keys.filter p = [] := by
  rw [h.keys]
  rfl

/-- Ends of flow collections where none is open. -/
theorem begins_flowEnd {kind : TokenKind} (hkind : kind.isCloser = false) :
    Ensures (flowEnd kind) s fun _ r => Deeper s.taken (s.taken + s.queue.length) s.cursor.mark r := by
  rw [flowEnd, ensures_bind, ensures_dropKey]
  intro _
  rw [ensures_bind, ensures_modify]
  exact begins_pushIndicator hkind rfl rfl (filter_keys h _)

theorem begins_flowEntry :
    Ensures flowEntry s fun _ r => Deeper s.taken (s.taken + s.queue.length) s.cursor.mark r := by
  rw [flowEntry, ensures_bind, ensures_allowKey, ensures_bind, ensures_dropKey]
  exact fun _ => begins_pushIndicator rfl rfl rfl (filter_keys h _)

theorem begins_open {opening : TokenKind} (hopening : opening.isCloser = false) (kind : TokenKind) (cause : Cause)
    (allowed : Bool) : Ensures (do
      openBlock opening cause
      allowKey allowed
      dropKey
      pushIndicator kind 1) s fun _ r => Deeper s.taken (s.taken + s.queue.length) s.cursor.mark r := by
  rw [ensures_bind, ensures_openBlock]
  refine fun _ => ⟨fun _ => ?_, fun hno => absurd h.deep hno⟩
  rw [ensures_bind, ensures_allowKey, ensures_bind, ensures_dropKey]
  intro _
  rw [ensures_pushIndicator]
  refine deeper_of_append rfl rfl (List.append_assoc _ [_] [_]) hopening (fun y hy => ?_) fun hne =>
    absurd (filter_keys h _) hne
  rw [show _ = ([] : List (Nat × SimpleKey)) from filter_keys h _] at hy
  cases hy

theorem begins_blockScalar (isFolded : Bool) :
    Ensures (blockScalar isFolded) s fun _ r => Deeper s.taken (s.taken + s.queue.length) s.cursor.mark r := by
  have hpush : ∀ (q : TokenReader) value start stop, q.taken = s.taken → q.queue = s.queue → q.keys = [] →
      Ensures (push (.scalar value (if isFolded then .folded else .literal)) start stop) q
        fun _ r => Deeper s.taken (s.taken + s.queue.length) s.cursor.mark r := by
    intro q value start stop htaken hqueue hkeys
    rw [ensures_push]
    refine deeper_of_append rfl htaken (by rw [hqueue]) rfl (fun y hy => ?_) fun hne => absurd hkeys hne
    rw [show _ = ([] : List (Nat × SimpleKey)) from hkeys] at hy
    cases hy
  rw [blockScalar, ensures_bind, ensures_allowKey, ensures_bind, ensures_dropKey]
  intro _
  have hnil : s.keys.filter (·.1 != s.flow.length) = [] := filter_keys h _
  simp only [ensures_bind, ensures_mark, ensures_get, ensures_lex]
  rintro ⟨value, stop, blankLines⟩ c -
  refine ensures_ite.2 ⟨fun _ => ?_, fun _ => hpush _ _ _ _ rfl rfl hnil⟩
  rw [ensures_bind]
  refine ensures_skipToToken.imp fun _ q hq => ?_
  obtain ⟨cursor, keyAllowed, rfl, -⟩ := hq
  exact hpush _ _ _ _ rfl rfl hnil

theorem begins_plainScalar :
    Ensures plainScalar s fun _ r => Deeper s.taken (s.taken + s.queue.length) s.cursor.mark r := by
  rw [plainScalar, ensures_bind, ensures_saveKey]
  refine ⟨fun _ _ => ?_, fun hno => by rw [h.allowed] at hno; cases hno⟩
  have hkeys : ∀ y ∈ s.keys.filter (·.1 != s.flow.length) ++ [(s.flow.length, (⟨s.taken + s.queue.length,
      s.flow.isEmpty && s.indent == s.cursor.mark.column, s.cursor.mark⟩ : SimpleKey))],
      y.1 = 0 ∧ y.2.number = s.taken + s.queue.length ∧ y.2.mark = s.cursor.mark := by
    intro y hy
    rw [h.keys] at hy
    rw [List.mem_singleton.1 hy]
    exact ⟨by rw [h.flow]; rfl, rfl, rfl⟩
  simp only [ensures_bind, ensures_allowKey, ensures_get, ensures_mark, ensures_lex, ensures_ite, ensures_push]
  intro read c _
  exact ⟨fun _ => deeper_of_append rfl rfl rfl rfl hkeys fun _ => h.deep,
    fun _ => deeper_of_append rfl rfl rfl rfl hkeys fun _ => h.deep⟩

end

theorem ensures_unwind_stay {target : Int} (h : s.indent ≤ target) : Ensures (unwind target) s fun _ r => r = s := by
  have hclose : ∀ outers, Ensures (closeBlocks target outers) s fun _ r => r = s := by
    intro outers
    cases outers with
    | nil => exact (ensures_pure _).2 rfl
    | cons outer outers =>
      rw [closeBlocks, ensures_bind, ensures_get, ensures_ite]
      exact ⟨fun hlt => by omega, fun _ => (ensures_pure _).2 rfl⟩
  simp only [unwind, ensures_bind, ensures_inFlow, ensures_ite, ensures_get, ensures_pure]
  exact ⟨fun _ => hclose _, fun _ => trivial⟩

theorem begins_tokenAt (h : IsDeep s) {ch : Char} (hdirective : ¬(ch = '%' ∧ s.cursor.mark.column = 0))
    (hseparator : ¬(s.cursor.mark.column = 0 ∧ s.cursor.atSeparator = true)) :
    Ensures (tokenAt ch) s fun _ r => Deeper s.taken (s.taken + s.queue.length) s.cursor.mark r := by
  have hmarker : ∀ d, (s.cursor.atMarker d = true → s.cursor.atSeparator = true) →
      ¬(s.cursor.mark.column == 0 && s.cursor.atMarker d) = true := by
    intro d hd hat
    rw [Bool.and_eq_true, beq_iff_eq] at hat
    exact hseparator ⟨hat.1, hd hat.2⟩
  have hinflow : (!s.flow.isEmpty) = false := by rw [h.flow]; rfl
  have hmap : ∀ {α : Type} {read : Lex α} {f : α → TokenKind}, (∀ a, (f a).isCloser = false) →
      Ensures (f <$> read) s.cursor fun kind _ => kind.isCloser = false := fun hf => ensures_map.2 fun a _ _ => hf a
  rw [tokenAt, ensures_bind, ensures_get]
  dsimp only
  rw [if_neg (by simpa using hdirective), if_neg (hmarker '-' fun hat => by rw [Cursor.atSeparator, hat, Bool.true_or]),
    if_neg (hmarker '.' fun hat => by rw [Cursor.atSeparator, hat, Bool.or_true]), hinflow]
  -- What opens and ends flow collections, and entries of them.
  refine ensures_ite.2 ⟨fun _ => begins_flowStart h rfl _, fun _ =>
    ensures_ite.2 ⟨fun _ => begins_flowStart h rfl _, fun _ => ?_⟩⟩
  refine ensures_ite.2 ⟨fun _ => begins_flowEnd h rfl, fun _ => ensures_ite.2 ⟨fun _ => begins_flowEnd h rfl, fun _ => ?_⟩⟩
  refine ensures_ite.2 ⟨fun _ => begins_flowEntry h, fun _ => ?_⟩
  -- Indicators that open blocks.
  refine ensures_ite.2 ⟨fun _ => ?_, fun _ => ensures_ite.2 ⟨fun _ => ?_, fun _ => ensures_ite.2 ⟨fun _ => ?_, fun _ => ?_⟩⟩⟩
  · rw [blockEntry, ensures_bind, ensures_inFlow, hinflow]
    exact begins_open h rfl _ _ _
  · rw [explicitKey, ensures_bind, ensures_inFlow, hinflow]
    exact begins_open h rfl _ _ _
  · have hnone : s.keys.lookup s.flow.length = none := by
      rw [h.keys]
      rfl
    rw [value, ensures_bind, ensures_get]
    simp only [hnone, hinflow]
    exact begins_open h rfl _ _ _
  -- Content of nodes.
  refine ensures_ite.2 ⟨fun _ => begins_keyCandidate h (hmap fun _ => rfl), fun _ => ?_⟩
  refine ensures_ite.2 ⟨fun _ => begins_keyCandidate h (hmap fun _ => rfl), fun _ => ?_⟩
  refine ensures_ite.2 ⟨fun _ => begins_keyCandidate h (hmap fun _ => rfl), fun _ => ?_⟩
  refine ensures_ite.2 ⟨fun _ => begins_blockScalar h _, fun _ =>
    ensures_ite.2 ⟨fun _ => begins_blockScalar h _, fun _ => ?_⟩⟩
  refine ensures_ite.2 ⟨fun _ => begins_keyCandidate h (hmap fun _ => rfl), fun _ => ?_⟩
  refine ensures_ite.2 ⟨fun _ => begins_keyCandidate h (hmap fun _ => rfl), fun _ => ?_⟩
  exact ensures_ite.2 ⟨fun _ => begins_plainScalar h, fun _ => by simp only [ensures_bind, ensures_mark, ensures_throw]⟩

/-- What starts deeper begins something. -/
theorem ensures_fetchHere_begins (h : IsDeep s) (hpeek : s.cursor.peek ≠ none)
    (hdirective : ¬(s.cursor.peek = some '%' ∧ s.cursor.mark.column = 0))
    (hseparator : ¬(s.cursor.mark.column = 0 ∧ s.cursor.atSeparator = true)) :
    Ensures fetchHere s fun _ r => Deeper s.taken (s.taken + s.queue.length) s.cursor.mark r := by
  obtain ⟨ch, hch⟩ := Option.ne_none_iff_exists'.1 hpeek
  have hsame : { s with keys := s.keys.filter fun x => !isStale s.cursor.mark x.2 } = s := by
    rw [filter_keys h, ← h.keys]
  rw [fetchHere, ensures_bind, ensures_dropStaleKeys]
  intro _
  rw [hsame, ensures_bind, ensures_mark, ensures_bind]
  refine (ensures_unwind_stay (Int.le_of_lt h.deep)).imp fun _ r hr => ?_
  subst hr
  rw [ensures_bind, ensures_peek, hch]
  exact begins_tokenAt h (fun hno => hdirective ⟨by rw [hch, hno.1], hno.2⟩) hseparator

end Scan

open Scan

theorem ensures_needsMore_deeper {k n : Nat} {m : Mark} {s : TokenReader} (h : Deeper k n m s) :
    Ensures needsMore s fun _ r => Deeper k n m r ∧ r.cursor = s.cursor := by
  simp only [needsMore, ensures_bind, ensures_get, ensures_ite, ensures_pure, ensures_dropStaleKeys]
  exact ⟨fun _ => ⟨h, trivial⟩, fun _ => ⟨fun _ => ⟨h, trivial⟩, fun _ _ => ⟨h.filter _, trivial⟩⟩⟩

/-- What begins is handed out as it is, or with a mapping before it. -/
theorem Drains.exists_begins {k n : Nat} {m : Mark} {s : TokenReader} {rest : List Released} (hdrains : Drains s rest)
    (h : Deeper k n m s) (hat : IsAt m s.cursor) : ∃ x, rest[n - k]? = some x ∧ x.token.kind.isCloser = false := by
  induction hdrains generalizing k with
  | finish hmore hq =>
    obtain ⟨h', -⟩ := ensures_needsMore_deeper h _ _ hmore
    obtain ⟨x, hx, -⟩ := h'.1.token
    rw [hq] at hx
    cases hx
  | @fetch s s' s'' rest hmore hfetch _ ih =>
    obtain ⟨h', hcursor⟩ := ensures_needsMore_deeper h _ _ hmore
    rw [fetch_eq] at hfetch
    obtain ⟨_, u, hskip, hfetch⟩ := exists_of_run_bind_ok hfetch
    have hu := deepens_skipToToken _ h' _ _ hskip
    obtain ⟨i, hi⟩ := (respects_skipToToken (R := Onward fun _ _ => True) _ _ _ hskip).cursor
    obtain ⟨j, hj⟩ := (goesOn_fetchHere _ _ _ hfetch).cursor
    have hatu : IsAt m u.cursor := by
      rw [hi, hcursor]
      exact hat.skip i
    exact ih (ensures_fetchHere_deeper hu hatu _ _ hfetch) (by rw [hj]; exact hatu.skip j)
  | @release s s' x queue rest hmore hq _ ih =>
    obtain ⟨h', hcursor⟩ := ensures_needsMore_deeper h _ _ hmore
    obtain ⟨y, hy, hkind⟩ := h'.1.token
    rw [hq] at hy
    rcases Nat.eq_or_lt_of_le h'.1.taken_le with heq | hlt
    · rw [heq, Nat.sub_self] at hy ⊢
      cases hy
      exact ⟨_, rfl, hkind⟩
    · have hsucc : n - k = (n - (k + 1)) + 1 := by omega
      rw [hsucc, List.getElem?_cons_succ] at hy
      obtain ⟨z, hz, hclose⟩ := ih (k := k + 1) ⟨{ h'.1 with
        taken_eq := by rw [h'.1.taken_eq]
        taken_le := hlt
        token := ⟨y, hy, hkind⟩ }, h'.2⟩ (by rw [hcursor]; exact hat)
      exact ⟨z, by rw [hsucc, List.getElem?_cons_succ, hz], hclose⟩

end YamlStyle.Yaml
