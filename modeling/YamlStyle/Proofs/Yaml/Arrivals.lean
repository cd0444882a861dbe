import YamlStyle.Proofs.Yaml.Scanning

/-!
# Arrivals keep the reader sound

What is read at the place of the reader arrives with the block ends that are pending there. One
lemma says when the reader stays sound; the others say it for a token alone, and for an indicator
that opens its block.
-/

namespace YamlStyle.Yaml.Sound

open Layout Scan

variable {t : Text} {released : List Token} {as : List Arrival} {n : Nat} {s : TokenReader} {y : Token}
  {cursor : Cursor} {keys : List (Nat × SimpleKey)}

/-! ## Keys -/

theorem keys_dropKey (h : Sound t released as n s)
    (hr : ∀ key, s.keys.lookup s.flow.length = some key → key.required = false) :
    KeysHold (s.keys.filter (·.1 != s.flow.length)) as := by
  refine h.keys.filter fun x hx hd => hr x.2 ?_
  have hd : x.1 = s.flow.length := by simpa using hd
  rw [← hd]
  exact h.keys.lookup_eq hx

theorem flow_ne_nil_of_mem (h : Sound t released as n s) {x : Nat × SimpleKey}
    (hx : x ∈ s.keys.filter (·.1 != s.flow.length)) : x ∈ s.keys ∧ s.flow ≠ [] := by
  obtain ⟨hmem, hlt⟩ := KeysHold.lt_of_mem_filter h.keys_depth hx
  refine ⟨hmem, fun hf => ?_⟩
  rw [hf] at hlt
  exact Nat.not_lt_zero _ hlt

/-- A token after which there is no possible key at its depth. -/
theorem keys_arrive (h : Sound t released as n s) (hl : OnLine s) (hy : y.start = s.cursor.mark)
    (hr : ∀ key, s.keys.lookup s.flow.length = some key → key.required = false)
    (hfit : (laid as).Fits ⟨n, y⟩) (hk : y.kind.isKeyable = false) :
    KeysHold (s.keys.filter (·.1 != s.flow.length)) (as ++ [⟨n, y⟩]) := by
  refine (h.keys_dropKey hr).arrive ⟨hfit, not_misses_of_not_isKeyable hk⟩ fun x hx _ => ?_
  obtain ⟨hmem, hf⟩ := h.flow_ne_nil_of_mem hx
  have hflow : 0 < (laid as).depth := by
    rw [h.depth]
    exact List.length_pos_iff.2 hf
  refine ⟨(hfit.flow hflow).1, (hfit.flow hflow).2, ?_, fun hd => absurd hd (Nat.ne_of_gt hflow)⟩
  simp only [hy]
  exact h.key_before hl hmem

theorem number_lt (h : Sound t released as n s) {x : Nat × SimpleKey} (hx : x ∈ s.keys) :
    x.2.number < s.taken + s.queue.length := by
  obtain ⟨pre, a, post, rfl, hp, -⟩ := h.keys.pending x hx
  have hlen := congrArg List.length h.tokens
  simp only [List.length_append, List.length_cons, List.length_replicate, List.flatMap_append, List.flatMap_cons,
    Arrival.tokens, List.length_nil] at hlen
  rw [hp.number, h.taken]
  simp only [position]
  omega

/-- A token that may turn out to be a key. -/
theorem ensures_saveKey (h : Sound t released as n s) (hl : OnLine s) (hp : Placed as n s)
    (hy : y.start = s.cursor.mark) (hk : y.kind.isKeyable = true) :
    Ensures Scan.saveKey s fun _ s' => ∃ keys, s' = { s with keys } ∧ KeysHold keys (as ++ [⟨n, y⟩]) ∧
      (∀ x ∈ keys, x.1 ≤ s.flow.length) ∧ ∀ x ∈ keys, s.taken ≤ x.2.number := by
  have hplain := isPlain_of_isKeyable hk
  have hind : y.isIndicator = false := isIndicator_of_isKeyable (a := ⟨n, y⟩) hk
  have hfit : (laid as).Fits ⟨n, y⟩ := h.fits_plain hp hy hplain fun _ hi => by
    rw [hind] at hi
    cases hi
  have hline : ∀ x ∈ s.keys, x.1 = 0 → (laid as).Inline x.2.mark.column ⟨n, y⟩ := fun x hx h0 =>
    h.inline_of_mem hl hp hy hplain.notStart (fun _ => ⟨hplain.notBoundary, hind⟩) hx h0
  rw [Scan.ensures_saveKey]
  refine ⟨fun _ hr => ?_, fun ha => ?_⟩
  · refine ⟨_, rfl, (h.keys_dropKey hr).save (d := s.flow.length) ?_ (fun x hx => ?_) (fun hreq hm => ?_)
      (fun x hx => hline x (List.mem_filter.1 hx).1), fun x hx => ?_, fun x hx => ?_⟩
    · refine ⟨?_, hy, hk, hfit, h.depth, fun x hx => ?_⟩
      · have hlen := congrArg List.length h.tokens
        simp only [List.length_append, List.length_cons, List.length_replicate] at hlen
        simp only [position, h.taken]
        omega
      · simp only [hy]
        exact h.last_passed x hx
    · obtain ⟨hmem, hlt⟩ := KeysHold.lt_of_mem_filter h.keys_depth hx
      exact ⟨hlt, h.number_lt hmem⟩
    · -- A key at the column of its block is required.
      have hf : s.flow = [] := h.depth_eq_zero_iff.1 hm.depth
      obtain ⟨b, hb, hcol⟩ := hm.column
      have hindent := h.indent_eq hb
      simp only [hy] at hcol
      simp [hf, hindent, hcol] at hreq
    · rcases List.mem_append.1 hx with hx | hx
      · exact h.keys_depth x (List.mem_filter.1 hx).1
      · exact Nat.le_of_eq (congrArg Prod.fst (List.mem_singleton.1 hx))
    · rcases List.mem_append.1 hx with hx | hx
      · exact h.keys_queued x (List.mem_filter.1 hx).1
      · rw [List.mem_singleton.1 hx]
        exact Nat.le_add_right _ _
  · exact ⟨s.keys, rfl, h.keys.arrive ⟨hfit, h.not_misses hp ha hy⟩ hline, h.keys_depth, h.keys_queued⟩

/-! ## Arrivals -/

/-- What has been read at the place of the reader arrives; the reader has read on. -/
theorem arrive (ht : t.IsRegular) (h : Sound t released as n s) {s' : TokenReader} {bs : List Arrival} (ys : List Token)
    (hbs : bs.flatMap Arrival.tokens = List.replicate n (.mark0 .blockEnd s.cursor.mark) ++ ys)
    (hplace : ∀ b ∈ bs, b.token.start = s.cursor.mark ∧ b.token.kind.isShown = true ∧
      (b.token.kind = .key → b.token.stop.offset ≤ t.length))
    (hr : s.cursor.Reaches (fun _ => True) 1 s'.cursor) (hrest : s.cursor.rest ≠ [])
    (hqueue : s'.queue = s.queue ++ ys) (htaken : s'.taken = s.taken) (hdone : s'.done = s.done)
    (hblocks : (laid (as ++ bs)).blocks.map (fun b => (b.column : Int)) ++ [-1] = s'.indent :: s'.indents)
    (hdepth : (laid (as ++ bs)).depth = s'.flow.length)
    (hkeys : KeysHold s'.keys (as ++ bs)) (hkd : ∀ x ∈ s'.keys, x.1 ≤ s'.flow.length)
    (hkq : ∀ x ∈ s'.keys, s.taken ≤ x.2.number)
    (hallowed : s'.flow = [] → s'.keyAllowed = false → ∀ x ∈ (laid (as ++ bs)).last, x.kind.isLead = true →
      x.start.line = s'.cursor.mark.line ∧ ∀ b ∈ (laid (as ++ bs)).blocks.head?, b.column ≤ x.start.column) :
    Sound t released (as ++ bs) 0 s' ∧ s.cursor.mark.offset < s'.cursor.mark.offset := by
  obtain ⟨hin, ho⟩ := h.cursor.reaches ht hr
  have hlen : 1 ≤ s.cursor.rest.length := List.length_pos_iff.2 hrest
  refine ⟨⟨hin, ?_, htaken ▸ h.taken, fun b hb => ?_, fun b hb => ?_, fun b hb => ?_, fun b hb => ?_, Nat.zero_le _,
    fun h0 => absurd h0 (Nat.lt_irrefl 0), hblocks, hdepth, hkeys, hkd, htaken ▸ hkq, hallowed, hdone ▸ h.undone⟩, by omega⟩
  · rw [hqueue, ← List.append_assoc, h.tokens]
    simp [hbs]
  · rcases List.mem_append.1 hb with hb | hb
    · exact h.marked b hb
    · rw [(hplace b hb).1]
      exact h.cursor.mark
  · rcases List.mem_append.1 hb with hb | hb
    · have := h.passed b hb
      omega
    · rw [(hplace b hb).1]
      omega
  · rcases List.mem_append.1 hb with hb | hb
    · exact h.bounded b hb
    · exact (hplace b hb).2.2
  · rcases List.mem_append.1 hb with hb | hb
    · exact h.shown b hb
    · exact (hplace b hb).2.1

/-- A token that opens no block. -/
theorem arrive_one (ht : t.IsRegular) (h : Sound t released as n s) {flow : List Bracket}
    {keyAllowed : Bool} {version : Version} (hy : y.start = s.cursor.mark)
    (hs : y.kind.lexemeKind.isBlockStart = false) (hshown : y.kind.isShown = true)
    (hbound : y.kind = .key → y.stop.offset ≤ t.length)
    (hr : s.cursor.Reaches (fun _ => True) 1 cursor) (hrest : s.cursor.rest ≠ [])
    (hkeys : KeysHold keys (as ++ [⟨n, y⟩])) (hkd : ∀ x ∈ keys, x.1 ≤ flow.length)
    (hkq : ∀ x ∈ keys, s.taken ≤ x.2.number)
    (hdepth : depthAfter s.flow.length y.kind.lexemeKind = flow.length)
    (hallowed : flow = [] → keyAllowed = false → y.kind.isLead = true → cursor.mark.line = s.cursor.mark.line ∧
      ∀ b ∈ ((laid as).blocks.drop n).head?, b.column ≤ s.cursor.mark.column) :
    Sound t released (as ++ [⟨n, y⟩]) 0
      { s with cursor, flow, keyAllowed, keys, version, queue := s.queue ++ [y] } ∧
    s.cursor.mark.offset < cursor.mark.offset := by
  have hblocks : (laid (as ++ [⟨n, y⟩])).blocks = (laid as).blocks.drop n := by
    rw [laid, afterAll_append, afterAll_cons, afterAll_nil, blocks_after_of_not_isBlockStart hs]
    rfl
  refine h.arrive ht [y] (by simp [Arrival.tokens, hy]) (fun b hb => ?_) hr hrest rfl rfl rfl ?_ ?_ hkeys hkd
    hkq fun hf ha x hx hlead => ?_
  · rw [List.mem_singleton.1 hb]
    exact ⟨hy, hshown, hbound⟩
  · rw [hblocks]
    exact h.blocks
  · rw [laid, afterAll_append, afterAll_cons, afterAll_nil, after]
    simp only [h.depth]
    exact hdepth
  · rw [last_afterAll_concat] at hx
    cases hx
    obtain ⟨hline, hinside⟩ := hallowed hf ha hlead
    refine ⟨by simp only [hy, hline], ?_⟩
    rw [hblocks, hy]
    exact hinside

/-- A token that is no key, nor what was possibly one before it. -/
theorem arrive_keyless (ht : t.IsRegular) (h : Sound t released as n s) (hl : OnLine s)
    {keyAllowed : Bool} {version : Version} (hfit : (laid as).Fits ⟨n, y⟩) (hy : y.start = s.cursor.mark)
    (hk : y.kind.isKeyable = false) (hs : y.kind.lexemeKind.isBlockStart = false) (hshown : y.kind.isShown = true)
    (hbound : y.kind = .key → y.stop.offset ≤ t.length)
    (hreq : ∀ key, s.keys.lookup s.flow.length = some key → key.required = false)
    (hr : s.cursor.Reaches (fun _ => True) 1 cursor) (hrest : s.cursor.rest ≠ [])
    (hdepth : depthAfter s.flow.length y.kind.lexemeKind = s.flow.length)
    (hallowed : s.flow = [] → keyAllowed = false → y.kind.isLead = true → cursor.mark.line = s.cursor.mark.line ∧
      ∀ b ∈ ((laid as).blocks.drop n).head?, b.column ≤ s.cursor.mark.column) :
    Sound t released (as ++ [⟨n, y⟩]) 0
      { s with cursor, keyAllowed, version, keys := s.keys.filter (·.1 != s.flow.length), queue := s.queue ++ [y] } ∧
    s.cursor.mark.offset < cursor.mark.offset :=
  h.arrive_one ht hy hs hshown hbound hr hrest (h.keys_arrive hl hy hreq hfit hk)
    (fun x hx => h.keys_depth x (List.mem_filter.1 hx).1) (fun x hx => h.keys_queued x (List.mem_filter.1 hx).1)
    hdepth hallowed

/-- What is open after a block has started at the place of the reader. -/
theorem laid_start (h : Sound t released as n s) (hf : s.flow = []) {start : TokenKind}
    (hs : start.lexemeKind.isBlockStart = true) :
    ∃ b : Block, b.column = s.cursor.mark.column ∧ laid (as ++ [⟨n, .mark0 start s.cursor.mark⟩]) =
      ⟨b :: (laid as).blocks.drop n, 0, some (.mark0 start s.cursor.mark)⟩ := by
  have hd := h.depth_eq_zero_iff.2 hf
  rw [laid, afterAll_append, afterAll_cons, afterAll_nil, after, ← laid, hd]
  rcases eq_of_isBlockStart hs with rfl | rfl
  · exact ⟨⟨true, s.cursor.mark.column⟩, rfl, rfl⟩
  · exact ⟨⟨false, s.cursor.mark.column⟩, rfl, rfl⟩

/-- Where a block and its indicator arrive, no possible key is left to wait. -/
theorem keys_arrive_two (h : Sound t released as n s) (hf : s.flow = []) {x : Token} {a : Arrival}
    (hreq : ∀ key, s.keys.lookup s.flow.length = some key → key.required = false)
    (hx : (laid as).Fits ⟨n, x⟩) (hxk : x.kind.isKeyable = false) (ha : (laid (as ++ [⟨n, x⟩])).Fits a)
    (hak : a.token.kind.isKeyable = false) :
    KeysHold (s.keys.filter (·.1 != s.flow.length)) (as ++ [⟨n, x⟩] ++ [a]) := by
  have hnone : ∀ x ∈ s.keys.filter (·.1 != s.flow.length), x.1 ≠ 0 := fun x hx =>
    absurd hf (h.flow_ne_nil_of_mem hx).2
  exact ((h.keys_dropKey hreq).arrive ⟨hx, not_misses_of_not_isKeyable hxk⟩ fun x hx h0 => absurd h0 (hnone x hx)).arrive
    ⟨ha, not_misses_of_not_isKeyable hak⟩ fun x hx h0 => absurd h0 (hnone x hx)

/-- An indicator that opens the block it stands in. -/
theorem arrive_two (ht : t.IsRegular) (h : Sound t released as n s) (hp : Placed as n s)
    {start : TokenKind} (hs : start.lexemeKind.isBlockStart = true) (hf : s.flow = [])
    (hi : s.indent < s.cursor.mark.column) (hy : y.start = s.cursor.mark) (hplain : IsPlain y.kind)
    (hk : y.kind.isKeyable = false) (hshown : y.kind.isShown = true)
    (hbound : y.kind = .key → y.stop.offset ≤ t.length)
    (hreq : ∀ key, s.keys.lookup s.flow.length = some key → key.required = false)
    (hr : s.cursor.Reaches (fun _ => True) 1 cursor) (hrest : s.cursor.rest ≠ [])
    (hdepth : depthAfter s.flow.length y.kind.lexemeKind = s.flow.length) :
    Sound t released (as ++ [⟨n, .mark0 start s.cursor.mark⟩] ++ [⟨0, y⟩]) 0
      { s with cursor, keyAllowed := true, keys := s.keys.filter (·.1 != s.flow.length)
               indents := s.indent :: s.indents, indent := (s.cursor.mark.column : Int)
               queue := s.queue ++ [.mark0 start s.cursor.mark] ++ [y] } ∧
    s.cursor.mark.offset < cursor.mark.offset := by
  obtain ⟨b, hcol, hlaid⟩ := h.laid_start hf hs
  have hfirst : (laid as).Fits ⟨n, .mark0 start s.cursor.mark⟩ := h.fits_start hp rfl hs hf hi
  have hsecond : (laid (as ++ [⟨n, .mark0 start s.cursor.mark⟩])).Fits ⟨0, y⟩ :=
    fits_of_opens (by rw [hlaid, hy]) hs (by rw [hcol, hy]) hplain rfl
  -- The indicator opens nothing more.
  have hafter : laid (as ++ [⟨n, .mark0 start s.cursor.mark⟩] ++ [⟨0, y⟩]) = ⟨b :: (laid as).blocks.drop n, 0, some y⟩ := by
    rw [laid, afterAll_append, ← laid, hlaid, afterAll_cons, afterAll_nil, after,
      opened_of_not_isBlockStart hplain.notStart]
    rw [hf] at hdepth
    simpa [within] using hdepth
  have hkind : (Token.mark0 start s.cursor.mark).kind.isKeyable = false ∧ start.isShown = true ∧ start ≠ .key := by
    rcases eq_of_isBlockStart hs with rfl | rfl <;> exact ⟨rfl, rfl, by decide⟩
  have hkeys := h.keys_arrive_two hf hreq hfirst hkind.1 hsecond hk
  rw [List.append_assoc] at hafter hkeys ⊢
  refine h.arrive ht [.mark0 start s.cursor.mark, y] ?_ (fun a ha => ?_) hr hrest ?_ rfl rfl ?_ ?_ hkeys
    (fun x hx => h.keys_depth x (List.mem_filter.1 hx).1) (fun x hx => h.keys_queued x (List.mem_filter.1 hx).1)
    fun _ ha => by cases ha
  · simp [Arrival.tokens, Token.mark0]
  · simp only [List.cons_append, List.nil_append, List.mem_cons, List.not_mem_nil, or_false] at ha
    rcases ha with rfl | rfl
    · exact ⟨rfl, hkind.2.1, fun hkey => absurd hkey hkind.2.2⟩
    · exact ⟨hy, hshown, hbound⟩
  · simp
  · rw [hafter]
    simp only [List.map_cons, List.cons_append, h.blocks, hcol]
  · rw [hafter, hf]
    rfl

end YamlStyle.Yaml.Sound
