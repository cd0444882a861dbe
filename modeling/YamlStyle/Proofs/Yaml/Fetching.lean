import YamlStyle.Proofs.Yaml.Arrivals
import YamlStyle.Proofs.Yaml.Reading

/-!
# Each token fits where it is read

One lemma for each way in which a token is read: the reader stays sound, with one more arrival or
with a key and its mapping put before an earlier one.
-/

namespace YamlStyle.Yaml.Sound

open Layout Scan

variable {t : Text} {released : List Token} {as : List Arrival} {n : Nat} {s : TokenReader} {y : Token}
  {cursor : Cursor} {c : Char} {key : SimpleKey}

/-- A reader that is still sound, somewhere beyond an offset. -/
def Goes (t : Text) (released : List Token) (offset : Nat) (s : TokenReader) : Prop :=
  ∃ as, Sound t released as 0 s ∧ offset < s.cursor.mark.offset

theorem rest_ne_nil (hc : s.cursor.peek = some c) : s.cursor.rest ≠ [] := by
  intro h
  rw [Cursor.peek, h] at hc
  cases hc

theorem reaches_skip (k : Nat) : s.cursor.Reaches (fun _ => True) k (s.cursor.skip k) :=
  ⟨k, Nat.le_refl k, rfl, fun _ _ => trivial⟩

/-! ## Boundaries -/

/-- A token that ends all blocks. -/
theorem arrive_boundary (ht : t.IsRegular) (h : Sound t released as n s) (hl : OnLine s) (hy : y.start = s.cursor.mark)
    (hk : y.kind.isBoundary = true) (hshown : y.kind.isShown = true) (hall : s.flow = [] → n = (laid as).blocks.length)
    (hcol : s.cursor.mark.column = 0) (hr : ∀ key, s.keys.lookup s.flow.length = some key → key.required = false)
    (hreach : s.cursor.Reaches (fun _ => True) 1 cursor) (hc : s.cursor.peek = some c) (version : Version) :
    Goes t released s.cursor.mark.offset { s with
      cursor, version, keyAllowed := false, keys := s.keys.filter (·.1 != s.flow.length), queue := s.queue ++ [y] } := by
  have hfit := h.fits_boundary hy hk hall fun _ => hcol
  have hkind : y.kind.isKeyable = false ∧ y.kind.lexemeKind.isBlockStart = false ∧ y.kind ≠ .key ∧
      y.kind.isLead = false ∧ depthAfter s.flow.length y.kind.lexemeKind = s.flow.length := by
    rcases eq_of_isBoundary hk with ⟨d, hy'⟩ | hy' | hy' | hy' <;>
      simp [hy', TokenKind.lexemeKind, LexemeKind.isBlockStart, TokenKind.isKeyable, TokenKind.isLead, depthAfter,
        LexemeKind.isFlowStart, LexemeKind.isFlowEnd]
  obtain ⟨hnk, hs, hkey, hlead, hdepth⟩ := hkind
  exact ⟨_, h.arrive_keyless ht hl hfit hy hnk hs hshown (fun hk' => absurd hk' hkey) hr hreach (rest_ne_nil hc) hdepth
    fun _ _ hl => by
      rw [hlead] at hl
      cases hl⟩

theorem onLine_congr {s' : TokenReader} (hl : OnLine s) (hk : s'.keys = s.keys) (hc : s'.cursor = s.cursor) :
    OnLine s' := by
  intro x hx
  rw [hc]
  exact hl x (hk ▸ hx)

theorem ensures_directive (ht : t.IsRegular) (h : Sound t released as n s) (hl : OnLine s)
    (hc : s.cursor.peek = some c) (hcol : s.cursor.mark.column = 0) :
    Ensures Scan.directive s fun _ s' => Goes t released s.cursor.mark.offset s' := by
  simp only [Scan.directive, ensures_bind]
  refine h.ensures_unwind_all.imp fun _ s1 h1 => ?_
  obtain ⟨m, h1, hm, hcur, hkeys, hflow, -⟩ := h1
  simp only [ensures_dropKey, ensures_allowKey, ensures_mark, ensures_get, ensures_lex]
  intro hr read cursor hread
  obtain ⟨d, stop⟩ := read
  have hreach := Lex.reads_directive _ _ _ _ hread
  have harrive := fun version => h1.arrive_boundary ht (y := ⟨.directive d, s1.cursor.mark, stop⟩)
    (onLine_congr hl hkeys hcur) rfl rfl rfl (fun hf => hm (hflow ▸ hf)) (hcur ▸ hcol) hr hreach (hcur ▸ hc) version
  rw [← hcur]
  cases d with
  | yaml version =>
    simp only [ensures_bind, ensures_modify, ensures_push]
    exact harrive version
  | _ =>
    simp only [ensures_push]
    exact harrive s1.version

theorem ensures_documentMarker (ht : t.IsRegular) (h : Sound t released as n s) (hl : OnLine s)
    (hc : s.cursor.peek = some c) (hcol : s.cursor.mark.column = 0) {kind : TokenKind}
    (hk : kind = .documentStart ∨ kind = .documentEnd) :
    Ensures (Scan.documentMarker kind) s fun _ s' => Goes t released s.cursor.mark.offset s' := by
  simp only [Scan.documentMarker, ensures_bind]
  refine h.ensures_unwind_all.imp fun _ s1 h1 => ?_
  obtain ⟨m, h1, hm, hcur, hkeys, hflow, -⟩ := h1
  simp only [ensures_dropKey, ensures_allowKey, ensures_pushIndicator]
  intro hr
  have hkind : kind.isBoundary = true ∧ kind.isShown = true := by
    rcases hk with rfl | rfl <;> exact ⟨rfl, rfl⟩
  rw [← hcur]
  exact h1.arrive_boundary ht (y := ⟨kind, s1.cursor.mark, (s1.cursor.skip 3).mark⟩) (onLine_congr hl hkeys hcur) rfl
    hkind.1 hkind.2 (fun hf => hm (hflow ▸ hf)) (hcur ▸ hcol) hr
    ((reaches_skip 3).mono (fun _ h => h) (by omega)) (hcur ▸ hc) s1.version

/-! ## Flow collections -/

theorem ensures_flowStart (ht : t.IsRegular) (h : Sound t released as n s) (hl : OnLine s) (hp : Placed as n s)
    (hc : s.cursor.peek = some c) {kind : TokenKind} (hk : kind = .flowSequenceStart ∨ kind = .flowMappingStart)
    (bracket : Bracket) : Ensures (Scan.flowStart kind bracket) s fun _ s' => Goes t released s.cursor.mark.offset s' := by
  have hkind : kind.isKeyable = true ∧ kind.isShown = true ∧ kind ≠ .key ∧
      ∀ d, depthAfter d kind.lexemeKind = d + 1 := by
    rcases hk with rfl | rfl <;> simp [TokenKind.isKeyable, TokenKind.isShown, TokenKind.lexemeKind, depthAfter, LexemeKind.isFlowStart]
  obtain ⟨hkey, hshown, hnk, hdepth⟩ := hkind
  simp only [Scan.flowStart, ensures_bind]
  refine (h.ensures_saveKey hl hp (y := ⟨kind, s.cursor.mark, (s.cursor.skip 1).mark⟩) rfl hkey).imp fun _ s1 h1 => ?_
  obtain ⟨keys, rfl, hkeys, hkd, hkq⟩ := h1
  simp only [ensures_modify, ensures_pushIndicator]
  refine ⟨_, h.arrive_one ht rfl (isPlain_of_isKeyable hkey).notStart hshown (fun hk' => absurd hk' hnk) (reaches_skip 1)
    (rest_ne_nil hc) hkeys (fun x hx => Nat.le_succ_of_le (hkd x hx)) hkq (hdepth _) fun _ ha => ?_⟩
  cases ha

theorem ensures_flowEnd (ht : t.IsRegular) (h : Sound t released as n s) (hl : OnLine s) (hp : Placed as n s)
    (hc : s.cursor.peek = some c) {kind : TokenKind} (hk : kind = .flowSequenceEnd ∨ kind = .flowMappingEnd) :
    Ensures (Scan.flowEnd kind) s fun _ s' => Goes t released s.cursor.mark.offset s' := by
  have hkind : IsPlain kind ∧ kind.isKeyable = false ∧ kind.isShown = true ∧ kind ≠ .key ∧ kind ≠ .blockEntry ∧
      kind.isLead = false ∧ ∀ d, depthAfter d kind.lexemeKind = d - 1 := by
    rcases hk with rfl | rfl <;> refine ⟨⟨rfl, rfl, rfl⟩, ?_⟩ <;>
      simp [TokenKind.isKeyable, TokenKind.isShown, TokenKind.lexemeKind, TokenKind.isLead, depthAfter, LexemeKind.isFlowStart,
        LexemeKind.isFlowEnd]
  obtain ⟨hplain, hkey, hshown, hnk, hentry, hlead, hdepth⟩ := hkind
  simp only [Scan.flowEnd, ensures_bind, ensures_dropKey, ensures_modify, ensures_pushIndicator]
  intro hr
  refine ⟨_, h.arrive_one ht rfl hplain.notStart hshown (fun hk' => absurd hk' hnk) (reaches_skip 1) (rest_ne_nil hc)
    (h.keys_arrive hl rfl hr (h.fits_plain hp rfl hplain fun _ hi => ?_) hkey) (fun x hx => ?_)
    (fun x hx => h.keys_queued x (List.mem_filter.1 hx).1) ?_ fun _ _ hl => ?_⟩
  · simp [Token.isIndicator, hentry, hnk] at hi
  · have := (KeysHold.lt_of_mem_filter h.keys_depth hx).2
    simp only [List.length_tail]
    omega
  · rw [hdepth, List.length_tail]
  · simp only [hlead] at hl
    cases hl

theorem ensures_flowEntry (ht : t.IsRegular) (h : Sound t released as n s) (hl : OnLine s) (hp : Placed as n s)
    (hc : s.cursor.peek = some c) : Ensures Scan.flowEntry s fun _ s' => Goes t released s.cursor.mark.offset s' := by
  simp only [Scan.flowEntry, ensures_bind, ensures_dropKey, ensures_allowKey, ensures_pushIndicator]
  intro hr
  refine ⟨_, h.arrive_keyless ht hl (h.fits_plain hp rfl ⟨rfl, rfl, rfl⟩ fun _ hi => ?_) rfl rfl rfl rfl
    (fun hk => by cases hk) hr (reaches_skip 1) (rest_ne_nil hc) rfl fun _ ha => ?_⟩
  · cases hi
  · cases ha

/-! ## Nodes -/

theorem ensures_keyCandidate (ht : t.IsRegular) (h : Sound t released as n s) (hl : OnLine s) (hp : Placed as n s)
    (hc : s.cursor.peek = some c) {read : Lex TokenKind}
    (hread : Ensures read s.cursor fun kind cursor => kind.isKeyable = true ∧ kind.lexemeKind.isFlowStart = false ∧
      s.cursor.Reaches (fun _ => True) 1 cursor ∧ (kind.isLead = true → s.cursor.Reaches (· ≠ '\n') 1 cursor)) :
    Ensures (Scan.keyCandidate read) s fun _ s' => Goes t released s.cursor.mark.offset s' := by
  simp only [Scan.keyCandidate, ensures_bind]
  intro u s1 hsave
  -- What is saved does not depend on the kind of the token.
  simp only [ensures_allowKey, ensures_mark, ensures_lex, ensures_push]
  have hcur : s1.cursor = s.cursor := by
    obtain ⟨keys, rfl, -⟩ := h.ensures_saveKey hl hp (y := .mark0 .flowSequenceStart s.cursor.mark) rfl rfl u s1 hsave
    rfl
  rw [hcur]
  refine hread.imp fun kind cursor hk => ?_
  obtain ⟨hkey, hflow, hreach, hline⟩ := hk
  obtain ⟨keys, rfl, hkeys, hkd, hkq⟩ :=
    h.ensures_saveKey hl hp (y := ⟨kind, s.cursor.mark, cursor.mark⟩) rfl hkey u s1 hsave
  have hplain := isPlain_of_isKeyable hkey
  refine ⟨_, h.arrive_one ht rfl hplain.notStart ?_ ?_ hreach (rest_ne_nil hc) hkeys hkd hkq
    (depthAfter_of_isKeyable hkey hflow _) fun hf _ hlead => ?_⟩
  · exact isShown_of_isKeyable hkey
  · rintro rfl
    cases hkey
  · exact ⟨h.cursor.line_eq ht (hline hlead), hp.inside hf⟩

/-- A colon in a flow collection that no word follows separates a key from a value. -/
theorem isValueIndicator_of_endsWord (h : endsWord (s.cursor.peekAt 1) = true) : isValueIndicator s = true := by
  unfold isValueIndicator
  cases s.flow with
  | nil => exact h
  | cons bracket flow => simp [h]

theorem continuesPlain_of_startsPlain (hs : startsPlain s c = true) (hv : ¬(c == ':' && isValueIndicator s) = true)
    (column : Int) : Lex.continuesPlain ⟨!s.flow.isEmpty, s.version, column⟩ c (s.cursor.peekAt 1) = true := by
  by_cases hcolon : c = ':'
  · -- A colon that is no indicator stands in a word.
    have hword : ¬endsWord (s.cursor.peekAt 1) = true := fun h => hv (by simp [hcolon, isValueIndicator_of_endsWord h])
    simp [Lex.continuesPlain, hcolon, hword]
  · by_cases hquestion : c = '?'
    · simp [startsPlain, hquestion, isIndicator] at hs
      simp [Lex.continuesPlain, hquestion, hs]
      exact .inr (by decide)
    · by_cases hdash : c = '-'
      · simp [Lex.continuesPlain, hdash]
        decide
      · have hplain : isIndicator c = false := by simpa [startsPlain, hcolon, hquestion, hdash] using hs
        simp [isIndicator] at hplain
        simp [Lex.continuesPlain, hcolon, hquestion, endsWord, hplain]

theorem plainWord_ne_nil (hc : s.cursor.peek = some c) (hs : startsPlain s c = true)
    (hv : ¬(c == ':' && isValueIndicator s) = true) (column : Int) :
    Lex.plainWord ⟨!s.flow.isEmpty, s.version, column⟩ s.cursor.rest ≠ [] := by
  have hgo := continuesPlain_of_startsPlain hs hv column
  cases hr : s.cursor.rest with
  | nil => exact absurd hr (rest_ne_nil hc)
  | cons d r =>
    rw [Cursor.peek, hr] at hc
    cases hc
    rw [Cursor.peekAt, hr] at hgo
    rw [Lex.plainWord, if_pos (by rw [List.head?_eq_getElem?]; exact hgo)]
    simp

theorem ensures_plainScalar (ht : t.IsRegular) (h : Sound t released as n s) (hl : OnLine s) (hp : Placed as n s)
    (hc : s.cursor.peek = some c) (hs : startsPlain s c = true) (hv : ¬(c == ':' && isValueIndicator s) = true) :
    Ensures Scan.plainScalar s fun _ s' => Goes t released s.cursor.mark.offset s' := by
  have hhash : s.cursor.peek ≠ some '#' := by
    rintro hc'
    rw [hc] at hc'
    cases hc'
    simp [startsPlain, isIndicator] at hs
  simp only [Scan.plainScalar, ensures_bind]
  intro u s1 hsave
  simp only [ensures_allowKey, ensures_get, ensures_mark, ensures_lex]
  intro read cursor hread
  obtain ⟨keys, rfl, hkeys, hkd, hkq⟩ := h.ensures_saveKey hl hp
    (y := ⟨.scalar (String.ofList read.text) .plain, s1.cursor.mark, read.stop⟩) (by
      obtain ⟨keys, rfl, -⟩ := h.ensures_saveKey hl hp (y := .mark0 .flowSequenceStart s.cursor.mark) rfl rfl u s1 hsave
      rfl) rfl u s1 hsave
  have hreach := Lex.reads_plainScalar hhash (plainWord_ne_nil hc hs hv _) _ _ hread
  have harrive : ∀ keyAllowed, Goes t released s.cursor.mark.offset { s with
      cursor, keyAllowed, keys
      queue := s.queue ++ [⟨.scalar (String.ofList read.text) .plain, s.cursor.mark, read.stop⟩] } := fun _ =>
    ⟨_, h.arrive_one ht rfl rfl rfl (fun hk => by cases hk) hreach (rest_ne_nil hc) hkeys hkd hkq rfl
      fun _ _ hlead => by cases hlead⟩
  simp only [ensures_ite, ensures_bind, ensures_allowKey, ensures_push]
  exact ⟨fun _ => harrive true, fun _ => harrive false⟩

theorem ensures_blockScalar (ht : t.IsRegular) (h : Sound t released as n s) (hl : OnLine s) (hp : Placed as n s)
    (hc : s.cursor.peek = some c) (hf : s.flow = []) (isFolded : Bool) :
    Ensures (Scan.blockScalar isFolded) s fun _ s' => Goes t released s.cursor.mark.offset s' := by
  simp only [Scan.blockScalar, ensures_bind, ensures_allowKey, ensures_dropKey, ensures_mark, ensures_get, ensures_lex]
  intro hr read cursor hread
  obtain ⟨value, stop, blankLines⟩ := read
  have hreach := Lex.reads_blockScalar _ _ _ _ _ hread
  have hblock : (TokenKind.scalar value (if isFolded = true then .folded else .literal)).isBlockScalar = true := by
    cases isFolded <;> rfl
  have hkey : (TokenKind.scalar value (if isFolded = true then .folded else .literal)).isKeyable = false := by
    cases isFolded <;> rfl
  -- The gap after the scalar may be read with it.
  have harrive : ∀ s1, Skips { s with keyAllowed := true, keys := s.keys.filter (·.1 != s.flow.length), cursor } s1 →
      Goes t released s.cursor.mark.offset { s1 with
        queue := s1.queue ++ [⟨.scalar value (if isFolded = true then .folded else .literal), s.cursor.mark, stop⟩] } := by
    rintro s1 ⟨cursor', keyAllowed, rfl, hskip, -⟩
    exact ⟨_, h.arrive_keyless ht hl (h.fits_blockScalar hp rfl hblock hf) rfl hkey rfl rfl (fun hk => by cases hk) hr
      (hreach.trans hskip) (rest_ne_nil hc) rfl fun _ _ hlead => by cases hlead⟩
  simp only [ensures_ite, ensures_bind, ensures_push]
  exact ⟨fun _ => ensures_skipToToken.imp fun _ s1 h1 => harrive s1 h1,
    fun _ => harrive _ (skips_of_reaches (.refl _ _))⟩

/-! ## Indicators of blocks -/

/-- An indicator at the place of the reader, which in a block may open a block for itself. -/
theorem arrive_indicator (ht : t.IsRegular) (h : Sound t released as n s) (hp : Placed as n s) (hl : OnLine s)
    (hc : s.cursor.peek = some c) {kind : TokenKind} (hplain : IsPlain kind) (hk : kind.isKeyable = false)
    (hshown : kind.isShown = true) (hdepth : ∀ d, depthAfter d kind.lexemeKind = d)
    (hr : ∀ key, s.keys.lookup s.flow.length = some key → key.required = false) {keyAllowed : Bool}
    (hi : s.flow = [] → keyAllowed = true ∧ ¬s.indent < s.cursor.mark.column) :
    Goes t released s.cursor.mark.offset { s with
      cursor := s.cursor.skip 1, keyAllowed, keys := s.keys.filter (·.1 != s.flow.length)
      queue := s.queue ++ [⟨kind, s.cursor.mark, (s.cursor.skip 1).mark⟩] } := by
  refine ⟨_, h.arrive_keyless ht hl (h.fits_plain hp rfl hplain fun hf _ => ?_) rfl hk hplain.notStart hshown
    (fun _ => (h.cursor.skip ht 1).1.bound) hr (reaches_skip 1) (rest_ne_nil hc) (hdepth _) fun hf ha => ?_⟩
  · exact h.exists_block_of_le_indent hp hf (hi hf).2
  · rw [(hi hf).1] at ha
    cases ha

/-- The reading of an indicator which opens a block for itself, if it stands in none at its column. -/
theorem ensures_indicator (ht : t.IsRegular) (h : Sound t released as n s) (hl : OnLine s) (hp : Placed as n s)
    (hc : s.cursor.peek = some c) {kind start : TokenKind} (hplain : IsPlain kind) (hk : kind.isKeyable = false)
    (hshown : kind.isShown = true) (hdepth : ∀ d, depthAfter d kind.lexemeKind = d)
    (hs : start.lexemeKind.isBlockStart = true) (cause : Cause) {keyAllowed : Bool}
    (ha : s.flow = [] → keyAllowed = true) :
    Ensures (do
      if !(!s.flow.isEmpty) then openBlock start cause
      allowKey keyAllowed
      dropKey
      pushIndicator kind 1) s fun _ s' => Goes t released s.cursor.mark.offset s' := by
  simp only [ensures_bind, ensures_ite, ensures_openBlock, ensures_allowKey, ensures_dropKey,
    ensures_pushIndicator, Bool.not_not, List.isEmpty_iff]
  refine ⟨fun hf _ => ⟨fun hi hr => ?_, fun hi hr => ?_⟩, fun hf hr => ?_⟩
  · rw [ha hf]
    exact ⟨_, h.arrive_two ht hp hs hf hi rfl hplain hk hshown (fun _ => (h.cursor.skip ht 1).1.bound) hr
      (reaches_skip 1) (rest_ne_nil hc) (hdepth _)⟩
  · exact h.arrive_indicator ht hp hl hc hplain hk hshown hdepth hr fun hf => ⟨ha hf, hi⟩
  · exact h.arrive_indicator ht hp hl hc hplain hk hshown hdepth hr fun hf' => absurd hf' hf

theorem ensures_blockEntry (ht : t.IsRegular) (h : Sound t released as n s) (hl : OnLine s) (hp : Placed as n s)
    (hc : s.cursor.peek = some c) : Ensures Scan.blockEntry s fun _ s' => Goes t released s.cursor.mark.offset s' := by
  rw [Scan.blockEntry, ensures_bind, ensures_inFlow]
  exact h.ensures_indicator ht hl hp hc ⟨rfl, rfl, rfl⟩ rfl rfl (fun _ => rfl) rfl _ fun _ => rfl

theorem ensures_explicitKey (ht : t.IsRegular) (h : Sound t released as n s) (hl : OnLine s) (hp : Placed as n s)
    (hc : s.cursor.peek = some c) : Ensures Scan.explicitKey s fun _ s' => Goes t released s.cursor.mark.offset s' := by
  rw [Scan.explicitKey, ensures_bind, ensures_inFlow]
  exact h.ensures_indicator ht hl hp hc ⟨rfl, rfl, rfl⟩ rfl rfl (fun _ => rfl) rfl _ fun hf => by rw [hf]; rfl

/-! ## Values -/

theorem append_insert {queue : List Token} {k : Nat} (hk : released.length ≤ k) (x : Token) :
    released ++ (queue.take (k - released.length) ++ [x] ++ queue.drop (k - released.length)) =
      (released ++ queue).take k ++ [x] ++ (released ++ queue).drop k := by
  rw [List.take_append, List.drop_append, List.take_of_length_le hk, List.drop_of_length_le hk]
  simp

/-- Tokens of no width are put before ones that have arrived. -/
theorem exchange (h : Sound t released as 0 s) {as' : List Arrival} {keys : List (Nat × SimpleKey)}
    {queue : List Token} (indent : Int) (indents : List Int)
    (hmem : ∀ b ∈ as', ∃ a ∈ as, b.token.start = a.token.start ∧
      (b.token = a.token ∨ b.token.kind.isShown = true ∧ b.token.stop = b.token.start))
    (htokens : released ++ queue = streamStart :: as'.flatMap Arrival.tokens)
    (hblocks : (laid as').blocks.map (fun b => (b.column : Int)) ++ [-1] = indent :: indents)
    (hdepth : (laid as').depth = (laid as).depth) (hkeys : KeysHold keys as') (hsub : ∀ x ∈ keys, x ∈ s.keys) :
    Sound t released as' 0 { s with keys, queue, indent, indents, keyAllowed := true } where
  cursor := h.cursor
  tokens := by simpa using htokens
  taken := h.taken
  marked b hb := by
    obtain ⟨a, ha, hs, -⟩ := hmem b hb
    rw [hs]
    exact h.marked a ha
  passed b hb := by
    obtain ⟨a, ha, hs, -⟩ := hmem b hb
    rw [hs]
    exact h.passed a ha
  bounded b hb hk := by
    obtain ⟨a, ha, hs, heq | ⟨-, hstop⟩⟩ := hmem b hb
    · rw [heq] at hk ⊢
      exact h.bounded a ha hk
    · rw [hstop, hs]
      exact Nat.le_of_lt (Nat.lt_of_lt_of_le (h.passed a ha) h.cursor.bound)
  shown b hb := by
    obtain ⟨a, ha, -, heq | ⟨hk, -⟩⟩ := hmem b hb
    · rw [heq]
      exact h.shown a ha
    · exact hk
  ends_le := Nat.zero_le _
  ends_flow h0 := absurd h0 (Nat.lt_irrefl 0)
  blocks := hblocks
  depth := hdepth.trans h.depth
  keys := hkeys
  keys_depth x hx := h.keys_depth x (hsub x hx)
  keys_queued x hx := h.keys_queued x (hsub x hx)
  allowed _ ha := by cases ha
  undone := h.undone

theorem mem_keyed_insert {pre post : List Arrival} {a b : Arrival} (hb : b ∈ pre ++ keyed a ++ post) :
    ∃ a' ∈ pre ++ a :: post, b.token.start = a'.token.start ∧
      (b.token = a'.token ∨ b.token.kind.isShown = true ∧ b.token.stop = b.token.start) := by
  simp only [keyed, preceded, List.mem_append, List.mem_cons, List.not_mem_nil, or_false] at hb
  rcases hb with (hb | rfl | rfl) | hb
  · exact ⟨b, by simp [hb], rfl, .inl rfl⟩
  · exact ⟨a, by simp, rfl, .inr ⟨rfl, rfl⟩⟩
  · exact ⟨a, by simp, rfl, .inl rfl⟩
  · exact ⟨b, by simp [hb], rfl, .inl rfl⟩

theorem mem_mapped_insert {pre post : List Arrival} {a b : Arrival} (hb : b ∈ pre ++ mapped a ++ post) :
    ∃ a' ∈ pre ++ a :: post, b.token.start = a'.token.start ∧
      (b.token = a'.token ∨ b.token.kind.isShown = true ∧ b.token.stop = b.token.start) := by
  simp only [mapped, keyed, preceded, List.mem_append, List.mem_cons, List.not_mem_nil, or_false] at hb
  rcases hb with (hb | rfl | rfl | rfl) | hb
  · exact ⟨b, by simp [hb], rfl, .inl rfl⟩
  · exact ⟨a, by simp, rfl, .inr ⟨rfl, rfl⟩⟩
  · exact ⟨a, by simp, rfl, .inr ⟨rfl, rfl⟩⟩
  · exact ⟨a, by simp, rfl, .inl rfl⟩
  · exact ⟨b, by simp [hb], rfl, .inl rfl⟩

/-- A colon stands in the block of the key that it claims. -/
theorem claimed (ht : t.IsRegular) (h : Sound t released as 0 s) (hl : OnLine s) (hp : Placed as 0 s)
    (hc : s.cursor.peek = some ':') (hkeys : ∀ x ∈ s.keys, x.1 < s.flow.length) :
    Goes t released s.cursor.mark.offset { s with
      cursor := s.cursor.skip 1, keyAllowed := false
      queue := s.queue ++ [⟨.value, s.cursor.mark, (s.cursor.skip 1).mark⟩] } := by
  have hfilter : s.keys.filter (·.1 != s.flow.length) = s.keys := List.filter_eq_self.2 fun x hx => by
    have := hkeys x hx
    simp only [bne_iff_ne, ne_eq]
    omega
  have hr : ∀ key, s.keys.lookup s.flow.length = some key → key.required = false := fun key hk =>
    absurd (hkeys _ (KeysHold.mem_of_lookup hk)) (Nat.lt_irrefl _)
  refine ⟨_, h.arrive_one ht rfl rfl rfl (fun hk => by cases hk) (reaches_skip 1) (rest_ne_nil hc)
    (hfilter ▸ h.keys_arrive hl rfl hr (h.fits_plain hp rfl ⟨rfl, rfl, rfl⟩ fun _ hi => ?_) rfl)
    (fun x hx => h.keys_depth x hx) (fun x hx => h.keys_queued x hx) rfl fun hf _ _ => ?_⟩
  · cases hi
  · have hline := Lex.readsFrom_indicator hc (by decide) () (s.cursor.skip 1) rfl
    exact ⟨h.cursor.line_eq ht hline, hp.inside hf⟩

theorem ends_eq_zero_of_lookup (h : Sound t released as n s) (hl : OnLine s) (hp : Placed as n s)
    (hkey : s.keys.lookup s.flow.length = some key) : n = 0 := by
  by_cases hf : s.flow = []
  · exact h.ends_eq_zero hl hp (KeysHold.mem_of_lookup hkey) (by rw [hf]; rfl)
  · exact h.ends_eq_zero_of_depth (Nat.pos_of_ne_zero fun hd => hf (h.depth_eq_zero_iff.1 hd))

theorem tokens_keyed {pre post : List Arrival} {a : Arrival} (h : Sound t released (pre ++ a :: post) 0 s)
    (hpend : Pending s.flow.length key pre a) (hk : s.taken ≤ key.number) :
    released ++ (s.queue.take (key.number - s.taken) ++ [.mark0 .key key.mark] ++ s.queue.drop (key.number - s.taken)) =
      streamStart :: (pre ++ keyed a ++ post).flatMap Arrival.tokens := by
  have htokens := h.tokens
  rw [List.replicate_zero, List.append_nil] at htokens
  rw [h.taken] at hk ⊢
  rw [append_insert hk, htokens, hpend.number, ← hpend.mark]
  exact tokens_insert streamStart .key

theorem tokens_mapped {pre post : List Arrival} {a : Arrival} {queue : List Token} (hpend : Pending 0 key pre a)
    (htaken : s.taken = released.length) (hk : s.taken ≤ key.number)
    (hqueue : released ++ queue = streamStart :: (pre ++ keyed a ++ post).flatMap Arrival.tokens) :
    released ++ (queue.take (key.number - s.taken) ++ [.mark0 .blockMappingStart key.mark] ++
      queue.drop (key.number - s.taken)) = streamStart :: (pre ++ mapped a ++ post).flatMap Arrival.tokens := by
  have hsplit : pre ++ keyed a ++ post = pre ++ ⟨a.ends, .mark0 .key a.token.start⟩ :: (⟨0, a.token⟩ :: post) := by
    simp [keyed, preceded]
  have hmapped : pre ++ mapped a ++ post =
      pre ++ preceded .blockMappingStart ⟨a.ends, .mark0 .key a.token.start⟩ ++ (⟨0, a.token⟩ :: post) := by
    simp [mapped, keyed, preceded, Token.mark0]
  rw [htaken] at hk ⊢
  rw [append_insert hk, hqueue, hsplit, hpend.number, ← hpend.mark, hmapped]
  exact tokens_insert (a := ⟨a.ends, .mark0 .key a.token.start⟩) streamStart .blockMappingStart

/-- The block around a key is the innermost one where the key is claimed. -/
theorem blocks_of_base {pre post : List Arrival} {a : Arrival} (hpend : Pending 0 key pre a)
    (hbase : Base key pre a post) : (laid (pre ++ a :: post)).blocks = (laid pre).within a := by
  rw [laid, afterAll_append, afterAll_cons, blocks_afterAll_of_inline hbase.line,
    blocks_after_of_not_isBlockStart (isPlain_of_isKeyable hpend.keyable).notStart]

theorem laid_keyed {pre post : List Arrival} {a : Arrival} : laid (pre ++ keyed a ++ post) = laid (pre ++ a :: post) := by
  rw [laid, laid, List.append_assoc, afterAll_append, afterAll_append, afterAll_keyed, afterAll_append, afterAll_cons]

theorem laid_mapped {pre post : List Arrival} {a : Arrival} (hpend : Pending 0 key pre a) (hbase : Base key pre a post) :
    laid (pre ++ mapped a ++ post) = (laid (pre ++ a :: post)).inner ⟨false, key.mark.column⟩ := by
  rw [laid, laid, List.append_assoc, afterAll_append, afterAll_append, afterAll_mapped hpend.keyable, hpend.mark,
    afterAll_inner hbase.line, afterAll_append, afterAll_cons]

theorem ensures_claim (ht : t.IsRegular) (h : Sound t released as n s) (hl : OnLine s) (hp : Placed as n s)
    (hc : s.cursor.peek = some ':') (hkey : s.keys.lookup s.flow.length = some key) :
    Ensures (do
      set { s with keys := s.keys.filter (·.1 != s.flow.length) }
      insertBefore key.number .key key.mark
      if !(!s.flow.isEmpty) then
        if ← indentTo key.mark.column then insertBefore key.number .blockMappingStart key.mark
      allowKey false
      pushIndicator .value 1) s fun _ s' => Goes t released s.cursor.mark.offset s' := by
  cases h.ends_eq_zero_of_lookup hl hp hkey
  have hmem := KeysHold.mem_of_lookup hkey
  have hnum := h.keys_queued _ hmem
  obtain ⟨pre, a, post, rfl, hpend, hbase, hkeys⟩ := h.keys.claim hmem h.keys_depth
  have hless : ∀ x ∈ s.keys.filter (·.1 != s.flow.length), x.1 < s.flow.length := fun x hx =>
    (KeysHold.lt_of_mem_filter h.keys_depth hx).2
  have hsub : ∀ x ∈ s.keys.filter (·.1 != s.flow.length), x ∈ s.keys := fun x hx => (List.mem_filter.1 hx).1
  have htokens := h.tokens_keyed hpend hnum
  have hkeyed : Sound t released (pre ++ keyed a ++ post) 0 _ := h.exchange _ _ (fun b hb => mem_keyed_insert hb) htokens
    (by rw [laid_keyed]; exact h.blocks) (by rw [laid_keyed]) hkeys hsub
  simp only [ensures_bind, ensures_set, ensures_insertBefore, ensures_ite, ensures_indentTo, ensures_allowKey,
    ensures_pushIndicator, Bool.not_not, List.isEmpty_iff, Bool.false_eq_true, false_implies, not_false_eq_true,
    not_true_eq_false, true_implies, true_and, and_true]
  have hinner := hkeyed.claimed ht (fun x hx => hl x (hsub x hx))
    ⟨fun hf b hb => by simp at hb, fun hf => by rw [laid_keyed]; exact hp.inside hf⟩ hc hless
  refine ⟨fun hf => ⟨fun hi => ?_, fun _ => hinner⟩, fun _ => hinner⟩
  -- Outside flow collections a deeper key opens a mapping.
  have h0 : s.flow.length = 0 := by rw [hf]; rfl
  rw [h0] at hpend
  have hbase := hbase h0
  have hempty : s.keys.filter (·.1 != s.flow.length) = [] := List.eq_nil_iff_forall_not_mem.2 fun x hx => by
    have := hless x hx
    omega
  have hdeep : ∀ b ∈ ((laid pre).within a).head?, b.column < a.token.start.column := by
    intro b hb
    rw [← blocks_of_base hpend hbase] at hb
    have := h.indent_eq (y := a.token) (b := b) (by rw [within, List.drop_zero]; exact hb)
    rw [hpend.mark]
    omega
  have hblocks : (laid (pre ++ mapped a ++ post)).blocks = ⟨false, key.mark.column⟩ :: (laid (pre ++ a :: post)).blocks := by
    rw [laid_mapped hpend hbase]
    rfl
  have hsound := h.exchange key.mark.column (s.indent :: s.indents) (fun b hb => mem_mapped_insert hb)
    (tokens_mapped hpend h.taken hnum htokens) (by
      have := h.blocks
      rw [List.drop_zero] at this
      rw [hblocks, List.map_cons, List.cons_append, this])
    (by rw [laid_mapped hpend hbase]; rfl) (KeysHold.claim_mapped hpend hbase hdeep) (fun x hx => by simp at hx)
  rw [hempty]
  refine hsound.claimed ht (fun x hx => by simp at hx) ⟨fun _ b hb => by simp at hb, fun _ b hb => ?_⟩ hc fun x hx => by
    simp at hx
  rw [List.drop_zero, hblocks] at hb
  cases hb
  exact Nat.le_of_lt (h.key_before hl hmem)

theorem ensures_value (ht : t.IsRegular) (h : Sound t released as n s) (hl : OnLine s) (hp : Placed as n s)
    (hc : s.cursor.peek = some ':') : Ensures Scan.value s fun _ s' => Goes t released s.cursor.mark.offset s' := by
  rw [Scan.value, ensures_bind, ensures_get]
  dsimp only
  cases hkey : s.keys.lookup s.flow.length with
  | some key => exact h.ensures_claim ht hl hp hc hkey
  | none => exact h.ensures_indicator ht hl hp hc ⟨rfl, rfl, rfl⟩ rfl rfl (fun _ => rfl) rfl _ fun hf => by rw [hf]; rfl

end YamlStyle.Yaml.Sound
