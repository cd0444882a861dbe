import YamlStyle.Proofs.Yaml.Deeper
import YamlStyle.Proofs.Yaml.Fork.Releasing
import YamlStyle.Proofs.Yaml.Gaps

/-!
# Where texts are one again

After scalars that end their lines two readers go on over the same text. What either has left in its queue, and where it
stands in its own text, makes no difference to the tokens to come.
-/

namespace YamlStyle.Yaml

namespace Fork

/-! ## Forks -/

/-- Two texts that are the same up to a scalar. -/
def parting (left right : Text) (hl : StartsQuoted left) (hr : StartsWord right) : Fork where
  left := left
  right := right
  Marks m m' := m' = m
  advance h _ _ := by rw [h]
  column h := by rw [h]
  line h h' := by rw [h, h']
  apart h h' := by rw [h, h']
  offset h h' := by rw [h, h']
  atStart h := by rw [h]
  seam := .inr ⟨hl, hr⟩

/-- Two marks as many lines and characters after two places. -/
structure Moved (base base' m m' : Mark) : Prop where
  line : ∃ k, m.line = base.line + k ∧ m'.line = base'.line + k
  offset : ∃ k, m.offset = base.offset + k ∧ m'.offset = base'.offset + k

theorem Moved.refl (base base' : Mark) : Moved base base' base base' := ⟨⟨0, rfl, rfl⟩, ⟨0, rfl, rfl⟩⟩

/-- Two marks as far from two places, in the same columns. -/
structure Shifted (base base' m m' : Mark) : Prop extends Moved base base' m m' where
  column : m'.column = m.column

theorem Shifted.refl {base base' : Mark} (h : base'.column = base.column) : Shifted base base' base base' := ⟨.refl _ _, h⟩

theorem Shifted.advance {base base' m m' : Mark} (h : Shifted base base' m m') (ch : Char) (following : Option Char) :
    Shifted base base' (advanceMark m ch following) (advanceMark m' ch following) := by
  obtain ⟨⟨⟨k, hk, hk'⟩, ⟨l, hl, hl'⟩⟩, hcolumn⟩ := h
  unfold advanceMark
  split
  · exact ⟨⟨⟨k + 1, by rw [hk]; rfl, by rw [hk']; rfl⟩, ⟨l + 1, by rw [hl]; rfl, by rw [hl']; rfl⟩⟩, rfl⟩
  · split
    · exact ⟨⟨⟨k, hk, hk'⟩, ⟨l + 1, by rw [hl]; rfl, by rw [hl']; rfl⟩⟩, hcolumn⟩
    · exact ⟨⟨⟨k, hk, hk'⟩, ⟨l + 1, by rw [hl]; rfl, by rw [hl']; rfl⟩⟩, by rw [hcolumn]⟩

/-- The same text, at other places of two texts. -/
def shift (base base' : Mark) (hb : base.offset ≠ 0) (hb' : base'.offset ≠ 0) : Fork where
  left := []
  right := []
  Marks := Shifted base base'
  advance h ch following := h.advance ch following
  column h := h.column
  line h h' := by
    obtain ⟨k, hk, hk'⟩ := h.line
    obtain ⟨l, hl, hl'⟩ := h'.line
    omega
  apart h h' := by
    obtain ⟨k, hk, hk'⟩ := h.offset
    obtain ⟨l, hl, hl'⟩ := h'.offset
    omega
  offset h h' := by
    obtain ⟨k, hk, hk'⟩ := h.offset
    obtain ⟨l, hl, hl'⟩ := h'.offset
    omega
  atStart h := by
    obtain ⟨k, hk, hk'⟩ := h.offset
    omega
  seam := .inl ⟨rfl, rfl⟩

theorem beside_shift {base base' : Mark} {hb : base.offset ≠ 0} {hb' : base'.offset ≠ 0} {c c' : Cursor}
    (hrest : c'.rest = c.rest)
    (hmarks : Shifted base base' c.mark c'.mark) : (shift base base' hb hb').Beside c c' :=
  ⟨c.rest, (List.append_nil _).symm, hrest.trans (List.append_nil _).symm, .inl rfl, fun _ => .inl rfl, hmarks⟩

end Fork

/-! ## A token after a gap -/

namespace Scan

/-- Steps that leave a token in the queue. -/
def Fills {α : Type} (x : Scan α) : Prop := ∀ s, Ensures x s fun _ r => r.queue ≠ []

section

variable {α β : Type}

theorem Fills.bind {x : Scan β} {f : β → Scan α} (h : ∀ b, Fills (f b)) : Fills (x >>= f) := fun _ =>
  ensures_bind.2 fun _ r _ => h _ r

theorem fills_push (kind : TokenKind) (start stop : Mark) : Fills (push kind start stop) := fun _ =>
  (ensures_push kind start stop).2 (by simp)

theorem fills_pushHere (kind : TokenKind) : Fills (pushHere kind) := .bind fun _ => fills_push _ _ _

theorem fills_pushIndicator (kind : TokenKind) (width : Nat) : Fills (pushIndicator kind width) :=
  .bind fun _ => .bind fun _ => .bind fun _ => fills_push _ _ _

theorem fills_ite {b : Prop} [Decidable b] {x y : Scan α} (hx : Fills x) (hy : Fills y) : Fills (if b then x else y) := by
  split
  · exact hx
  · exact hy

theorem fills_throw (e : Failure) : Fills (throw e : Scan α) := fun _ => ensures_throw e

end

theorem fills_indicator (kind : TokenKind) (allowed : Bool) : Fills (do allowKey allowed; dropKey; pushIndicator kind 1) :=
  .bind fun _ => .bind fun _ => fills_pushIndicator _ _

theorem fills_keyCandidate (read : Lex TokenKind) : Fills (keyCandidate read) :=
  .bind fun _ => .bind fun _ => .bind fun _ => .bind fun _ => .bind fun _ => fills_push _ _ _

theorem fills_value : Fills value := by
  have hend : ∀ allowed, Fills (do allowKey allowed; pushIndicator .value 1) :=
    fun _ => .bind fun _ => fills_pushIndicator _ _
  refine .bind fun s => ?_
  dsimp only
  split
  · exact .bind fun _ => .bind fun _ => fills_ite (.bind fun _ => fills_ite (.bind fun _ => hend _) (hend _)) (hend _)
  · exact fills_ite (.bind fun _ => fills_indicator _ _) (fills_indicator _ _)

theorem fills_blockScalar (isFolded : Bool) : Fills (blockScalar isFolded) :=
  .bind fun _ => .bind fun _ => .bind fun _ => .bind fun _ => .bind fun _ =>
    fills_ite (.bind fun _ => fills_push _ _ _) (fills_push _ _ _)

theorem fills_plainScalar : Fills plainScalar :=
  .bind fun _ => .bind fun _ => .bind fun _ => .bind fun _ => .bind fun _ =>
    fills_ite (.bind fun _ => fills_push _ _ _) (fills_push _ _ _)

theorem fills_directive : Fills directive := by
  refine .bind fun _ => .bind fun _ => .bind fun _ => .bind fun _ => .bind fun _ => .bind fun found => ?_
  obtain ⟨d, stop⟩ := found
  cases d with
  | yaml v => exact .bind fun _ => fills_push _ _ _
  | tag handle lead => exact fills_push _ _ _
  | reserved name => exact fills_push _ _ _

theorem fills_tokenAt (ch : Char) : Fills (tokenAt ch) := by
  have hmarker : ∀ kind, Fills (documentMarker kind) := fun _ => .bind fun _ => .bind fun _ => .bind fun _ =>
    fills_pushIndicator _ _
  have hstart : ∀ kind bracket, Fills (flowStart kind bracket) := fun _ _ => .bind fun _ => .bind fun _ =>
    fills_pushIndicator _ _
  have hend : ∀ kind, Fills (flowEnd kind) := fun _ => .bind fun _ => .bind fun _ => fills_pushIndicator _ _
  refine .bind fun _ => ?_
  refine fills_ite fills_directive (fills_ite (hmarker _) (fills_ite (hmarker _) ?_))
  refine fills_ite (hstart _ _) (fills_ite (hstart _ _) (fills_ite (hend _) (fills_ite (hend _) ?_)))
  refine fills_ite (fills_indicator _ _) (fills_ite ?_ (fills_ite ?_ (fills_ite fills_value ?_)))
  · exact .bind fun _ => fills_ite (.bind fun _ => fills_indicator _ _) (fills_indicator _ _)
  · exact .bind fun _ => fills_ite (.bind fun _ => fills_indicator _ _) (fills_indicator _ _)
  refine fills_ite (fills_keyCandidate _) (fills_ite (fills_keyCandidate _) (fills_ite (fills_keyCandidate _) ?_))
  refine fills_ite (fills_blockScalar _) (fills_ite (fills_blockScalar _) ?_)
  refine fills_ite (fills_keyCandidate _) (fills_ite (fills_keyCandidate _) (fills_ite fills_plainScalar ?_))
  exact .bind fun _ => fills_throw _

theorem fills_fetchHere : Fills fetchHere := by
  refine .bind fun _ => .bind fun _ => .bind fun _ => .bind fun found => ?_
  cases found with
  | none => exact .bind fun _ => .bind fun _ => .bind fun _ => fills_pushHere _
  | some ch => exact fills_tokenAt ch

/-! ## From line to line -/

theorem run_fetchHere_of_stale {s : TokenReader} (hstale : ∀ x ∈ s.keys, isStale s.cursor.mark x.2 = true)
    (hfree : ∀ x ∈ s.keys, x.2.required = false) : fetchHere.run s = fetchHere.run { s with keys := [] } := by
  have hnone : (s.keys.filter fun x => !isStale s.cursor.mark x.2) = [] := by
    rw [List.filter_eq_nil_iff]
    intro x hx
    rw [hstale x hx]
    decide
  have hdrop := run_dropStaleKeys (s := s) fun x hx _ => hfree x hx
  have hdrop' := run_dropStaleKeys (s := { s with keys := [] }) fun x hx => by cases hx
  rw [hnone] at hdrop
  rw [fetchHere, run_bind_ok hdrop, run_bind_ok hdrop']
  rfl

theorem free_of_fetchHere {s r : TokenReader} (hstale : ∀ x ∈ s.keys, isStale s.cursor.mark x.2 = true)
    (h : fetchHere.run s = .ok ((), r)) : ∀ x ∈ s.keys, x.2.required = false := by
  obtain ⟨_, _, hdrop, -⟩ := exists_of_run_bind_ok h
  exact fun x hx => (ensures_dropStaleKeys_eq _ _ hdrop).1 x hx (hstale x hx)

end Scan

open Scan Fork

variable {s s' r : TokenReader} {g g' : Cursor} {rest : List Released}

/-- At a place after a gap that has ended a line. -/
def TokenReader.movedTo (s : TokenReader) (g : Cursor) : TokenReader :=
    { s with cursor := g, keyAllowed := true, keys := [] }

/-- A reader outside flow collections that has just read a token. The next one starts at `g`. -/
structure TokenReader.Leaves (s : TokenReader) (g : Cursor) (allowed : Bool) : Prop where
  undone : s.done = false
  flow : s.flow = []
  queued : s.queue ≠ []
  last : s.queue.getLast?.any (·.kind == .value) = false
  offset : s.cursor.mark.offset ≠ 0
  gap : Gap s.cursor s.keyAllowed g allowed

/-- The next token starts on another line. -/
structure TokenReader.LeavesLine (s : TokenReader) (g : Cursor) : Prop extends s.Leaves g true where
  stale : ∀ x ∈ s.keys, isStale g.mark x.2 = true

namespace TokenReader.Leaves

variable {allowed : Bool}

theorem run_fetch (h : s.Leaves g allowed) (n : Nat) : fetch.run (s.cleared.released n) =
    fetchHere.run { s.cleared.released n with cursor := g, keyAllowed := allowed } := by
  rw [fetch_eq, run_bind_ok (Scan.run_skipToToken (s := s.cleared.released n) h.flow h.offset h.gap)]

/-- Some tokens of the queue are handed out before the next one is fetched. -/
theorem exists_fetchHere (h : s.Leaves g allowed) (hdrains : Drains s rest) : StaleFree s ∧
    ∃ n ≤ s.queue.length, ∃ r later,
      fetchHere.run { s.cleared.released n with cursor := g, keyAllowed := allowed } = .ok ((), r) ∧ Drains r later ∧
      rest = (s.queue.take n).map (⟨·, s.version⟩) ++ later := by
  obtain ⟨more, q, hmore⟩ := hdrains.exists_needsMore
  have hs := staleFree_of_needsMore h.undone h.queued hmore
  obtain ⟨n, r, later, hn, hfetch, hlater, rfl⟩ := Drains.exists_fetch (s := s.cleared) h.undone s.clear_cleared
    ((Drains.cleared_iff h.undone h.queued hs).2 hdrains)
  exact ⟨hs, n, hn, r, later, (h.run_fetch n).symm.trans hfetch, hlater, rfl⟩

/-- If the next token can be fetched the reader comes to it. -/
theorem exists_of_fetchHere (h : s.Leaves g allowed) (hs : StaleFree s) : ∃ n ≤ s.queue.length, ∀ r later,
    fetchHere.run { s.cleared.released n with cursor := g, keyAllowed := allowed } = .ok ((), r) → Drains r later →
      Drains s ((s.queue.take n).map (⟨·, s.version⟩) ++ later) := by
  obtain ⟨n, hn, hback⟩ := Drains.exists_of_fetch (s := s.cleared) h.undone s.clear_cleared
  refine ⟨n, hn, fun r later hfetch hlater => ?_⟩
  exact (Drains.cleared_iff h.undone h.queued hs).1 (hback r later ((h.run_fetch n).trans hfetch) hlater)

end TokenReader.Leaves

namespace TokenReader.LeavesLine

theorem stale_cleared (h : s.LeavesLine g) (n : Nat) :
    ∀ x ∈ ({ s.cleared.released n with cursor := g, keyAllowed := true } : TokenReader).keys, isStale g.mark x.2 = true :=
  fun x hx => h.stale x (List.mem_of_mem_filter hx)

/-- Some tokens of the queue are handed out before the next one is fetched. -/
theorem exists_fetchHere (h : s.LeavesLine g) (hdrains : Drains s rest) : (∀ x ∈ s.keys, x.2.required = false) ∧
    ∃ n ≤ s.queue.length, ∃ r later, fetchHere.run ((s.released n).movedTo g) = .ok ((), r) ∧ Drains r later ∧
      rest = (s.queue.take n).map (⟨·, s.version⟩) ++ later := by
  obtain ⟨hs, n, hn, r, later, hfetch, hlater, rfl⟩ := h.toLeaves.exists_fetchHere hdrains
  have hfree := free_of_fetchHere (h.stale_cleared n) hfetch
  rw [run_fetchHere_of_stale (h.stale_cleared n) hfree] at hfetch
  refine ⟨fun x hx => ?_, n, hn, r, later, hfetch, hlater, rfl⟩
  cases hstale : isStale s.cursor.mark x.2 with
  | true => exact hs x hx hstale
  | false => exact hfree x (List.mem_filter.2 ⟨hx, by rw [hstale]; rfl⟩)

/-- If the next token can be fetched the reader comes to it. -/
theorem exists_of_fetchHere (h : s.LeavesLine g) (hfree : ∀ x ∈ s.keys, x.2.required = false) :
    ∃ n ≤ s.queue.length, ∀ r later, fetchHere.run ((s.released n).movedTo g) = .ok ((), r) → Drains r later →
      Drains s ((s.queue.take n).map (⟨·, s.version⟩) ++ later) := by
  obtain ⟨n, hn, hback⟩ := h.toLeaves.exists_of_fetchHere fun x hx _ => hfree x hx
  refine ⟨n, hn, fun r later hfetch hlater => hback r later ?_ hlater⟩
  rw [run_fetchHere_of_stale (h.stale_cleared n) fun x hx => hfree x (List.mem_of_mem_filter hx)]
  exact hfetch

end TokenReader.LeavesLine

/-- Readers that have come to another line, each with tokens of its own left in its queue. -/
theorem Fork.twins_movedTo {F : Fork} (h : s.LeavesLine g) (h' : s'.LeavesLine g') (hbeside : F.Beside g g')
    (hindent : s'.indent = s.indent) (hindents : s'.indents = s.indents) (hversion : s'.version = s.version)
    (hcount : s'.taken + s'.queue.length = s.taken + s.queue.length) {n n' : Nat} (hn : n ≤ s.queue.length)
    (hn' : n' ≤ s'.queue.length) :
    F.Twins (s.queue.drop n) (s'.queue.drop n') ((s.released n).movedTo g) ((s'.released n').movedTo g') := by
  have hlast : ∀ {q : List Token} (k : Nat), q.getLast?.any (·.kind == .value) = false →
      (q.drop k).getLast?.any (·.kind == .value) = false := by
    intro q k hq
    rw [List.getLast?_drop]
    split
    · rfl
    · exact hq
  exact {
    cursor := hbeside
    flow := h'.flow.trans h.flow.symm
    indent := hindent
    indents := hindents
    keyAllowed := rfl
    keys := .nil
    fresh := fun x hx => by cases hx
    queue := ⟨[], [], (List.append_nil _).symm, (List.append_nil _).symm, .nil⟩
    taken := by
      simp only [TokenReader.movedTo, TokenReader.released, List.length_drop]
      omega
    last := by rw [hlast _ h.last, hlast _ h'.last]
    version := hversion
    done := h'.undone.trans h.undone.symm }

/-- Whatever two readers have read on a line, on the next one they go on alike. -/
theorem Fork.exists_drains_next {F : Fork} (hl : F.left = []) (h : s.LeavesLine g) (h' : s'.LeavesLine g')
    (hbeside : F.Beside g g') (hindent : s'.indent = s.indent) (hindents : s'.indents = s.indents)
    (hversion : s'.version = s.version) (hcount : s'.taken + s'.queue.length = s.taken + s.queue.length)
    (hfree : (∀ x ∈ s.keys, x.2.required = false) → ∀ x ∈ s'.keys, x.2.required = false)
    (hdirective : ¬(g.peek = some '%' ∧ g.mark.column = 0)) (hdrains : Drains s rest) : ∃ later later',
      rest = s.queue.map (⟨·, s.version⟩) ++ later ∧ Drains s' (s'.queue.map (⟨·, s.version⟩) ++ later') ∧
      List.Forall₂ (SameReleased F) later later' := by
  obtain ⟨hall, n, hn, r, later, hfetch, hlater, rfl⟩ := h.exists_fetchHere hdrains
  obtain ⟨n', hn', hback⟩ := h'.exists_of_fetchHere (hfree hall)
  have htwins := twins_movedTo h h' hbeside hindent hindents hversion hcount hn hn'
  obtain ⟨⟨⟩, r', hfetch', -, htwins'⟩ := follows_fetchHere htwins () r hfetch (.inl hl)
  obtain ⟨later, later', rfl, hlater', hsame⟩ := exists_drains_append hl htwins' (fills_fetchHere _ _ _ hfetch)
    (fills_fetchHere _ _ _ hfetch') hlater
  have hkept : r.version = s.version := ensures_fetchHere_version (s := (s.released n).movedTo g) hdirective _ _ hfetch
  refine ⟨later, later', ?_, ?_, hsame⟩
  · rw [hkept, ← List.append_assoc, ← List.map_append, List.take_append_drop]
  · have hback := hback r' _ hfetch' hlater'
    rwa [hkept, hversion, ← List.append_assoc, ← List.map_append, List.take_append_drop] at hback

theorem Released.map_token (q : List Token) (v : Version) : (q.map fun x => (⟨x, v⟩ : Released)).map (·.token) = q := by
  rw [List.map_map]
  exact List.map_id q

/-- The tokens in the queue come first. -/
theorem TokenReader.LeavesLine.queue_prefix (h : s.LeavesLine g) (hdrains : Drains s rest) :
    s.queue <+: rest.map (·.token) := by
  obtain ⟨hall, n, hn, r, later, hfetch, hlater, rfl⟩ := h.exists_fetchHere hdrains
  have hoffset : g.mark.offset ≠ 0 := by
    obtain ⟨k, hk⟩ := h.gap.isOn
    have := s.cursor.offset_le_skip k
    have := h.offset
    rw [hk]
    omega
  have hbeside : (shift g.mark g.mark hoffset hoffset).Beside g g := beside_shift rfl (Shifted.refl rfl)
  obtain ⟨⟨⟩, r', hfetch', -, htwins⟩ := follows_fetchHere (twins_movedTo h h hbeside rfl rfl rfl rfl hn hn)
    () r hfetch (.inl rfl)
  rw [hfetch] at hfetch'
  cases hfetch'
  have hfills := fills_fetchHere _ _ _ hfetch
  obtain ⟨later, -, rfl, -⟩ := exists_drains_append rfl htwins hfills hfills hlater
  refine ⟨later.map (·.token), ?_⟩
  rw [List.map_append, List.map_append, Released.map_token, Released.map_token, ← List.append_assoc, List.take_append_drop]

/-!
## What the next token says about the next line

If what comes after a token may end a node, it does not start deeper than the block around the token.
-/

namespace Scan

/-- Only ends of blocks are added. -/
structure AddsEnds (s r : TokenReader) : Prop where
  keys : r.keys = []
  taken : r.taken = s.taken
  cursor : r.cursor = s.cursor
  queue : ∃ ends, r.queue = s.queue ++ ends ∧ ∀ y ∈ ends, y.kind = .blockEnd

theorem AddsEnds.refl (hkeys : s.keys = []) : AddsEnds s s :=
  ⟨hkeys, rfl, rfl, [], (List.append_nil _).symm, fun y hy => by cases hy⟩

theorem AddsEnds.trans {q : TokenReader} (h : AddsEnds s q) (h' : AddsEnds q r) : AddsEnds s r := by
  obtain ⟨ends, hq, hends⟩ := h.queue
  obtain ⟨ends', hq', hends'⟩ := h'.queue
  refine ⟨h'.keys, h'.taken.trans h.taken, h'.cursor.trans h.cursor, ends ++ ends', by rw [hq', hq, List.append_assoc], ?_⟩
  exact List.forall_mem_append.2 ⟨hends, hends'⟩

theorem addsEnds_closeBlocks (column : Int) (outers : List Int) (hkeys : s.keys = []) :
    Ensures (closeBlocks column outers) s fun _ r => AddsEnds s r := by
  induction outers generalizing s with
  | nil => exact (ensures_pure _).2 (.refl hkeys)
  | cons outer outers ih =>
    simp only [closeBlocks, ensures_bind, ensures_get, ensures_ite, ensures_pushHere, ensures_modify, ensures_pure]
    refine ⟨fun _ => ?_, fun _ => .refl hkeys⟩
    let q : TokenReader := { s with
      queue := s.queue ++ [⟨.blockEnd, s.cursor.mark, s.cursor.mark⟩], indent := outer, indents := outers }
    have hq : AddsEnds s q := ⟨hkeys, rfl, rfl, _, rfl, fun y hy => by rw [List.mem_singleton.1 hy]⟩
    exact (ih (s := q) hkeys).imp fun _ _ h => hq.trans h

theorem addsEnds_unwind (column : Int) (hkeys : s.keys = []) : Ensures (unwind column) s fun _ r => AddsEnds s r := by
  simp only [unwind, ensures_bind, ensures_inFlow, ensures_ite, ensures_get, ensures_pure]
  exact ⟨fun _ => addsEnds_closeBlocks _ _ hkeys, fun _ => .refl hkeys⟩

/-- A directive comes after the ends of all blocks. -/
theorem ensures_fetchHere_directive (hkeys : s.keys = []) (hpeek : s.cursor.peek = some '%')
    (hcolumn : s.cursor.mark.column = 0) : Ensures fetchHere s fun _ r => r.keys = [] ∧ r.taken = s.taken ∧
      ∃ ends x, r.queue = s.queue ++ (ends ++ [x]) ∧ (∀ y ∈ ends, y.kind = .blockEnd) ∧ x.kind.isCloser = false := by
  have hempty : ∀ (s : TokenReader) (p : Nat × SimpleKey → Bool), s.keys = [] → s.keys.filter p = [] := by
    intro s p h
    rw [h]
    rfl
  rw [fetchHere, ensures_bind, ensures_dropStaleKeys]
  intro _
  rw [ensures_bind, ensures_mark, ensures_bind]
  refine (addsEnds_unwind _ (hempty s _ hkeys)).imp fun _ q hq => ?_
  have hcursor : q.cursor = s.cursor := hq.cursor
  rw [ensures_bind, ensures_peek, hcursor, hpeek]
  dsimp only
  rw [tokenAt, ensures_bind, ensures_get]
  dsimp only
  rw [hcursor, if_pos (by rw [hcolumn]; rfl), directive, ensures_bind]
  refine (addsEnds_unwind _ hq.keys).imp fun _ u hu => ?_
  obtain ⟨-, htaken, -, ends, hqueue, hends⟩ := hq.trans hu
  rw [ensures_bind, ensures_dropKey]
  intro _
  rw [ensures_bind, ensures_allowKey, ensures_bind, ensures_mark, ensures_bind, ensures_get, ensures_bind, ensures_lex]
  rintro ⟨d, stop⟩ c -
  have hpush : ∀ (v : TokenReader), v.keys = [] → v.taken = s.taken → v.queue = u.queue →
    Ensures (push (.directive d) u.cursor.mark stop) v
      fun _ r => r.keys = [] ∧ r.taken = s.taken ∧ ∃ ends x, r.queue = s.queue ++ (ends ++ [x]) ∧
        (∀ y ∈ ends, y.kind = .blockEnd) ∧ x.kind.isCloser = false := by
    intro v hv hvt hvq
    rw [ensures_push]
    refine ⟨hv, hvt, ends, ⟨.directive d, u.cursor.mark, stop⟩, ?_, hends, rfl⟩
    dsimp only
    rw [hvq, hqueue, List.append_assoc]
  cases d with
  | yaml v =>
    rw [ensures_bind, ensures_modify]
    exact hpush _ (hempty u _ hu.keys) htaken rfl
  | tag handle lead => exact hpush _ (hempty u _ hu.keys) htaken rfl
  | reserved name => exact hpush _ (hempty u _ hu.keys) htaken rfl

end Scan

/-- What the first token after the ends of blocks is, if there is one. -/
def afterEnds (xs : List Released) : Option TokenKind := (xs.map (·.token.kind)).find? (· != .blockEnd)

theorem afterEnds_append {ends more : List Released} {x : Released} (hends : ∀ y ∈ ends, y.token.kind = .blockEnd)
    (hx : x.token.kind ≠ .blockEnd) : afterEnds (ends ++ x :: more) = some x.token.kind := by
  induction ends with
  | nil => rw [afterEnds, List.nil_append, List.map_cons, List.find?_cons_of_pos (by simpa using hx)]
  | cons y ends ih =>
    rw [← ih fun z hz => hends z (.tail _ hz), afterEnds, List.cons_append, List.map_cons,
      List.find?_cons_of_neg (by simp [hends y (.head _)])]
    rfl

/-- What is no closer cannot come next where only closers may. -/
theorem isCloser_of_afterEnds {ends more : List Released} {x : Released} (hends : ∀ y ∈ ends, y.token.kind = .blockEnd)
    (hcloser : ∀ kind ∈ afterEnds (ends ++ x :: more), kind.isCloser = true) : x.token.kind.isCloser = true := by
  by_cases hx : x.token.kind = .blockEnd
  · rw [hx]
    rfl
  · exact hcloser _ (afterEnds_append hends hx)

namespace TokenReader.LeavesLine

/-- After the tokens of the queue come those the next step adds. -/
theorem exists_drains_added (h : s.LeavesLine g) (hdrains : Drains s rest) : ∃ n r later,
    fetchHere.run ((s.released n).movedTo g) = .ok ((), r) ∧ Drains r later ∧
      rest.drop s.queue.length = later.drop ((s.released n).movedTo g).queue.length := by
  obtain ⟨-, n, hn, r, later, hfetch, hlater, rfl⟩ := h.exists_fetchHere hdrains
  refine ⟨n, r, later, hfetch, hlater, ?_⟩
  rw [List.drop_append, List.drop_eq_nil_of_le (by simp), List.nil_append, List.length_map, List.length_take,
    Nat.min_eq_left hn]
  simp only [TokenReader.movedTo, TokenReader.released, List.length_drop]

/-- A directive ends no node. -/
theorem not_directive_of_isCloser (h : s.LeavesLine g) (hdrains : Drains s rest)
    (hcloser : ∀ kind ∈ afterEnds (rest.drop s.queue.length), kind.isCloser = true) :
    ¬(g.peek = some '%' ∧ g.mark.column = 0) := by
  rintro ⟨hpeek, hcolumn⟩
  obtain ⟨n, r, later, hfetch, hlater, hdrop⟩ := h.exists_drains_added hdrains
  obtain ⟨hkeys, htaken, ends, x, hqueue, hends, hx⟩ := ensures_fetchHere_directive (s := (s.released n).movedTo g) rfl
    hpeek hcolumn _ _ hfetch
  obtain ⟨more, rfl, -⟩ := (Drains.append_iff (.inr fun y hy => by rw [hkeys] at hy; cases hy)
    (List.append_nil r.queue).symm fun y hy => by rw [hkeys] at hy; cases hy).1 hlater
  rw [hdrop, hqueue, List.map_append, List.append_assoc, List.drop_left' (List.length_map _), List.map_append,
    List.append_assoc] at hcloser
  have hx' := isCloser_of_afterEnds (fun y hy => ?_) hcloser
  · exact Bool.false_ne_true (hx.symm.trans hx')
  · obtain ⟨z, hz, rfl⟩ := List.mem_map.1 hy
    exact hends z hz

/-- What starts deeper than the block does not end a node. -/
theorem next_of_isCloser (h : s.LeavesLine g) (hdrains : Drains s rest)
    (hcloser : ∀ kind ∈ afterEnds (rest.drop s.queue.length), kind.isCloser = true) :
    ¬(g.peek = some '%' ∧ g.mark.column = 0) ∧
      (g.peek = none ∨ (g.mark.column : Int) < s.indent + 1 ∨ g.mark.column = 0 ∧ g.atSeparator = true) := by
  have hdirective := h.not_directive_of_isCloser hdrains hcloser
  refine ⟨hdirective, ?_⟩
  by_contra hdeep
  simp only [not_or, not_lt] at hdeep
  obtain ⟨hpeek, hcolumn, hseparator⟩ := hdeep
  obtain ⟨n, r, later, hfetch, hlater, hdrop⟩ := h.exists_drains_added hdrains
  have hisDeep : IsDeep ((s.released n).movedTo g) := ⟨h.flow, rfl, rfl, Int.lt_iff_add_one_le.2 hcolumn⟩
  have hdeeper := ensures_fetchHere_begins hisDeep hpeek hdirective hseparator _ _ hfetch
  obtain ⟨k, hk⟩ := (goesOn_fetchHere _ _ _ hfetch).cursor
  have hat : IsAt g.mark r.cursor := by
    rw [hk]
    exact IsAt.skip (c := g) (.inr ⟨rfl, Nat.le_refl _⟩) k
  obtain ⟨x, hx, hopener⟩ := hlater.exists_begins hdeeper hat
  rw [Nat.add_sub_cancel_left] at hx
  obtain ⟨hlt, hx⟩ := List.getElem?_eq_some_iff.1 hx
  rw [hdrop, List.drop_eq_getElem_cons hlt, hx] at hcloser
  exact Bool.false_ne_true (hopener.symm.trans (isCloser_of_afterEnds (List.forall_mem_nil _) hcloser))

end TokenReader.LeavesLine

/-!
## The end of a text

At the end of a text only the ends of blocks and of the stream come, whatever the place is.
-/

variable {allowed : Bool}

/-- How many blocks are open. -/
def openBlocks : Int → List Int → Nat
  | _, [] => 0
  | indent, outer :: outers => if -1 < indent then openBlocks outer outers + 1 else 0

/-- The ends of all blocks, and that of the stream. -/
def endTokens (s : TokenReader) (m : Mark) : List Token :=
  List.replicate (openBlocks s.indent s.indents) (.mark0 .blockEnd m) ++ [.mark0 .streamEnd m]

namespace Scan

/-- With the ends of some blocks; the others are still open. -/
structure Unwound (column : Int) (s r : TokenReader) : Prop where
  eq : ∃ k, openBlocks s.indent s.indents = k + openBlocks r.indent r.indents ∧ r = { s with
    queue := s.queue ++ List.replicate k (.mark0 .blockEnd s.cursor.mark), indent := r.indent, indents := r.indents }
  closed : column = -1 → openBlocks r.indent r.indents = 0

theorem exists_run_closeBlocks {column : Int} (hcolumn : -1 ≤ column) (s : TokenReader) :
    ∃ r, (closeBlocks column s.indents).run s = .ok ((), r) ∧ Unwound column s r := by
  generalize houters : s.indents = outers
  induction outers generalizing s with
  | nil =>
    refine ⟨s, rfl, ⟨0, by simp, ?_⟩, fun _ => by rw [houters]; rfl⟩
    rw [List.replicate_zero, List.append_nil]
  | cons outer outers ih =>
    have hrun : (closeBlocks column (outer :: outers)).run s = (if column < s.indent then (do
        pushHere .blockEnd
        modify fun s => { s with indent := outer, indents := outers }
        closeBlocks column outers) else pure () : Scan Unit).run s := rfl
    rw [hrun]
    split
    · next hlt =>
      let q : TokenReader := { s with
        queue := s.queue ++ [.mark0 .blockEnd s.cursor.mark], indent := outer, indents := outers }
      obtain ⟨r, hr, ⟨k, hk, hq⟩, hclosed⟩ := ih q rfl
      refine ⟨r, hr, ⟨k + 1, ?_, ?_⟩, hclosed⟩
      · rw [houters, openBlocks, if_pos (by omega), hk]
        omega
      · rw [hq, List.replicate_succ, ← List.singleton_append, ← List.append_assoc]
    · next hge =>
      refine ⟨s, rfl, ⟨0, by simp, ?_⟩, fun hminus => ?_⟩
      · rw [List.replicate_zero, List.append_nil]
      · rw [houters, openBlocks, if_neg (by omega)]

theorem exists_run_unwind (column : Int) (hcolumn : -1 ≤ column) (hflow : s.flow = []) :
    ∃ r, (unwind column).run s = .ok ((), r) ∧ Unwound column s r := by
  obtain ⟨r, hr, hunwound⟩ := exists_run_closeBlocks hcolumn s
  refine ⟨r, ?_, hunwound⟩
  have hrun : (unwind column).run s =
      (if (!!s.flow.isEmpty) = true then (do closeBlocks column (← get).indents) else pure ()).run s := rfl
  rw [hrun, if_pos (by rw [hflow]; rfl)]
  exact hr

/-- One possible key at most, at the outermost depth. -/
def LoneKey (keys : List (Nat × SimpleKey)) : Prop := keys = [] ∨ ∃ key, keys = [(0, key)]

theorem LoneKey.filter {keys : List (Nat × SimpleKey)} (h : LoneKey keys) (p : Nat × SimpleKey → Bool) :
    LoneKey (keys.filter p) := by
  rcases h with rfl | ⟨key, rfl⟩
  · exact .inl rfl
  · rw [List.filter_cons, List.filter_nil]
    split
    · exact .inr ⟨key, rfl⟩
    · exact .inl rfl

theorem loneKey_of_le {keys : List (Nat × SimpleKey)} (hsorted : keys.Pairwise fun x y => x.1 < y.1)
    (hle : ∀ x ∈ keys, x.1 ≤ 0) : LoneKey keys := by
  cases keys with
  | nil => exact .inl rfl
  | cons x keys =>
    obtain ⟨d, key⟩ := x
    obtain rfl : d = 0 := Nat.le_zero.1 (hle _ (.head _))
    refine .inr ⟨key, ?_⟩
    rw [List.cons_eq_cons]
    refine ⟨rfl, List.eq_nil_iff_forall_not_mem.2 fun y hy => ?_⟩
    have := List.rel_of_pairwise_cons hsorted hy
    have := hle y (.tail _ hy)
    omega

theorem loneKey_saveKey (hkeys : LoneKey s.keys) (hflow : s.flow = []) (h : saveKey.run s = .ok ((), r)) :
    LoneKey r.keys := by
  refine (ensures_saveKey (Q := fun _ r => LoneKey r.keys)).2 ⟨fun _ _ => ?_, fun _ => hkeys⟩ _ _ h
  rcases hkeys with hnil | ⟨key, hkey⟩
  · rw [hnil, hflow]
    exact .inr ⟨_, rfl⟩
  · rw [hkey, hflow]
    exact .inr ⟨_, rfl⟩

/-- At the end of a text no possible key may need to be made good. -/
theorem free_of_fetchHere_end (hflow : s.flow = []) (hpeek : s.cursor.peek = none) (hkeys : LoneKey s.keys)
    (h : fetchHere.run s = .ok ((), r)) : ∀ x ∈ s.keys, x.2.required = false := by
  obtain ⟨⟨⟩, q, hdrop, hrun⟩ := exists_of_run_bind_ok h
  obtain ⟨hstale, rfl⟩ := ensures_dropStaleKeys_eq _ _ hdrop
  obtain ⟨u, hu, ⟨k, -, hueq⟩, -⟩ := exists_run_unwind
    (s := { s with keys := s.keys.filter fun x => !isStale s.cursor.mark x.2 }) s.cursor.mark.column (by omega) hflow
  rw [run_bind_ok (a := s.cursor.mark) rfl, run_bind_ok hu, run_bind_ok (a := none) (r := u) (by rw [hueq]; rw [← hpeek]; rfl)]
    at hrun
  obtain ⟨v, hv, ⟨l, -, hveq⟩, -⟩ := exists_run_unwind (s := u) (-1) (by omega) (by rw [hueq]; exact hflow)
  change streamEnd.run u = _ at hrun
  rw [streamEnd, run_bind_ok hv] at hrun
  obtain ⟨⟨⟩, w, hdropKey, -⟩ := exists_of_run_bind_ok hrun
  have hfree := (ensures_dropKey_eq _ _ hdropKey).1
  intro x hx
  cases hold : isStale s.cursor.mark x.2 with
  | true => exact hstale x hx hold
  | false =>
    refine hfree x.2 ?_
    rw [hveq, hueq]
    rcases hkeys with hnil | ⟨key, hkey⟩
    · rw [hnil] at hx
      cases hx
    · rw [hkey] at hx ⊢
      obtain rfl := List.mem_singleton.1 hx
      rw [List.filter_cons_of_pos (by rw [hold]; rfl), hflow]
      rfl

theorem run_fetchHere_end (hflow : s.flow = []) (hpeek : s.cursor.peek = none)
    (hfree : ∀ x ∈ s.keys, x.2.required = false) : ∃ r, fetchHere.run s = .ok ((), r) ∧ r.done = true ∧
      r.version = s.version ∧ r.queue = s.queue ++ endTokens s s.cursor.mark := by
  have hdrop := run_dropStaleKeys (s := s) fun x hx _ => hfree x hx
  obtain ⟨u, hu, ⟨k, hk, hueq⟩, -⟩ := exists_run_unwind
    (s := { s with keys := s.keys.filter fun x => !isStale s.cursor.mark x.2 }) s.cursor.mark.column (by omega) hflow
  have huflow : u.flow = [] := by rw [hueq]; exact hflow
  obtain ⟨v, hv, ⟨l, hl, hveq⟩, hclosed⟩ := exists_run_unwind (s := u) (-1) (by omega) huflow
  have hdropKey := run_dropKey (s := v) fun key hkey => by
    have hmem := KeysHold.mem_of_lookup hkey
    rw [hveq, hueq] at hmem
    exact hfree _ (List.mem_of_mem_filter hmem)
  refine ⟨{ v with
    keyAllowed := false, keys := [], done := true, queue := v.queue ++ [.mark0 .streamEnd v.cursor.mark] }, ?_, rfl, ?_, ?_⟩
  · rw [fetchHere, run_bind_ok hdrop, run_bind_ok (a := s.cursor.mark) rfl, run_bind_ok hu,
      run_bind_ok (a := none) (r := u) (by rw [hueq]; rw [← hpeek]; rfl)]
    change streamEnd.run u = _
    rw [streamEnd, run_bind_ok hv, run_bind_ok hdropKey]
    rfl
  · rw [hveq, hueq]
  · rw [hclosed rfl, Nat.add_zero] at hl
    have hcursor : u.cursor = s.cursor := by rw [hueq]
    have hqueue : u.queue = s.queue ++ List.replicate k (.mark0 .blockEnd s.cursor.mark) := by rw [hueq]
    have hcount : openBlocks s.indent s.indents = k + l := by rw [← hl]; exact hk
    rw [hveq, hcursor, hqueue, endTokens, hcount, List.replicate_add]
    simp only [List.append_assoc]

end Scan

namespace TokenReader.Leaves

/-- At the end of the text the reader hands out its queue, the ends of all blocks and that of the stream. -/
theorem drains_end (h : s.Leaves g allowed) (hpeek : g.peek = none) (hfree : ∀ x ∈ s.keys, x.2.required = false) :
    Drains s ((s.queue ++ endTokens s g.mark).map (⟨·, s.version⟩)) := by
  obtain ⟨n, hn, hback⟩ := h.exists_of_fetchHere fun x hx _ => hfree x hx
  obtain ⟨r, hfetch, hdone, hversion, hqueue⟩ := run_fetchHere_end
    (s := { s.cleared.released n with cursor := g, keyAllowed := allowed }) h.flow hpeek
    fun x hx => hfree x (List.mem_of_mem_filter hx)
  have hdrains := hback r _ hfetch (.of_done hdone hqueue)
  rw [hversion] at hdrains
  have hsplit : s.queue ++ endTokens s g.mark = s.queue.take n ++ (s.queue.drop n ++ endTokens s g.mark) := by
    rw [← List.append_assoc, List.take_append_drop]
  rw [hsplit, List.map_append]
  exact hdrains

theorem eq_of_drains_end (h : s.Leaves g allowed) (hpeek : g.peek = none) (hkeys : LoneKey s.keys) (hdrains : Drains s rest) :
    (∀ x ∈ s.keys, x.2.required = false) ∧ rest = (s.queue ++ endTokens s g.mark).map (⟨·, s.version⟩) := by
  have hfree : ∀ x ∈ s.keys, x.2.required = false := by
    obtain ⟨hs, n, -, r, later, hfetch, -, -⟩ := h.exists_fetchHere hdrains
    have hcleared := free_of_fetchHere_end (s := { s.cleared.released n with cursor := g, keyAllowed := allowed }) h.flow hpeek
      (hkeys.filter _) hfetch
    intro x hx
    cases hstale : isStale s.cursor.mark x.2 with
    | true => exact hs x hx hstale
    | false => exact hcleared x (List.mem_filter.2 ⟨hx, by rw [hstale]; rfl⟩)
  exact ⟨hfree, hdrains.unique (h.drains_end hpeek hfree)⟩

end TokenReader.Leaves

end YamlStyle.Yaml
