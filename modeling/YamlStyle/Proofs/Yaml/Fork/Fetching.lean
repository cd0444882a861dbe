import YamlStyle.Proofs.Yaml.Fork.Tokens

/-!
# Fetching before a fork

Whatever one of two readers fetches at the same place of two texts that part, the other fetches as well, unless that
takes the first one past the place where the texts part.
-/

namespace YamlStyle.Yaml.Scan

open Fork

variable {F : Fork} {old old' : List Token} {s s' : TokenReader} {ch : Char}

/-! ## Boundaries and indicators -/

theorem follows_streamEnd (h : F.Twins old old' s s') :
    Follows anywhere streamEnd s streamEnd s' (F.Still old old' s.cursor) := by
  rw [streamEnd]
  refine .bind (follows_unwind h) ?_
  rintro - r - r' ⟨-, hr, hcursor⟩
  refine .bind (follows_dropKey hr) ?_
  rintro - q - q' ⟨-, hq, hcursor'⟩
  rw [← hcursor, ← hcursor']
  have hend : F.Twins old old' { q with keyAllowed := false, keys := [], done := true }
      { q' with keyAllowed := false, keys := [], done := true } :=
    { hq with keyAllowed := rfl, keys := .nil, fresh := fun x hx => absurd hx List.not_mem_nil, done := rfl }
  exact follows_modify (follows_pushHere hend _)

/-- What is done after the blocks are closed and the possible key is dropped. -/
theorem follows_boundary {α : Type} {f : Unit → Scan α} {Q : α → TokenReader → α → TokenReader → Prop}
    {G : TokenReader → Prop} (h : F.Twins old old' s s')
    (hf : ∀ r r', F.Twins old old' r r' → r.cursor = s.cursor → Follows G (f ()) r (f ()) r' Q) :
    Follows G (unwind (-1) >>= fun _ => dropKey >>= fun _ => allowKey false >>= f) s
      (unwind (-1) >>= fun _ => dropKey >>= fun _ => allowKey false >>= f) s' Q := by
  refine .bind (follows_unwind h) ?_
  rintro - r - r' ⟨-, hr, hcursor⟩
  refine .bind (follows_dropKey hr) ?_
  rintro - q - q' ⟨-, hq, hcursor'⟩
  exact follows_allowKey (hf _ _ (hq.allow false) (hcursor'.trans hcursor))

theorem follows_directive (h : F.Twins old old' s s') (hb : F.Before 1 s.cursor) (hch : s.cursor.peek = some ch)
    (hne : ch ≠ ' ') : Follows F.Near directive s directive s' (F.Level old old') := by
  rw [directive]
  refine follows_boundary h fun r r' hr hcursor => follows_mark (follows_get ?_)
  rw [hr.version]
  rw [← hcursor] at hb hch
  refine follows_lex (Lex.follows_directive hr.cursor hb hch hne) (fun found => GoesOn.back ?_) ?_
  · obtain ⟨d, stop⟩ := found
    cases d with
    | yaml v =>
      exact Respects.bind (goesOn_modify (f := fun s => { s with version := v }) (fun _ => rfl) fun _ => rfl) fun _ =>
        goesOn_push _ _ _
    | tag handle lead => exact goesOn_push _ _ _
    | reserved name => exact goesOn_push _ _ _
  rintro ⟨d, stop⟩ c ⟨d', stop'⟩ c' ⟨heq, hstop, hc⟩
  obtain rfl : d' = d := heq
  have hpush : ∀ {q q' : TokenReader}, F.Twins old old' q q' →
      Follows F.Near (push (.directive d') r.cursor.mark stop) q (push (.directive d') r'.cursor.mark stop') q'
        (F.Level old old') := fun hq =>
    (follows_push hq (.directive d') hr.cursor.marks hstop).imp fun a r b r' _ hr => ⟨hr.1, hr.2.1⟩
  cases d' with
  | yaml v => exact follows_modify (hpush { hr.move hc with version := rfl })
  | tag handle lead => exact hpush (hr.move hc)
  | reserved name => exact hpush (hr.move hc)

theorem follows_documentMarker {kind : TokenKind} (h : F.Twins old old' s s') (hw : F.Before 3 s.cursor) :
    Follows anywhere (documentMarker kind) s (documentMarker kind) s' (F.Level old old') := by
  rw [documentMarker]
  refine follows_boundary h fun r r' hr hcursor => ?_
  rw [← hcursor] at hw
  exact follows_pushIndicator hr kind hw

theorem follows_flowStart {kind : TokenKind} {bracket : Bracket} (h : F.Twins old old' s s') (hw : F.Before 1 s.cursor) :
    Follows anywhere (flowStart kind bracket) s (flowStart kind bracket) s' (F.Level old old') := by
  rw [flowStart]
  refine .bind (follows_saveKey h) ?_
  rintro - r - r' ⟨-, hr, hcursor⟩
  rw [← hcursor] at hw
  have hopen : F.Twins old old' { r with flow := bracket :: r.flow, keyAllowed := true }
      { r' with flow := bracket :: r'.flow, keyAllowed := true } := { hr with flow := by rw [hr.flow], keyAllowed := rfl }
  exact follows_modify (follows_pushIndicator hopen kind hw)

theorem follows_flowEnd {kind : TokenKind} (h : F.Twins old old' s s') (hw : F.Before 1 s.cursor) :
    Follows anywhere (flowEnd kind) s (flowEnd kind) s' (F.Level old old') := by
  rw [flowEnd]
  refine .bind (follows_dropKey h) ?_
  rintro - r - r' ⟨-, hr, hcursor⟩
  rw [← hcursor] at hw
  have hclose : F.Twins old old' { r with flow := r.flow.tail, keyAllowed := false }
      { r' with flow := r'.flow.tail, keyAllowed := false } := { hr with flow := by rw [hr.flow], keyAllowed := rfl }
  exact follows_modify (follows_pushIndicator hclose kind hw)

/-- An indicator after which a key is allowed or not. -/
theorem follows_indicator {allowed : Bool} {kind : TokenKind} (h : F.Twins old old' s s') (hw : F.Before 1 s.cursor) :
    Follows anywhere (do allowKey allowed; dropKey; pushIndicator kind 1) s
      (do allowKey allowed; dropKey; pushIndicator kind 1) s' (F.Level old old') := by
  refine follows_allowKey (.bind (follows_dropKey (h.allow allowed)) ?_)
  rintro - r - r' ⟨-, hr, hcursor⟩
  rw [show s.cursor = r.cursor from hcursor.symm] at hw
  exact follows_pushIndicator hr kind hw

theorem follows_blockEntry (h : F.Twins old old' s s') (hw : F.Before 1 s.cursor) :
    Follows anywhere blockEntry s blockEntry s' (F.Level old old') := by
  rw [blockEntry]
  refine follows_inFlow ?_
  rw [h.flow]
  refine follows_ite Iff.rfl (fun _ => .bind (follows_openBlock h) ?_) fun _ => follows_indicator h hw
  rintro - r - r' ⟨-, hr, hcursor⟩
  rw [← hcursor] at hw
  exact follows_indicator hr hw

theorem follows_explicitKey (h : F.Twins old old' s s') (hw : F.Before 1 s.cursor) :
    Follows anywhere explicitKey s explicitKey s' (F.Level old old') := by
  rw [explicitKey]
  refine follows_inFlow ?_
  rw [h.flow]
  refine follows_ite Iff.rfl (fun _ => .bind (follows_openBlock h) ?_) fun _ => follows_indicator h hw
  rintro - r - r' ⟨-, hr, hcursor⟩
  rw [← hcursor] at hw
  exact follows_indicator hr hw

theorem follows_value (h : F.Twins old old' s s') (hw : F.Before 1 s.cursor) :
    Follows anywhere value s value s' (F.Level old old') := by
  rw [value]
  refine follows_get ?_
  have hempty : (!s'.flow.isEmpty) = !s.flow.isEmpty := by rw [h.flow]
  have hpush : ∀ {r r' : TokenReader}, F.Twins old old' r r' → r.cursor = s.cursor →
      Follows anywhere (pushIndicator .value 1) r (pushIndicator .value 1) r' (F.Level old old') := by
    intro r r' hr hcursor
    rw [← hcursor] at hw
    exact follows_pushIndicator hr .value hw
  rcases Twins.lookup h.keys s.flow.length with ⟨hl, hl'⟩ | ⟨key, key', hl, hl', hkey⟩
  · rw [← h.flow] at hl'
    simp only [hl, hl', hempty]
    have hrest : ∀ {r r' : TokenReader}, F.Twins old old' r r' → r.cursor = s.cursor →
        Follows anywhere (do allowKey (!!s.flow.isEmpty); dropKey; pushIndicator .value 1) r
          (do allowKey (!!s.flow.isEmpty); dropKey; pushIndicator .value 1) r' (F.Level old old') := by
      intro r r' hr hcursor
      rw [← hcursor] at hw
      exact follows_indicator hr hw
    refine follows_ite Iff.rfl (fun _ => .bind (follows_openBlock h) ?_) fun _ => hrest h rfl
    rintro - r - r' ⟨-, hr, hcursor⟩
    exact hrest hr hcursor
  · rw [← h.flow] at hl'
    simp only [hl, hl', hempty]
    have hmem : (s.flow.length, key) ∈ s.keys := KeysHold.mem_of_lookup hl
    have hfresh := h.fresh _ hmem
    have hend : ∀ {r r' : TokenReader}, F.Twins old old' r r' → r.cursor = s.cursor →
        Follows anywhere (do allowKey false; pushIndicator .value 1) r (do allowKey false; pushIndicator .value 1) r'
          (F.Level old old') := fun hr hcursor => follows_allowKey (hpush (hr.allow false) hcursor)
    have hnumber : key'.number = key.number := hkey.number
    have hfilter := h.filter (p := (·.1 != s.flow.length)) (q := (·.1 != s'.flow.length)) fun x x' hx => by
      rw [hx.depth, h.flow]
    rw [hnumber, F.column hkey.marks]
    refine follows_set (.bind ((follows_insertBefore hfilter hfresh hkey.marks).and_ensures
      ((ensures_insertBefore _ _ _ (Q := fun _ r => r.taken = s.taken)).2 rfl)) ?_)
    rintro - r - r' ⟨⟨-, hr, hcursor⟩, htaken⟩
    refine follows_ite Iff.rfl (fun _ => .bind ((follows_indentTo hr).and_ensures
      ((ensures_indentTo _ (Q := fun _ q => q.taken = s.taken)).2 ⟨fun _ => htaken, fun _ => htaken⟩)) ?_) fun _ =>
      hend hr hcursor
    rintro opens q _ q' ⟨⟨rfl, hq, hcursor'⟩, htaken'⟩
    refine follows_ite Iff.rfl (fun _ => .bind (follows_insertBefore hq (by rw [htaken']; exact hfresh) hkey.marks) ?_)
      fun _ => hend hq (hcursor'.trans hcursor)
    rintro - p - p' ⟨-, hp, hcursor''⟩
    exact hend hp (hcursor''.trans (hcursor'.trans hcursor))

/-! ## Content -/

/-- A token that may start a key. -/
theorem follows_keyCandidate {read : Lex TokenKind} (h : F.Twins old old' s s')
    (hread : ∀ c', F.Beside s.cursor c' →
      Follows (F.Before 0) read s.cursor read c' fun a d b d' => b = a ∧ F.Beside d d') :
    Follows F.Near (keyCandidate read) s (keyCandidate read) s' (F.Level old old') := by
  rw [keyCandidate]
  refine .bind (follows_saveKey h) ?_
  rintro - r - r' ⟨-, hr, hcursor⟩
  have hc := hr.cursor
  rw [hcursor] at hc
  refine follows_allowKey (follows_mark (follows_lex (H := F.Before 0) (R := fun a d b d' => b = a ∧ F.Beside d d') ?_
    (fun _ => GoesOn.back ((respects_lex Lex.reads_mark).bind fun _ => goesOn_push _ _ _)) ?_))
  · rw [show ({ r with keyAllowed := false } : TokenReader).cursor = s.cursor from hcursor]
    exact hread _ hc
  rintro kind d _ d' ⟨rfl, hd⟩
  refine follows_mark ((follows_push ((hr.allow false).move hd) _ hr.cursor.marks hd.marks).imp ?_)
  exact fun a q b q' _ hq => ⟨hq.1, hq.2.1⟩

theorem follows_blockScalar {isFolded : Bool} (h : F.Twins old old' s s') (hb : F.Before 1 s.cursor)
    (hch : s.cursor.peek = some ch) (hne : ch ≠ ' ') :
    Follows F.Near (blockScalar isFolded) s (blockScalar isFolded) s' (F.Level old old') := by
  rw [blockScalar]
  refine follows_allowKey (.bind (follows_dropKey (h.allow true)) ?_)
  rintro - r - r' ⟨-, hr, hcursor⟩
  have hcursor : r.cursor = s.cursor := hcursor
  rw [← hcursor] at hb hch
  refine follows_mark (follows_get ?_)
  rw [hr.indent]
  refine follows_lex (Lex.follows_blockScalar hr.cursor hb hch hne) (fun found => GoesOn.back ?_) ?_
  · exact respects_ite (respects_skipToToken.bind fun _ => goesOn_push _ _ _) (goesOn_push _ _ _)
  rintro ⟨value, stop, blankLines⟩ d ⟨value', stop', blankLines'⟩ d' ⟨hvalue, hstop, hblank, hd⟩
  obtain rfl : value' = value := hvalue
  obtain rfl : blankLines' = blankLines := hblank
  have hpush : ∀ {q q' : TokenReader}, F.Twins old old' q q' → Follows F.Near
      (push (.scalar value' (if isFolded then .folded else .literal)) r.cursor.mark stop) q
      (push (.scalar value' (if isFolded then .folded else .literal)) r'.cursor.mark stop') q' (F.Level old old') := fun hq =>
    (follows_push hq _ hr.cursor.marks hstop).imp fun a r b r' _ hr => ⟨hr.1, hr.2.1⟩
  refine follows_ite Iff.rfl (fun _ => ?_) fun _ => hpush (hr.move hd)
  refine .bind_within (follows_skipToToken (hr.move hd)) (fun _ => (goesOn_push _ _ _).back) ?_
  rintro - q - q' - ⟨-, hq⟩
  exact hpush hq

theorem follows_plainScalar (h : F.Twins old old' s s') :
    Follows F.Near plainScalar s plainScalar s' (F.Level old old') := by
  rw [plainScalar]
  refine .bind (follows_saveKey h) ?_
  rintro - r - r' ⟨-, hr, -⟩
  have hplace : (⟨!r'.flow.isEmpty, r'.version, r'.indent + 1⟩ : Lex.PlainPlace) =
      ⟨!r.flow.isEmpty, r.version, r.indent + 1⟩ := by
    rw [hr.flow, hr.version, hr.indent]
  refine follows_allowKey (follows_get (follows_mark ?_))
  dsimp only
  rw [hplace]
  refine follows_lex (Lex.follows_plainScalar hr.cursor) (fun found => GoesOn.back ?_) ?_
  · exact respects_ite ((respects_allowKey _).bind fun _ => goesOn_push _ _ _) (goesOn_push _ _ _)
  rintro read d read' d' ⟨htext, hbreak, hstop, hd⟩
  have hpush : ∀ {q q' : TokenReader}, F.Twins old old' q q' → Follows F.Near
      (push (.scalar (String.ofList read.text) .plain) r.cursor.mark read.stop) q
      (push (.scalar (String.ofList read'.text) .plain) r'.cursor.mark read'.stop) q' (F.Level old old') := by
    intro q q' hq
    rw [htext]
    exact (follows_push hq _ hr.cursor.marks hstop).imp fun a r b r' _ hr => ⟨hr.1, hr.2.1⟩
  have hmoved := (hr.allow false).move hd
  exact follows_ite (by rw [hbreak]) (fun _ => follows_allowKey (hpush (hmoved.allow true))) fun _ => hpush hmoved

/-! ## What the next character starts -/

theorem isValueIndicator_congr (h : F.Twins old old' s s') (hb : F.Before 2 s.cursor) :
    isValueIndicator s' = isValueIndicator s := by
  have hlast : s'.queue.getLast?.any (·.kind == .value) = s.queue.getLast?.any (·.kind == .value) := by
    obtain ⟨new, new', hq, hq', hnew⟩ := h.queue
    rw [hq, hq', List.getLast?_append, List.getLast?_append]
    have hrel := forall₂_getLast? hnew
    generalize new.getLast? = x at hrel
    generalize new'.getLast? = x' at hrel
    cases hrel with
    | none => exact h.last
    | some hx =>
      dsimp only [Option.or]
      rw [Option.any_some, Option.any_some, hx.kind]
  rw [isValueIndicator, isValueIndicator, h.flow, h.version, h.cursor.peekAt hb, hlast]

theorem startsPlain_congr (h : F.Twins old old' s s') (hb : F.Before 2 s.cursor) (c : Char) :
    startsPlain s' c = startsPlain s c := by
  rw [startsPlain, startsPlain, h.flow, h.version, h.cursor.peekAt hb]

/-- The reader of the scalar that a quote starts. -/
def quotedToken (ch : Char) : Lex TokenKind :=
  if ch == '"' then (TokenKind.scalar · .double) <$> Lex.quotedScalar true
  else (TokenKind.scalar · .single) <$> Lex.quotedScalar false

theorem tokenAt_quote (hcolumn : s.cursor.mark.column ≠ 0) (hch : ch = '"' ∨ ch = '\'') :
    (tokenAt ch).run s = (keyCandidate (quotedToken ch)).run s := by
  rcases hch with rfl | rfl <;> simp [tokenAt, hcolumn, quotedToken]

theorem ensures_tokenAt_space (hch : s.cursor.peek = some ' ') {Q : Unit → TokenReader → Prop} :
    Ensures (tokenAt ' ') s Q := by
  have hmarker : ∀ d, d ≠ ' ' → s.cursor.atMarker d = false := by
    intro d hd
    obtain ⟨r, hr⟩ := List.head?_eq_some_iff.1 hch
    rw [Cursor.atMarker, hr]
    simp [Ne.symm hd]
  rw [tokenAt, ensures_bind, ensures_get]
  simp [hmarker, startsPlain, isIndicator]

theorem reads_quotedToken (c : Cursor) : Lex.ReadsFrom (fun _ => True) 1 (quotedToken ch) c := by
  rw [quotedToken]
  split <;> (rw [map_eq_pure_bind]; exact (Lex.reads_quotedScalar _ _).bind fun _ => Lex.reads_pure _)

/-- A quoted scalar takes its first quote at least. -/
theorem ensures_quotedToken {Q : TokenReader → Prop} (hQ : ∀ r k, r.cursor = s.cursor.skip (k + 1) → Q r) :
    Ensures (keyCandidate (quotedToken ch)) s fun _ r => Q r := by
  have hrest : ∀ r : TokenReader, r.cursor = s.cursor → Ensures (do
      allowKey false
      let start ← mark
      let kind ← lex (quotedToken ch)
      push kind start (← mark)) r fun _ r => Q r := by
    intro r hr
    simp only [ensures_bind, ensures_allowKey, ensures_mark, ensures_lex, ensures_push]
    intro kind c hrun
    rw [hr] at hrun
    obtain ⟨k, hk, rfl, -⟩ := reads_quotedToken _ kind c hrun
    exact hQ _ (k - 1) (by rw [Nat.sub_add_cancel hk])
  rw [keyCandidate, ensures_bind]
  exact ensures_saveKey.2 ⟨fun _ _ => hrest _ rfl, fun _ => hrest _ rfl⟩

/-- Where the texts part a token takes the reader past that place. -/
theorem ensures_tokenAt_seam (hne : F.left ≠ []) (hc : s.cursor.rest = F.left) (hcolumn : s.cursor.mark.column ≠ 0)
    (hch : s.cursor.peek = some ch) : Ensures (tokenAt ch) s fun _ r => ¬F.Near r := by
  obtain ⟨quote, r, hl, hquote⟩ := (F.parts hne).1
  have hpeek : ch = quote := Option.some.inj (by rw [← hch, Cursor.peek, hc, hl]; rfl)
  subst hpeek
  intro a q hrun
  rw [tokenAt_quote hcolumn hquote] at hrun
  refine ensures_quotedToken (Q := fun q => ¬F.Near q) (fun q k hk hq => ?_) a q hrun
  have hlen := hq.resolve_left hne
  have := List.length_pos_iff.2 hne
  rw [hk, Cursor.rest_skip, List.length_drop, hc] at hlen
  omega

/-- A document marker that one text has before the place where the texts part is in both. -/
theorem before_of_atMarker (h : F.Twins old old' s s') (hb : F.Before 1 s.cursor) {d : Char} (hd : d ≠ ' ')
    (hat : s.cursor.atMarker d = true) : F.Before 3 s.cursor := by
  rw [Cursor.atMarker, Bool.and_eq_true, beq_iff_eq] at hat
  refine (h.cursor.before_of_forall hb (n := 3) fun k hk hsp => ?_).mono (by omega)
  have hget : (s.cursor.rest.take 3)[k]? = some ' ' := by rw [List.getElem?_take_of_lt hk]; exact hsp
  rw [hat.1] at hget
  interval_cases k <;> exact hd (Option.some.inj hget)

theorem follows_named {context : Context} {f : String → TokenKind} (h : F.Twins old old' s s') (hb : F.Before 1 s.cursor)
    (hch : s.cursor.peek = some ch) (hspace : ch ≠ ' ') :
    Follows F.Near (keyCandidate (f <$> Lex.anchorName context)) s (keyCandidate (f <$> Lex.anchorName context)) s'
      (F.Level old old') := by
  refine follows_keyCandidate h fun c' hc =>
    follows_map (((Lex.follows_anchorName hc hb hch hspace).within fun _ _ => trivial).imp ?_)
  rintro a d _ d' - ⟨rfl, hd, -⟩
  exact ⟨rfl, hd⟩

theorem follows_quoted {double : Bool} {f : String → TokenKind} (h : F.Twins old old' s s') (hb : F.Before 1 s.cursor)
    (hch : s.cursor.peek = some ch) (hspace : ch ≠ ' ') :
    Follows F.Near (keyCandidate (f <$> Lex.quotedScalar double)) s (keyCandidate (f <$> Lex.quotedScalar double)) s'
      (F.Level old old') := by
  refine follows_keyCandidate h fun c' hc => follows_map ((Lex.follows_quotedScalar hc hb hch hspace).imp ?_)
  rintro a d _ d' - ⟨rfl, hd, -⟩
  exact ⟨rfl, hd⟩

theorem follows_tagged {f : Tag → TokenKind} {version : Version} (h : F.Twins old old' s s') (hb : F.Before 1 s.cursor)
    (hbang : s.cursor.peek = some '!') :
    Follows F.Near (keyCandidate (f <$> Lex.tag version)) s (keyCandidate (f <$> Lex.tag version)) s' (F.Level old old') := by
  refine follows_keyCandidate h fun c' hc => follows_map ((Lex.follows_tag hc hb hbang).imp ?_)
  rintro a d _ d' - ⟨rfl, hd, -⟩
  exact ⟨rfl, hd⟩

theorem follows_tokenAt (h : F.Twins old old' s s') (hb : F.Before 1 s.cursor) (hch : s.cursor.peek = some ch) :
    Follows F.Near (tokenAt ch) s (tokenAt ch) s' (F.Level old old') := by
  by_cases hspace : ch = ' '
  · subst hspace
    exact .of_not (ensures_tokenAt_space hch)
  have hb2 := h.cursor.before_of_peek hb hch hspace
  rw [tokenAt]
  refine follows_get ?_
  dsimp only
  rw [F.column h.cursor.marks, h.cursor.atMarker hb (by decide), h.cursor.atMarker hb (by decide),
    h.cursor.peekAt hb2, h.flow,
    isValueIndicator_congr h hb2, startsPlain_congr h hb2, h.version]
  have hanywhere : ∀ {x : Scan Unit}, Follows anywhere x s x s' (F.Level old old') →
    Follows F.Near x s x s' (F.Level old old') :=
    fun hx => hx.within fun _ _ => trivial
  refine follows_ite Iff.rfl (fun _ => follows_directive h hb hch hspace) fun _ => ?_
  refine follows_ite Iff.rfl (fun hat => hanywhere (follows_documentMarker h ?_)) fun _ => ?_
  · exact before_of_atMarker h hb (by decide) (Bool.and_eq_true _ _ ▸ hat).2
  refine follows_ite Iff.rfl (fun hat => hanywhere (follows_documentMarker h ?_)) fun _ => ?_
  · exact before_of_atMarker h hb (by decide) (Bool.and_eq_true _ _ ▸ hat).2
  refine follows_ite Iff.rfl (fun _ => hanywhere (follows_flowStart h hb)) fun _ => ?_
  refine follows_ite Iff.rfl (fun _ => hanywhere (follows_flowStart h hb)) fun _ => ?_
  refine follows_ite Iff.rfl (fun _ => hanywhere (follows_flowEnd h hb)) fun _ => ?_
  refine follows_ite Iff.rfl (fun _ => hanywhere (follows_flowEnd h hb)) fun _ => ?_
  refine follows_ite Iff.rfl (fun _ => hanywhere (follows_indicator h hb)) fun _ => ?_
  refine follows_ite Iff.rfl (fun _ => hanywhere (follows_blockEntry h hb)) fun _ => ?_
  refine follows_ite Iff.rfl (fun _ => hanywhere (follows_explicitKey h hb)) fun _ => ?_
  refine follows_ite Iff.rfl (fun _ => hanywhere (follows_value h hb)) fun _ => ?_
  refine follows_ite Iff.rfl (fun _ => follows_named h hb hch hspace) fun _ => ?_
  refine follows_ite Iff.rfl (fun _ => follows_named h hb hch hspace) fun _ => ?_
  refine follows_ite Iff.rfl (fun hbang => follows_tagged h hb (by rw [hch, beq_iff_eq.1 hbang])) fun _ => ?_
  refine follows_ite Iff.rfl (fun _ => follows_blockScalar h hb hch hspace) fun _ => ?_
  refine follows_ite Iff.rfl (fun _ => follows_blockScalar h hb hch hspace) fun _ => ?_
  refine follows_ite Iff.rfl (fun _ => follows_quoted h hb hch hspace) fun _ => ?_
  refine follows_ite Iff.rfl (fun _ => follows_quoted h hb hch hspace) fun _ => ?_
  exact follows_ite Iff.rfl (fun _ => follows_plainScalar h) fun _ => follows_mark follows_throw

theorem follows_fetchHere (h : F.Twins old old' s s') : Follows F.Near fetchHere s fetchHere s' (F.Level old old') := by
  rw [fetchHere]
  refine .bind (follows_dropStaleKeys h) ?_
  rintro - r - r' ⟨-, hr, -⟩
  refine follows_mark ?_
  rw [F.column hr.cursor.marks]
  refine .bind (follows_unwind hr) ?_
  rintro - q - q' ⟨-, hq, -⟩
  refine follows_peek ?_
  rcases hq.cursor.cases_start with hb | ⟨hne, hc, -, hcolumn⟩
  · rw [hq.cursor.peek hb]
    cases hpeek : q.cursor.peek with
    | none => exact ((follows_streamEnd hq).within fun _ _ => trivial).imp fun _ _ _ _ _ h => ⟨h.1, h.2.1⟩
    | some ch => exact follows_tokenAt hq hb hpeek
  · obtain ⟨quote, r, hl, -⟩ := (F.parts hne).1
    have hpeek : q.cursor.peek = some quote := by
      rw [Cursor.peek, hc, hl]
      rfl
    rw [hpeek]
    exact .of_not (ensures_tokenAt_seam hne hc hcolumn hpeek)

theorem follows_fetch (h : F.Twins old old' s s') : Follows F.Near fetch s fetch s' (F.Level old old') := by
  rw [fetch_eq]
  refine .bind_within (follows_skipToToken h) (fun _ => goesOn_fetchHere.back) ?_
  rintro - r - r' - ⟨-, hr⟩
  exact follows_fetchHere hr

theorem follows_needsMore (h : F.Twins [] [] s s') : Follows anywhere needsMore s needsMore s' (F.Level [] []) := by
  rw [needsMore]
  refine follows_get (follows_ite (by rw [h.done]) (fun _ => follows_pure ⟨rfl, h⟩) fun _ => follows_get ?_)
  have hempty : s'.queue.isEmpty = s.queue.isEmpty := by
    obtain ⟨new, new', hq, hq', hnew⟩ := h.queue
    rw [hq, hq']
    cases hnew <;> rfl
  refine follows_ite (by rw [hempty]) (fun _ => follows_pure ⟨rfl, h⟩) fun _ => ?_
  refine .bind (follows_dropStaleKeys h) ?_
  rintro - r - r' ⟨-, hr, -⟩
  refine follows_get (follows_pure ⟨?_, hr⟩)
  have htaken : r'.taken = r.taken := hr.taken
  rw [htaken]
  have hkeys := hr.keys
  generalize r.keys = keys at hkeys
  generalize r'.keys = keys' at hkeys
  induction hkeys with
  | nil => rfl
  | @cons x x' _ _ hx _ ih =>
    have hnumber : (x'.2.number == r.taken) = (x.2.number == r.taken) := by rw [hx.number]
    exact congrArg₂ (· || ·) hnumber ih

end YamlStyle.Yaml.Scan
