import YamlStyle.Proofs.Yaml.Fork.BlockScalars
import YamlStyle.Proofs.Yaml.Draining

/-!
# Tokens before a fork

Two readers of tokens that stand at the same place of two texts that part read the same tokens, up to their marks, as
long as they do not get past the place where the texts part.
-/

namespace YamlStyle.Yaml

/-! ## Lists side by side -/

section

variable {α β : Type} {R : α → β → Prop} {xs : List α} {ys : List β}

theorem forall₂_filter {p : α → Bool} {q : β → Bool} (hpq : ∀ x y, R x y → q y = p x) (h : List.Forall₂ R xs ys) :
    List.Forall₂ R (xs.filter p) (ys.filter q) := by
  induction h with
  | nil => exact .nil
  | cons hxy _ ih =>
    rw [List.filter_cons, List.filter_cons, hpq _ _ hxy]
    split
    · exact .cons hxy ih
    · exact ih

theorem exists_left_of_mem (h : List.Forall₂ R xs ys) {y : β} (hy : y ∈ ys) : ∃ x ∈ xs, R x y := by
  induction h with
  | nil => cases hy
  | cons hxy _ ih =>
    rcases List.mem_cons.1 hy with rfl | hy
    · exact ⟨_, .head _, hxy⟩
    · obtain ⟨x, hx, hr⟩ := ih hy
      exact ⟨x, .tail _ hx, hr⟩

theorem forall₂_getLast? (h : List.Forall₂ R xs ys) : Option.Rel R xs.getLast? ys.getLast? := by
  induction h with
  | nil => exact .none
  | @cons x y xs ys hxy htail ih =>
    cases htail with
    | nil => exact .some hxy
    | cons _ _ => simpa using ih

end

namespace Fork

variable {F : Fork} {old old' : List Token} {s s' : TokenReader}

/-- The same possible key, up to marks. -/
structure SameKey (F : Fork) (x x' : Nat × SimpleKey) : Prop where
  depth : x'.1 = x.1
  number : x'.2.number = x.2.number
  required : x'.2.required = x.2.required
  marks : F.Marks x.2.mark x'.2.mark

/-- The same token, up to marks. -/
structure SameToken (F : Fork) (x x' : Token) : Prop where
  kind : x'.kind = x.kind
  start : F.Marks x.start x'.start
  stop : F.Marks x.stop x'.stop

/-- Two readers at the same place of two texts. Before the tokens that they have both read each may have some of its own
in its queue. -/
structure Twins (F : Fork) (old old' : List Token) (s s' : TokenReader) : Prop where
  cursor : F.Beside s.cursor s'.cursor
  flow : s'.flow = s.flow
  indent : s'.indent = s.indent
  indents : s'.indents = s.indents
  keyAllowed : s'.keyAllowed = s.keyAllowed
  keys : List.Forall₂ (SameKey F) s.keys s'.keys
  fresh : ∀ x ∈ s.keys, s.taken + old.length ≤ x.2.number
  queue : ∃ new new', s.queue = old ++ new ∧ s'.queue = old' ++ new' ∧ List.Forall₂ (SameToken F) new new'
  taken : s'.taken + old'.length = s.taken + old.length
  last : old'.getLast?.any (·.kind == .value) = old.getLast?.any (·.kind == .value)
  version : s'.version = s.version
  done : s'.done = s.done

/-- A reader that has not got past the place where texts part. -/
def Near (F : Fork) (s : TokenReader) : Prop := F.Before 0 s.cursor

/-- The same result, and readers that have not moved. -/
def Still (F : Fork) (old old' : List Token) (c : Cursor) {α : Type} (a : α) (r : TokenReader) (b : α)
    (r' : TokenReader) : Prop :=
  b = a ∧ F.Twins old old' r r' ∧ r.cursor = c

/-- The same result, and readers at the same place again. -/
def Level (F : Fork) (old old' : List Token) {α : Type} (a : α) (r : TokenReader) (b : α) (r' : TokenReader) : Prop :=
  b = a ∧ F.Twins old old' r r'

theorem SameKey.isStale {x x' : Nat × SimpleKey} (h : F.SameKey x x') {here here' : Mark} (hm : F.Marks here here') :
    Scan.isStale here' x'.2 = Scan.isStale here x.2 := by
  have hline : (x'.2.mark.line != here'.line) = (x.2.mark.line != here.line) := by
    rw [bne, bne, Bool.eq_iff_iff]
    simp [F.line h.marks hm]
  rw [Scan.isStale, Scan.isStale, hline, F.apart hm h.marks]

namespace Twins

theorem near (h : F.Twins old old' s s') : F.Near s := h.cursor.before

theorem lookup (h : List.Forall₂ (SameKey F) s.keys s'.keys) (d : Nat) :
    (s.keys.lookup d = none ∧ s'.keys.lookup d = none) ∨ ∃ key key', s.keys.lookup d = some key ∧
      s'.keys.lookup d = some key' ∧ F.SameKey (d, key) (d, key') := by
  generalize s.keys = keys at h
  generalize s'.keys = keys' at h
  induction h with
  | nil => exact .inl ⟨rfl, rfl⟩
  | @cons x x' keys keys' hx _ ih =>
    obtain ⟨e, key⟩ := x
    obtain ⟨e', key'⟩ := x'
    obtain rfl : e' = e := hx.depth
    rw [List.lookup_cons, List.lookup_cons]
    cases hd : d == e' with
    | true =>
      obtain rfl := beq_iff_eq.1 hd
      exact .inr ⟨key, key', rfl, rfl, hx⟩
    | false => exact ih

/-- The numbers of the tokens to come are the same. -/
theorem length_eq (h : F.Twins old old' s s') : s'.taken + s'.queue.length = s.taken + s.queue.length := by
  obtain ⟨new, new', hq, hq', hnew⟩ := h.queue
  have htaken := h.taken
  rw [hq, hq', List.length_append, List.length_append, ← hnew.length_eq]
  omega

theorem push (h : F.Twins old old' s s') (kind : TokenKind) {start start' stop stop' : Mark} (hstart : F.Marks start start')
    (hstop : F.Marks stop stop') : F.Twins old old' { s with queue := s.queue ++ [⟨kind, start, stop⟩] }
      { s' with queue := s'.queue ++ [⟨kind, start', stop'⟩] } := by
  obtain ⟨new, new', hq, hq', hnew⟩ := h.queue
  refine { h with queue := ⟨new ++ [⟨kind, start, stop⟩], new' ++ [⟨kind, start', stop'⟩], ?_, ?_, ?_⟩ }
  · rw [hq, List.append_assoc]
  · rw [hq', List.append_assoc]
  · exact List.rel_append hnew (.cons ⟨rfl, hstart, hstop⟩ .nil)

theorem move (h : F.Twins old old' s s') {c c' : Cursor} (hc : F.Beside c c') :
    F.Twins old old' { s with cursor := c } { s' with cursor := c' } := { h with cursor := hc }

theorem allow (h : F.Twins old old' s s') (allowed : Bool) :
    F.Twins old old' { s with keyAllowed := allowed } { s' with keyAllowed := allowed } := { h with keyAllowed := rfl }

theorem filter (h : F.Twins old old' s s') {p q : Nat × SimpleKey → Bool} (hpq : ∀ x x', F.SameKey x x' → q x' = p x) :
    F.Twins old old' { s with keys := s.keys.filter p } { s' with keys := s'.keys.filter q } :=
  { h with
    keys := forall₂_filter hpq h.keys
    fresh := fun x hx => h.fresh x (List.mem_of_mem_filter hx) }

end Twins

end Fork

namespace Scan

open Fork

variable {F : Fork} {old old' : List Token} {s s' : TokenReader} {α β : Type}
  {Q : α → TokenReader → β → TokenReader → Prop} {G : TokenReader → Prop}

/-! ## Small steps -/

theorem run_lex {γ : Type} {read : Lex γ} {a : γ} {c : Cursor} (h : read.run s.cursor = .ok (a, c)) :
    (lex read).run s = .ok (a, { s with cursor := c }) := by
  change (liftM (read.run s.cursor) >>= fun p : γ × Cursor =>
    (do set { s with cursor := p.2 }; return p.1 : Scan γ)).run s = _
  rw [h]
  rfl

theorem follows_lex {γ δ : Type} {H : Cursor → Prop} {read : Lex γ} {read' : Lex δ} {R : γ → Cursor → δ → Cursor → Prop}
    {f : γ → Scan α} {g : δ → Scan β} (hread : Follows H read s.cursor read' s'.cursor R)
    (hback : ∀ a r, Ensures (f a) r fun _ r' => G r' → H r.cursor)
    (hf : ∀ a c b c', R a c b c' → Follows G (f a) { s with cursor := c } (g b) { s' with cursor := c' } Q) :
    Follows G (lex read >>= f) s (lex read' >>= g) s' Q := by
  refine .bind_within (M := fun r => H r.cursor) (R := fun a r b r' => ∃ c c', r = { s with cursor := c } ∧
    r' = { s' with cursor := c' } ∧
    R a c b c') ?_ hback ?_
  · intro a r hrun hr
    obtain ⟨c, hread', rfl⟩ := (ensures_lex read (Q := fun a r => ∃ c, read.run s.cursor = .ok (a, c) ∧
      r = { s with cursor := c })).2 (fun a c h => ⟨c, h, rfl⟩) a r hrun
    obtain ⟨b, c', hrun', hmid⟩ := hread a c hread' hr
    exact ⟨b, _, run_lex hrun', c, c', rfl, rfl, hmid⟩
  · rintro a - b - - ⟨c, c', rfl, rfl, hmid⟩
    exact hf a c b c' hmid

/-- A reader that can always be followed. -/
theorem follows_lex_anywhere {γ δ : Type} {read : Lex γ} {read' : Lex δ} {R : γ → Cursor → δ → Cursor → Prop}
    {f : γ → Scan α} {g : δ → Scan β} (hread : Follows anywhere read s.cursor read' s'.cursor R)
    (hf : ∀ a c b c', R a c b c' → Follows G (f a) { s with cursor := c } (g b) { s' with cursor := c' } Q) :
    Follows G (lex read >>= f) s (lex read' >>= g) s' Q :=
  follows_lex hread (fun _ _ _ _ _ _ => trivial) hf

theorem follows_mark {f : Mark → Scan α} {g : Mark → Scan β}
    (h : Follows G (f s.cursor.mark) s (g s'.cursor.mark) s' Q) : Follows G (mark >>= f) s (mark >>= g) s' Q := h

theorem follows_peek {f : Option Char → Scan α} {g : Option Char → Scan β}
    (h : Follows G (f s.cursor.peek) s (g s'.cursor.peek) s' Q) : Follows G (peek >>= f) s (peek >>= g) s' Q := h

theorem follows_inFlow {f : Bool → Scan α} {g : Bool → Scan β}
    (h : Follows G (f !s.flow.isEmpty) s (g !s'.flow.isEmpty) s' Q) : Follows G (inFlow >>= f) s (inFlow >>= g) s' Q := h

theorem follows_allowKey {allowed : Bool} {f : Unit → Scan α} {g : Unit → Scan β}
    (h : Follows G (f ()) { s with keyAllowed := allowed } (g ()) { s' with keyAllowed := allowed } Q) :
    Follows G (allowKey allowed >>= f) s (allowKey allowed >>= g) s' Q := h

theorem follows_push (h : F.Twins old old' s s') (kind : TokenKind) {start start' stop stop' : Mark}
    (hstart : F.Marks start start') (hstop : F.Marks stop stop') :
    Follows G (push kind start stop) s (push kind start' stop') s' (F.Still old old' s.cursor) :=
  follows_modify_end ⟨rfl, h.push kind hstart hstop, rfl⟩

theorem follows_pushHere (h : F.Twins old old' s s') (kind : TokenKind) :
    Follows G (pushHere kind) s (pushHere kind) s' (F.Still old old' s.cursor) :=
  follows_push h kind h.cursor.marks h.cursor.marks

theorem follows_pushIndicator (h : F.Twins old old' s s') (kind : TokenKind) {width : Nat} (hw : F.Before width s.cursor) :
    Follows G (pushIndicator kind width) s (pushIndicator kind width) s' (F.Level old old') := by
  have hc := h.cursor.skip hw
  refine (follows_push (h.move hc) kind h.cursor.marks hc.marks).imp ?_
  exact fun a r b r' _ hr => ⟨hr.1, hr.2.1⟩

/-! ## Possible keys -/

/-- No possible key that only a colon makes good is stale. -/
def StaleFree (s : TokenReader) : Prop := ∀ x ∈ s.keys, isStale s.cursor.mark x.2 = true → x.2.required = false

theorem run_dropStaleKeys_eq :
    dropStaleKeys.run s = (match s.keys.find? (fun x : Nat × SimpleKey => isStale s.cursor.mark x.2 && x.2.required) with
      | some (_, key) => keyFault key
      | none => set { s with keys := s.keys.filter fun x => !isStale s.cursor.mark x.2 } : Scan Unit).run s := rfl

theorem run_dropStaleKeys (h : StaleFree s) :
    dropStaleKeys.run s = .ok ((), { s with keys := s.keys.filter fun x => !isStale s.cursor.mark x.2 }) := by
  have hnone : s.keys.find? (fun x : Nat × SimpleKey => isStale s.cursor.mark x.2 && x.2.required) = none := by
    rw [List.find?_eq_none]
    intro x hx hstale
    rw [Bool.and_eq_true] at hstale
    rw [h x hx hstale.1] at hstale
    cases hstale.2
  rw [run_dropStaleKeys_eq, hnone]
  rfl

theorem ensures_dropStaleKeys_eq : Ensures dropStaleKeys s fun _ r =>
    StaleFree s ∧ r = { s with keys := s.keys.filter fun x => !isStale s.cursor.mark x.2 } :=
  ensures_dropStaleKeys.2 fun h => ⟨h, rfl⟩

theorem staleFree_of_twins (h : F.Twins old old' s s') (hs : StaleFree s) : StaleFree s' := by
  intro x' hx' hstale
  obtain ⟨x, hx, hsame⟩ := exists_left_of_mem h.keys hx'
  rw [hsame.isStale h.cursor.marks] at hstale
  rw [hsame.required]
  exact hs x hx hstale

theorem follows_dropStaleKeys (h : F.Twins old old' s s') :
    Follows G dropStaleKeys s dropStaleKeys s' (F.Still old old' s.cursor) := by
  intro a r hrun _
  obtain ⟨hs, rfl⟩ := ensures_dropStaleKeys_eq a r hrun
  exact ⟨(), _, run_dropStaleKeys (staleFree_of_twins h hs), rfl,
    h.filter fun x x' hx => by rw [hx.isStale h.cursor.marks], rfl⟩

/-- The possible key at the current flow depth need not be made good. -/
def IsFree (s : TokenReader) : Prop := ∀ key, s.keys.lookup s.flow.length = some key → key.required = false

theorem run_dropKey_eq : dropKey.run s = (match s.keys.lookup s.flow.length with
    | some key => do
      if key.required then keyFault key
      set { s with keys := s.keys.filter (·.1 != s.flow.length) }
    | none => return : Scan Unit).run s := rfl

theorem run_dropKey (h : IsFree s) :
    dropKey.run s = .ok ((), { s with keys := s.keys.filter (·.1 != s.flow.length) }) := by
  rw [run_dropKey_eq]
  cases hl : s.keys.lookup s.flow.length with
  | none =>
    rw [filter_of_lookup_eq_none hl]
    rfl
  | some key =>
    dsimp only
    rw [h key hl]
    rfl

theorem ensures_dropKey_eq : Ensures dropKey s fun _ r =>
    IsFree s ∧ r = { s with keys := s.keys.filter (·.1 != s.flow.length) } :=
  ensures_dropKey.2 fun h => ⟨h, rfl⟩

theorem isFree_of_twins (h : F.Twins old old' s s') (hs : IsFree s) : IsFree s' := by
  intro key' hl'
  rw [h.flow] at hl'
  rcases Twins.lookup h.keys s.flow.length with ⟨-, hnone⟩ | ⟨key, key'', hl, hl'', hkey⟩
  · rw [hnone] at hl'
    cases hl'
  · rw [hl''] at hl'
    cases hl'
    exact hkey.required.trans (hs key hl)

theorem follows_dropKey (h : F.Twins old old' s s') : Follows G dropKey s dropKey s' (F.Still old old' s.cursor) := by
  intro a r hrun _
  obtain ⟨hs, rfl⟩ := ensures_dropKey_eq a r hrun
  exact ⟨(), _, run_dropKey (isFree_of_twins h hs), rfl, h.filter fun x x' hx => by rw [hx.depth, h.flow], rfl⟩

theorem follows_saveKey (h : F.Twins old old' s s') : Follows anywhere saveKey s saveKey s' (F.Still old old' s.cursor) := by
  rw [saveKey]
  refine follows_get (follows_ite (by rw [h.keyAllowed]) (fun _ => .bind (follows_dropKey h) ?_) fun _ =>
    follows_pure ⟨rfl, h, rfl⟩)
  rintro - r - r' ⟨-, hr, hcursor⟩
  refine follows_modify_end ⟨rfl, { hr with keys := ?_, fresh := ?_ }, hcursor⟩
  · refine List.rel_append hr.keys (.cons ⟨?_, ?_, ?_, hr.cursor.marks⟩ .nil)
    · rw [hr.flow]
    · exact hr.length_eq
    · dsimp only
      rw [h.flow, h.indent, F.column h.cursor.marks]
  · intro x hx
    rcases List.mem_append.1 hx with hx | hx
    · exact hr.fresh x hx
    · obtain rfl := List.mem_singleton.1 hx
      obtain ⟨new, -, hq, -⟩ := hr.queue
      dsimp only
      rw [hq, List.length_append]
      omega

/-! ## Indentation -/

theorem follows_closeBlocks {column : Int} {outers : List Int} (h : F.Twins old old' s s') :
    Follows anywhere (closeBlocks column outers) s (closeBlocks column outers) s' (F.Still old old' s.cursor) := by
  induction outers generalizing s s' with
  | nil => exact follows_pure ⟨rfl, h, rfl⟩
  | cons outer outers ih =>
    rw [closeBlocks]
    refine follows_get (follows_ite (by rw [h.indent]) (fun _ => ?_) fun _ => follows_pure ⟨rfl, h, rfl⟩)
    refine .bind (follows_pushHere h .blockEnd) ?_
    rintro - r - r' ⟨-, hr, hcursor⟩
    rw [← hcursor]
    exact follows_modify (ih { hr with indent := rfl, indents := rfl })

theorem follows_unwind {column : Int} (h : F.Twins old old' s s') :
    Follows anywhere (unwind column) s (unwind column) s' (F.Still old old' s.cursor) := by
  rw [unwind]
  refine follows_inFlow (follows_ite (by rw [h.flow]) (fun _ => follows_get ?_) fun _ => follows_pure ⟨rfl, h, rfl⟩)
  rw [h.indents]
  exact follows_closeBlocks h

theorem follows_indentTo {column : Nat} (h : F.Twins old old' s s') :
    Follows anywhere (indentTo column) s (indentTo column) s' (F.Still old old' s.cursor) := by
  rw [indentTo]
  refine follows_get (follows_ite (by rw [h.indent]) (fun _ => follows_set (follows_pure ⟨rfl, ?_, rfl⟩)) fun _ =>
    follows_pure ⟨rfl, h, rfl⟩)
  exact { h with indent := rfl, indents := by dsimp only; rw [h.indent, h.indents] }

theorem follows_openBlock {kind : TokenKind} {cause : Cause} (h : F.Twins old old' s s') :
    Follows anywhere (openBlock kind cause) s (openBlock kind cause) s' (F.Still old old' s.cursor) := by
  rw [openBlock]
  refine follows_get (follows_ite (by rw [h.keyAllowed]) (fun _ => follows_mark follows_throw_bind) fun _ => ?_)
  refine follows_mark ?_
  rw [F.column h.cursor.marks]
  refine .bind (follows_indentTo h) ?_
  rintro opens r _ r' ⟨rfl, hr, hcursor⟩
  rw [← hcursor]
  exact follows_ite Iff.rfl (fun _ => follows_pushHere hr kind) fun _ => follows_pure ⟨rfl, hr, rfl⟩

theorem follows_insertBefore {number : Nat} {kind : TokenKind} {m m' : Mark} (h : F.Twins old old' s s')
    (hnumber : s.taken + old.length ≤ number) (hm : F.Marks m m') :
    Follows G (insertBefore number kind m) s (insertBefore number kind m') s' (F.Still old old' s.cursor) := by
  refine follows_modify_end ⟨rfl, ?_, rfl⟩
  obtain ⟨new, new', hq, hq', hnew⟩ := h.queue
  have htaken := h.taken
  obtain ⟨k, hk⟩ : ∃ k, number - s.taken = old.length + k := ⟨number - s.taken - old.length, by omega⟩
  have hk' : number - s'.taken = old'.length + k := by omega
  refine { h with queue := ⟨new.take k ++ ⟨kind, m, m⟩ :: new.drop k, new'.take k ++ ⟨kind, m', m'⟩ :: new'.drop k,
    ?_, ?_, ?_⟩ }
  · dsimp only
    rw [hk, hq, List.take_length_add_append, List.drop_length_add_append]
    simp only [List.append_assoc, List.cons_append, List.nil_append]
  · dsimp only
    rw [hk', hq', List.take_length_add_append, List.drop_length_add_append]
    simp only [List.append_assoc, List.cons_append, List.nil_append]
  · exact List.rel_append (List.forall₂_take k hnew) (.cons ⟨rfl, hm, hm⟩ (List.forall₂_drop k hnew))

/-! ## Gaps -/

theorem GoesOn.back {x : Scan α} (h : GoesOn x) (r : TokenReader) :
    Ensures x r fun _ r' => F.Near r' → F.Near r := by
  intro a r' hrun hr'
  obtain ⟨⟨k, hk⟩, -⟩ := h r a r' hrun
  refine hr'.of_length ?_
  rw [hk, Cursor.rest_skip, List.length_drop]
  omega

theorem follows_skipGap {fuel fuel' : Nat} (h : F.Twins old old' s s') (hf : F.Enough s.cursor fuel)
    (hf' : F.Enough s.cursor fuel') : Follows F.Near (skipGap fuel) s (skipGap fuel') s' (F.Level old old') := by
  induction fuel generalizing s s' fuel' with
  | zero => exact absurd (hf.exists_succ h.cursor) (by simp)
  | succ fuel ih =>
    obtain ⟨fuel', rfl⟩ := hf'.exists_succ h.cursor
    have hbreak : ∀ {r r' : TokenReader}, F.Twins old old' r r' → r.cursor.rest.length ≤ s.cursor.rest.length →
        Follows F.Near (lex Lex.lineBreak >>= skipLines fuel (!s.flow.isEmpty)) r
          (lex Lex.lineBreak >>= skipLines fuel' (!s.flow.isEmpty)) r' (F.Level old old') := by
      intro r r' hr hle
      refine follows_lex_anywhere (Lex.follows_lineBreak_self hr.cursor) ?_
      rintro _ c found c' ⟨rfl, hc, hlt⟩
      cases found with
      | none => exact follows_pure ⟨rfl, hr.move hc⟩
      | some ch =>
        have hlt := hlt rfl
        have hgap : ∀ {q q' : TokenReader}, F.Twins old old' q q' → q.cursor = c →
            Follows F.Near (skipGap fuel) q (skipGap fuel') q' (F.Level old old') := by
          rintro q q' hq rfl
          exact ih hq (hf.of_lt (by omega)) (hf'.of_lt (by omega))
        exact follows_ite Iff.rfl (fun _ => follows_allowKey (hgap ((hr.move hc).allow true) rfl)) fun _ =>
          hgap (hr.move hc) rfl
    rw [skipGap, skipGap]
    refine follows_inFlow ?_
    rw [h.flow]
    refine follows_lex_anywhere (Lex.follows_blanks_self (p := fun c => c == ' ' || (!s.flow.isEmpty && c == '\t'))
      (fun ch hch => ?_) h.cursor) ?_
    · simp only [Bool.or_eq_true, Bool.and_eq_true, beq_iff_eq] at hch
      rcases hch with rfl | ⟨-, rfl⟩ <;> rfl
    rintro blanks c _ c' ⟨rfl, hc, hle⟩
    refine follows_peek (follows_ite ?_ (fun _ => ?_) fun _ => hbreak (h.move hc) hle)
    · dsimp only
      rw [hc.peek_beq (.inr rfl)]
    · refine follows_lex (Lex.follows_line_self ⟨rfl, rfl⟩ hc) (fun _ => GoesOn.back ?_) ?_
      · refine (respects_lex Lex.readsOn_lineBreak).bind fun found => ?_
        cases found with
        | none => exact respects_pure _
        | some ch => exact respects_ite ((respects_allowKey _).bind fun _ => respects_skipGap _) (respects_skipGap _)
      rintro comment d _ d' ⟨rfl, hd, hle'⟩
      exact hbreak (h.move hd) (Nat.le_trans hle' hle)

theorem follows_skipToToken (h : F.Twins old old' s s') :
    Follows F.Near skipToToken s skipToToken s' (F.Level old old') := by
  rw [skipToToken]
  refine follows_get ?_
  dsimp only
  have hfirst : (s'.cursor.mark.offset == 0 && s'.cursor.peek == some '\ufeff') =
      (s.cursor.mark.offset == 0 && s.cursor.peek == some '\ufeff') := by
    have hoffset : (s'.cursor.mark.offset == 0) = (s.cursor.mark.offset == 0) := by
      rw [Bool.eq_iff_iff, beq_iff_eq, beq_iff_eq]
      exact F.atStart h.cursor.marks
    rw [hoffset]
    rcases h.cursor.cases_start with hb | ⟨hne, hc, hc', -⟩
    · rw [h.cursor.peek hb]
    · obtain ⟨ch, r, hl, -, -, hch⟩ := (F.parts hne).1.startsWord
      obtain ⟨ch', r', hr, -, -, hch'⟩ := (F.parts hne).2
      rw [Cursor.peek, Cursor.peek, hc, hc', hl, hr, List.head?_cons, List.head?_cons,
        beq_false_of_ne fun heq => hch (Option.some.inj heq),
        beq_false_of_ne fun heq => hch' (Option.some.inj heq)]
  refine follows_ite (by rw [hfirst]) (fun hbom => ?_) fun _ => follows_skipGap h enough_left h.cursor.enough_right
  have hb : F.Before 1 s.cursor := by
    rcases h.cursor.cases_start with hb | ⟨hne, hc, -⟩
    · exact hb
    · obtain ⟨ch, r, hl, hquote⟩ := (F.parts hne).1
      simp only [Bool.and_eq_true, Cursor.peek, hc, hl] at hbom
      rcases hquote with rfl | rfl <;> exact absurd hbom.2 (by simp)
  have hnext := h.cursor.skip hb
  refine follows_lex (H := anywhere) (R := fun _ c _ c' => c = s.cursor.skip 1 ∧ c' = s'.cursor.skip 1) ?_
    (fun _ _ _ _ _ _ => trivial) ?_
  · exact follows_modify_end ⟨rfl, rfl⟩
  rintro - c - c' ⟨rfl, rfl⟩
  have hlen : (s.cursor.skip 1).rest.length ≤ s.cursor.rest.length := by
    rw [Lex.length_skip]
    omega
  exact follows_skipGap (h.move hnext) (enough_left.mono hlen) (h.cursor.enough_right.mono hlen)

end Scan

end YamlStyle.Yaml
