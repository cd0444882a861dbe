import YamlStyle.Proofs.Yaml.Fork.Scalars

/-!
# Block scalars, tags and directives before a fork

The columns of two texts that part are the same, so a block scalar that ends before the place where they part has the
same lines in both.
-/

namespace YamlStyle.Yaml.Lex

open Fork

variable {F : Fork} {c c' : Cursor} {α β : Type} {G : Cursor → Prop} {Q : α → Cursor → β → Cursor → Prop}

/-! ## Lines -/

/-- The characters up to a break, from both texts, unless they take the quote where the texts part. -/
theorem follows_line {p : Char → Bool} (hp : p '"' = true ∧ p '\'' = true) (h : F.Beside c c') {f : Text → Lex α}
    {g : Text → Lex β} (hread : ∀ line, ReadsOn (f line))
    (hf : ∀ line d', F.Beside (c.skip line.length) d' → (c.skip line.length).rest.length + line.length = c.rest.length →
      (line = [] → ∀ ch ∈ c.peek, p ch = false) → Follows (F.Before 0) (f line) (c.skip line.length) (g line) d' Q) :
    Follows (F.Before 0) (span p >>= f) c (span p >>= g) c' Q := by
  have hlen : (c.skip (c.rest.takeWhile p).length).rest.length + (c.rest.takeWhile p).length = c.rest.length := by
    have := (List.takeWhile_prefix p (l := c.rest)).length_le
    rw [length_skip]
    omega
  have hnone : c.rest.takeWhile p = [] → ∀ ch ∈ c.peek, p ch = false := by
    intro hnil ch hch
    obtain ⟨r, hr⟩ := List.head?_eq_some_iff.1 hch
    rw [hr, List.takeWhile_cons] at hnil
    cases hpc : p ch with
    | false => rfl
    | true => simp [hpc] at hnil
  by_cases hnil : F.left = []
  · refine follows_span ?_
    rw [h.rest_eq hnil]
    exact hf _ _ (h.skip (.inl hnil)) hlen hnone
  obtain ⟨q, hc, hc', -⟩ := id h
  by_cases hall : (q.takeWhile p).length = q.length
  · refine .of_not fun a d hrun hd => ?_
    obtain ⟨line, e, hspan, hrun⟩ := run_bind_eq_ok hrun
    cases hspan
    obtain ⟨k, -, rfl, -⟩ := hread _ _ a d hrun
    obtain ⟨ch, r, hl, hquote⟩ := (F.parts hnil).1
    have hpch : p ch = true := by
      rcases hquote with rfl | rfl
      · exact hp.1
      · exact hp.2
    have hd := hd.resolve_left hnil
    rw [length_skip, length_skip, hc, List.takeWhile_append, if_pos hall, hl, List.takeWhile_cons, if_pos hpch] at hd
    simp only [List.length_append, List.length_cons] at hd
    omega
  · have heq : ∀ t, (q ++ t).takeWhile p = q.takeWhile p := fun t => by rw [List.takeWhile_append, if_neg hall]
    have hbefore : F.Before (c.rest.takeWhile p).length c := by
      refine .inr ?_
      have := (List.takeWhile_prefix p (l := q)).length_le
      rw [hc, heq, List.length_append]
      omega
    refine follows_span ?_
    rw [show c'.rest.takeWhile p = c.rest.takeWhile p by rw [hc, hc', heq, heq]]
    exact hf _ _ (h.skip hbefore) hlen hnone

theorem follows_line_self {p : Char → Bool} (hp : p '"' = true ∧ p '\'' = true) (h : F.Beside c c') :
    Follows (F.Before 0) (span p) c (span p) c' (F.Same 0 c) := by
  have := follows_line (f := pure) (g := pure) (Q := F.Same 0 c) hp h (fun _ => reads_pure _) fun line d' hd hlen _ =>
    follows_pure ⟨rfl, hd, by omega⟩
  rwa [bind_pure] at this

theorem follows_restOfLine {context : Context} {start start' : Mark} (h : F.Beside c c') :
    Follows (F.Before 0) (restOfLine context start) c (restOfLine context start') c' (F.Same 0 c) := by
  have hend : ∀ {d d' : Cursor}, F.Beside d d' → d.rest.length ≤ c.rest.length → Follows (F.Before 0) (do
      if !endsLine (← peek) then fail context start (.expectedCommentOrBreak (← peek))
      let _ ← lineBreak) d (do
      if !endsLine (← peek) then fail context start' (.expectedCommentOrBreak (← peek))
      let _ ← lineBreak) d' (F.Same 0 c) := by
    intro d d' hd hle
    refine follows_peek (follows_ite ?_ (fun _ => follows_peek follows_fail) fun _ => ?_)
    · rw [hd.peek_congr (p := endsLine) fun ch hch _ => ?_]
      simp only [endsWord, Bool.or_eq_false_iff] at hch
      exact hch.2
    · refine follows_break hd (fun hd _ => follows_pure ⟨rfl, hd, by omega⟩) fun ch e e' he _ hlt => ?_
      exact follows_pure ⟨rfl, he, by omega⟩
  rw [restOfLine, restOfLine]
  refine follows_blanks (fun ch => endsWord_of_isSpace) h fun blanks d d' hd hlen _ => follows_peek ?_
  refine follows_ite ?_ (fun _ => follows_line ⟨rfl, rfl⟩ hd ?_ fun line e' he hlen' _ => hend he ?_) fun _ => hend hd ?_
  · rw [hd.peek_beq (.inr rfl)]
  · exact fun _ => reads_peek.bind fun c => reads_ite
      (reads_peek.bind fun _ => (reads_fail _ _ _).bind fun _ => readsOn_lineBreak.bind fun _ => reads_pure _)
      (readsOn_lineBreak.bind fun _ => reads_pure _)
  · omega
  · omega

/-- The same leading lines, up to marks. -/
def SameLines (F : Fork) (a : LeadingLines) (d : Cursor) (b : LeadingLines) (d' : Cursor) : Prop :=
  b.breaks = a.breaks ∧ b.deepest = a.deepest ∧ b.firstColumn = a.firstColumn ∧ F.Marks a.stop b.stop ∧ F.Beside d d'

theorem follows_leadingLines {fuel fuel' : Nat} {seen seen' : LeadingLines} (h : F.Beside c c') (hf : F.Enough c fuel)
    (hf' : F.Enough c fuel') (hs : SameLines F seen c seen' c') :
    Follows anywhere (leadingLines fuel seen) c (leadingLines fuel' seen') c' (SameLines F) := by
  induction fuel generalizing c c' fuel' seen seen' with
  | zero => exact absurd (hf.exists_succ h) (by simp)
  | succ fuel ih =>
    obtain ⟨fuel', rfl⟩ := hf'.exists_succ h
    obtain ⟨hbreaks, hdeepest, hfirst, hstop, -⟩ := hs
    rw [leadingLines, leadingLines]
    refine follows_get (follows_ite ?_ (fun hspace => ?_) fun _ => ?_)
    · rw [h.peek_beq (.inl rfl)]
    · have hb : F.Before 1 c := by
        rcases h.cases_start with hb | ⟨hne, hc, -⟩
        · exact hb
        · obtain ⟨ch, r, hl, hquote⟩ := (F.parts hne).1
          rw [beq_iff_eq, Cursor.peek, hc, hl] at hspace
          rcases hquote with rfl | rfl <;> cases hspace
      have h1 := h.skip hb
      have hpos : 0 < c.rest.length := List.length_pos_of_mem (List.mem_of_mem_head? (beq_iff_eq.1 hspace))
      have hlt : (c.skip 1).rest.length < c.rest.length := by rw [length_skip]; omega
      refine follows_advance (follows_mark (ih h1 (hf.of_lt hlt) (hf'.of_lt hlt) ⟨hbreaks, ?_, hfirst, hstop, h1⟩))
      rw [hdeepest, F.column h1.marks]
    · refine follows_break h (fun hd _ => follows_pure ⟨hbreaks, hdeepest, hfirst, hstop, hd⟩)
        fun ch d d' hd _ hlt => follows_mark ?_
      refine ih hd (hf.of_lt hlt) (hf'.of_lt hlt) ⟨by rw [hbreaks], hdeepest, ?_, hd.marks, hd⟩
      rw [hfirst, F.column h.marks]

theorem follows_skipToColumn {column : Nat} (h : F.Beside c c') {f : Unit → Lex α} {g : Unit → Lex β}
    (hf : ∀ d d', F.Beside d d' → d.rest.length ≤ c.rest.length → Follows G (f ()) d (g ()) d' Q) :
    Follows G (skipToColumn column >>= f) c (skipToColumn column >>= g) c' Q := by
  obtain ⟨heq, hb⟩ := h.takeWhile_blank (p := (· == ' ')) fun ch => endsWord_of_isSpace
  refine follows_advance ?_
  rw [heq, F.column h.marks]
  refine hf _ _ (h.skip (hb.mono (Nat.min_le_right _ _))) ?_
  rw [length_skip]
  omega

/-- The same breaks, up to the mark after them. -/
def SameBreaks (F : Fork) (a : Text × Mark) (d : Cursor) (b : Text × Mark) (d' : Cursor) : Prop :=
  b.1 = a.1 ∧ F.Marks a.2 b.2 ∧ F.Beside d d'

theorem follows_blockBreaks {indent fuel fuel' : Nat} {read : Text} {stop stop' : Mark} (h : F.Beside c c')
    (hf : F.Enough c fuel) (hf' : F.Enough c fuel') (hs : F.Marks stop stop') :
    Follows anywhere (blockBreaks indent fuel read stop) c (blockBreaks indent fuel' read stop') c'
      fun a d b d' => SameBreaks F a d b d' ∧ d.rest.length ≤ c.rest.length := by
  induction fuel generalizing c c' fuel' read stop stop' with
  | zero => exact absurd (hf.exists_succ h) (by simp)
  | succ fuel ih =>
    obtain ⟨fuel', rfl⟩ := hf'.exists_succ h
    rw [blockBreaks, blockBreaks]
    refine follows_break h (fun hd _ => follows_pure ⟨⟨rfl, hs, hd⟩, Nat.le_refl _⟩) fun ch d d' hd _ hlt => follows_mark ?_
    refine follows_skipToColumn hd fun e e' he hle => ?_
    refine (ih he (hf.of_lt (by omega)) (hf'.of_lt (by omega)) hd.marks).imp ?_
    rintro a r b r' - ⟨hsame, hle'⟩
    exact ⟨hsame, by omega⟩

/-! ## Indicators -/

/-- The same result, before the place where texts part. -/
def Inside (F : Fork) (a : α) (d : Cursor) (b : α) (d' : Cursor) : Prop := b = a ∧ F.Beside d d' ∧ F.Before 1 d

theorem follows_chomping (h : F.Beside c c') (hb : F.Before 1 c) : Follows anywhere chomping c chomping c' (Inside F) := by
  rw [chomping]
  refine follows_peek ?_
  rw [h.peek hb]
  split
  · next hch => exact follows_char h hb hch (by decide) fun d d' hd hbd _ => follows_pure ⟨rfl, hd, hbd⟩
  · next hch => exact follows_char h hb hch (by decide) fun d d' hd hbd _ => follows_pure ⟨rfl, hd, hbd⟩
  · exact follows_pure ⟨rfl, h, hb⟩

theorem follows_indentationIndicator {start start' : Mark} (h : F.Beside c c') (hb : F.Before 1 c) :
    Follows anywhere (indentationIndicator start) c (indentationIndicator start') c' (Inside F) := by
  rw [indentationIndicator, indentationIndicator]
  refine follows_peek ?_
  rw [h.peek hb]
  split
  · next ch hch =>
    refine follows_ite Iff.rfl (fun hdigit => follows_ite Iff.rfl (fun _ => follows_fail) fun _ => ?_) fun _ =>
      follows_pure ⟨rfl, h, hb⟩
    refine follows_char h hb hch ?_ fun d d' hd hbd _ => follows_pure ⟨rfl, hd, hbd⟩
    rintro rfl
    exact absurd hdigit (by decide)
  · exact follows_pure ⟨rfl, h, hb⟩

theorem follows_blockIndicators {start start' : Mark} (h : F.Beside c c') (hb : F.Before 1 c) :
    Follows anywhere (blockIndicators start) c (blockIndicators start') c' (Inside F) := by
  have hend : ∀ {found : Chomping × Option Nat} {d d' : Cursor}, F.Beside d d' → F.Before 1 d → Follows anywhere (do
      if !endsName (← peek) then fail .blockScalar start (.expectedBlockIndicator (← peek))
      return found) d (do
      if !endsName (← peek) then fail .blockScalar start' (.expectedBlockIndicator (← peek))
      return found) d' (Inside F) := by
    intro found d d' hd hbd
    refine follows_peek (follows_ite (by rw [hd.peek hbd]) (fun _ => follows_peek follows_fail) fun _ => ?_)
    exact follows_pure ⟨rfl, hd, hbd⟩
  rw [blockIndicators, blockIndicators]
  refine .bind (follows_chomping h hb) ?_
  rintro chomp d _ d' ⟨rfl, hd, hbd⟩
  split
  · refine .bind (follows_indentationIndicator hd hbd) ?_
    rintro indent e _ e' ⟨rfl, he, hbe⟩
    refine follows_ite Iff.rfl (fun _ => .bind (follows_chomping he hbe) ?_) fun _ => hend he hbe
    rintro chomp r _ r' ⟨rfl, hr, hbr⟩
    exact hend hr hbr
  · refine .bind (follows_indentationIndicator hd hbd) ?_
    rintro indent e _ e' ⟨rfl, he, hbe⟩
    exact hend he hbe

/-! ## The lines of a scalar -/

/-- The same is read of a block scalar, up to marks. -/
def SameBlock (F : Fork) (a : BlockRead) (d : Cursor) (b : BlockRead) (d' : Cursor) : Prop :=
  b.text = a.text ∧ b.lastBreak = a.lastBreak ∧ b.breaks = a.breaks ∧ F.Marks a.stop b.stop ∧ F.Beside d d'

theorem isSome_lineBreak_of_peek (hpeek : c.peek ≠ none) (hbreak : ∀ ch ∈ c.peek, isBreak ch = true) :
    c.lineBreak.1.isSome = true := by
  obtain ⟨ch, hch⟩ := Option.ne_none_iff_exists'.1 hpeek
  refine Option.isSome_iff_ne_none.2 fun hno => ?_
  have := hbreak ch hch
  rw [not_isBreak_of_lineBreak hno ch hch] at this
  cases this

theorem length_lineBreak_le (c : Cursor) : c.lineBreak.2.rest.length ≤ c.rest.length := by
  obtain ⟨k, -, hk, -⟩ := c.reaches_lineBreak
  rw [hk, length_skip]
  omega

theorem follows_blockLines {isFolded atTop : Bool} {indent fuel fuel' : Nat} {read read' : BlockRead} (h : F.Beside c c')
    (hf : F.Enough c fuel) (hf' : F.Enough c fuel') (hs : SameBlock F read c read' c') :
    Follows (F.Before 0) (blockLines isFolded atTop indent fuel read) c (blockLines isFolded atTop indent fuel' read') c'
      (SameBlock F) := by
  induction fuel generalizing c c' fuel' read read' with
  | zero => exact absurd (hf.exists_succ h) (by simp)
  | succ fuel ih =>
    obtain ⟨fuel', rfl⟩ := hf'.exists_succ h
    obtain ⟨htext, hlast, hbreaks, hstop, -⟩ := hs
    rw [blockLines, blockLines]
    refine follows_get (follows_ite ?_ (fun _ => follows_pure ⟨htext, hlast, hbreaks, hstop, h⟩) fun hgoes => ?_)
    · rw [F.column h.marks, h.peek_isNone]
    dsimp only
    refine follows_line ⟨rfl, rfl⟩ h (fun line => readsOn_lineBreak.bind fun _ => reads_mark.bind fun _ =>
      (readsOn_skipToColumn _).bind fun _ => reads_get.bind fun _ => (readsOn_blockBreaks _ _ _ _).bind fun _ =>
      reads_get.bind fun _ => reads_ite (reads_pure _) (readsOn_blockLines _ _ _ _ _)) fun line d' hd hlen hempty => ?_
    obtain ⟨hbreak, he, hshorter⟩ := hd.lineBreak
    have hlt : (c.skip line.length).lineBreak.2.rest.length < c.rest.length := by
      cases line with
      | cons ch line =>
        have := length_lineBreak_le (c.skip (ch :: line).length)
        rw [List.length_cons] at hlen this ⊢
        omega
      | nil =>
        refine (hshorter (isSome_lineBreak_of_peek (fun hno => hgoes ?_) fun ch hch => ?_)).1
        · rw [show c.peek = none from hno]
          simp
        · simpa using hempty rfl ch hch
    refine follows_lineBreak (follows_mark ?_)
    rw [hbreak]
    refine follows_skipToColumn he fun e e' he' hle => follows_get ?_
    refine .bind (follows_blockBreaks he' enough_left he'.enough_right he.marks) ?_
    rintro ⟨breaks, stop⟩ r ⟨breaks', stop'⟩ r' ⟨⟨rfl, hstop', hr⟩, hle'⟩
    dsimp only at hstop'
    refine follows_get (follows_ite ?_ (fun _ => follows_pure ⟨?_, rfl, rfl, hstop', hr⟩) fun _ => ?_)
    · have hmarker : (atTop && r.mark.column == 0 && r'.atSeparator) = (atTop && r.mark.column == 0 && r.atSeparator) := by
        by_cases hzero : r.mark.column = 0
        · rw [hr.atSeparator_of_column hzero]
        · rw [beq_false_of_ne hzero, Bool.and_false, Bool.false_and, Bool.false_and]
      rw [F.column hr.marks, hr.peek_isNone, hmarker]
    · rw [htext, hbreaks]
    · refine ih hr (hf.of_lt (by omega)) (hf'.of_lt (by omega)) ⟨?_, rfl, rfl, hstop', hr⟩
      have hblank : ∀ {d d' : Cursor}, F.Beside d d' →
          (d'.peek != some ' ' && d'.peek != some '\t') = (d.peek != some ' ' && d.peek != some '\t') := fun hd => by
        rw [bne, bne, bne, bne, hd.peek_beq (.inl rfl), hd.peek_beq (.inl rfl)]
      simp only [htext, hbreaks, hblank h, hblank hr]

/-- What the lines of a block scalar come to, from lines read alike on. -/
theorem follows_blockValue {isFolded atTop : Bool} {chomp : Chomping} {indent : Nat} {first first' : BlockRead}
    (hs : SameBlock F first c first' c') :
    Follows (F.Before 0) (do
      let read ← blockLines isFolded atTop indent ((← get).rest.length + 1) first
      let value :=
        match chomp with
        | .strip => read.text
        | .clip => read.text ++ read.lastBreak.toList
        | .keep => read.text ++ read.lastBreak.toList ++ read.breaks
      return (String.ofList value, read.stop, chomp != .keep && !read.breaks.isEmpty)) c (do
      let read ← blockLines isFolded atTop indent ((← get).rest.length + 1) first'
      let value :=
        match chomp with
        | .strip => read.text
        | .clip => read.text ++ read.lastBreak.toList
        | .keep => read.text ++ read.lastBreak.toList ++ read.breaks
      return (String.ofList value, read.stop, chomp != .keep && !read.breaks.isEmpty)) c' fun a d b d' =>
        b.1 = a.1 ∧ F.Marks a.2.1 b.2.1 ∧ b.2.2 = a.2.2 ∧ F.Beside d d' := by
  have h := hs.2.2.2.2
  refine follows_get (.bind_within (follows_blockLines h enough_left h.enough_right hs) (fun _ _ => ?_) ?_)
  · rw [ensures_pure]
    exact id
  · rintro a d b d' - ⟨htext, hlast, hbreaks, hstop, hd⟩
    refine follows_pure ⟨?_, hstop, ?_, hd⟩
    · dsimp only
      rw [htext, hlast, hbreaks]
    · dsimp only
      rw [hbreaks]

theorem follows_blockScalar {isFolded : Bool} {parent : Int} (h : F.Beside c c') (hb : F.Before 1 c) {ch : Char}
    (hch : c.peek = some ch) (hne : ch ≠ ' ') :
    Follows (F.Before 0) (blockScalar isFolded parent) c (blockScalar isFolded parent) c' fun a d b d' =>
      b.1 = a.1 ∧ F.Marks a.2.1 b.2.1 ∧ b.2.2 = a.2.2 ∧ F.Beside d d' := by
  rw [blockScalar]
  refine follows_mark (follows_char h hb hch hne fun d d' hd hbd _ => ?_)
  refine .bind ((follows_blockIndicators hd hbd).within fun _ _ => trivial) ?_
  rintro ⟨chomp, indicator⟩ e _ e' ⟨rfl, he, -⟩
  dsimp only
  refine .bind_within (follows_restOfLine he) (fun _ _ => back_of_readsOn ?_ _) ?_
  · split
    · refine reads_get.bind fun _ => reads_mark.bind fun _ => (readsOn_leadingLines _ _).bind fun seen => ?_
      split
      · refine reads_ite (reads_mark.bind fun _ => (reads_throw _).bind fun _ => ?_) ?_
        · exact (reads_pure _).bind fun _ => reads_get.bind fun _ => (readsOn_blockLines _ _ _ _ _).bind fun _ =>
            reads_pure _
        · exact (reads_pure _).bind fun _ => reads_get.bind fun _ => (readsOn_blockLines _ _ _ _ _).bind fun _ =>
            reads_pure _
      · exact (reads_pure _).bind fun _ => reads_get.bind fun _ => (readsOn_blockLines _ _ _ _ _).bind fun _ =>
          reads_pure _
    · refine reads_mark.bind fun _ => (readsOn_skipToColumn _).bind fun _ => reads_get.bind fun _ => ?_
      exact (readsOn_blockBreaks _ _ _ _).bind fun _ => (reads_pure _).bind fun _ => reads_get.bind fun _ =>
        (readsOn_blockLines _ _ _ _ _).bind fun _ => reads_pure _
  rintro - r - r' - ⟨-, hr, -⟩
  cases indicator with
  | none =>
    refine follows_get (follows_mark ?_)
    refine .bind (follows_leadingLines hr enough_left hr.enough_right ⟨rfl, rfl, rfl, hr.marks, hr⟩) ?_
    rintro seen e seen' e' ⟨hbreaks, hdeepest, hfirst, hstop, he⟩
    have hsame : SameBlock F ⟨[], none, seen.breaks, seen.stop⟩ e ⟨[], none, seen'.breaks, seen'.stop⟩ e' :=
      ⟨rfl, rfl, hbreaks, hstop, he⟩
    rw [hfirst, hdeepest]
    split
    · refine follows_ite Iff.rfl (fun _ => follows_mark follows_throw_bind) fun _ => ?_
      exact follows_blockValue hsame
    · exact follows_blockValue hsame
  | some n =>
    refine follows_mark (follows_skipToColumn hr fun e e' he _ => follows_get ?_)
    refine .bind (follows_blockBreaks he enough_left he.enough_right hr.marks) ?_
    rintro ⟨breaks, stop⟩ f ⟨breaks', stop'⟩ f' ⟨⟨rfl, hstop, hf⟩, -⟩
    exact follows_blockValue ⟨rfl, rfl, rfl, hstop, hf⟩

end YamlStyle.Yaml.Lex

/-!
## Tags and directives

Names, tags and directives that end before the place where two texts part are read from both.
-/

namespace YamlStyle.Yaml.Lex

open Fork
open Text (isDigit isHexDigit numberIn)

variable {F : Fork} {c c' : Cursor} {context escapes : Context} {start start' : Mark} {version : Version}

/-! ### Names and tags -/

theorem follows_handle (h : F.Beside c c') :
    Follows anywhere (handle context start) c (handle context start') c' (Inside F) := by
  rw [handle, handle]
  refine follows_get ?_
  rcases h.cases_start with hb | ⟨hne, hc, -⟩
  swap
  · obtain ⟨ch, r, hl, hquote⟩ := (F.parts hne).1
    have hpeek : (c.peek != some '!') = true := by
      rw [Cursor.peek, hc, hl]
      rcases hquote with rfl | rfl <;> rfl
    rw [if_pos hpeek]
    exact follows_fail
  rw [h.peek hb]
  refine follows_ite Iff.rfl (fun _ => follows_fail) fun hbang => ?_
  have hbang : c.peek = some '!' := by simpa using hbang
  have hb2 := h.before_of_peek hb hbang (by decide)
  obtain ⟨h1, hb1, -⟩ := h.next_of_peek hb hbang (by decide)
  rw [h.peekAt hb2]
  refine follows_ite Iff.rfl (fun _ => follows_advance (follows_pure ⟨rfl, h1, hb1⟩)) fun _ => ?_
  obtain ⟨hword, hfar⟩ := h1.takeWhile_word hb1 (p := isWordChar) rfl
  rw [Cursor.rest_next, Cursor.rest_next] at hword
  rw [Cursor.rest_next] at hfar
  dsimp only
  rw [hword]
  generalize hlen : ((c.rest.drop 1).takeWhile isWordChar).length = n at hfar ⊢
  have hfar : F.Before (n + 2) c := by
    refine hfar.imp_right fun hfar => ?_
    have hpos : 0 < c.rest.length := List.length_pos_of_mem (List.mem_of_mem_head? hbang)
    rw [Cursor.rest_next, List.length_drop] at hfar
    omega
  rw [h.peekAt (n := 1 + n) (by rwa [Nat.add_comm 1 n])]
  refine follows_ite Iff.rfl (fun _ => follows_advance follows_fail) fun hclosed => ?_
  have hclosed : (c.skip (n + 1)).peek = some '!' := by
    rw [Cursor.peek, Cursor.rest_skip, List.head?_drop, Nat.add_comm n 1]
    exact not_not.1 fun hne => hclosed (by simpa [Cursor.peekAt] using hne)
  have hd := h.skip (n := n + 1) (hfar.mono (Nat.le_succ _))
  have hbd : F.Before 1 (c.skip (n + 1)) := hfar.imp_right fun hfar => by rw [length_skip]; omega
  obtain ⟨he, hbe, -⟩ := hd.next_of_peek hbd hclosed (by decide)
  refine follows_advance (follows_pure ⟨rfl, ?_, ?_⟩)
  · rw [Cursor.skip_add (n + 1) 1, Cursor.skip_add (n + 1) 1]
    exact he
  · rw [Cursor.skip_add (n + 1) 1]
    exact hbe

/-- Fuel for what is left of each of two texts, or the same fuel for texts that do not part. -/
def Supplied (F : Fork) (c : Cursor) (fuel fuel' : Nat) : Prop :=
  fuel' = fuel ∨ F.Enough c fuel ∧ F.Enough c fuel'

theorem supplied_of_beside (h : F.Beside c c') : Supplied F c c.rest.length c'.rest.length := by
  by_cases hnil : F.left = []
  · exact .inl (by rw [h.rest_eq hnil])
  · obtain ⟨p, hc, hc', -⟩ := h
    obtain ⟨⟨ch, r, hl, -⟩, ⟨ch', r', hr, -⟩⟩ := F.parts hnil
    refine .inr ⟨?_, ?_⟩
    · rw [Enough, hl, List.length_cons]
      omega
    · rw [Enough, hc, hc', hl, hr]
      simp only [List.length_append, List.length_cons]
      omega

theorem follows_uriEscapes {fuel fuel' : Nat} {bytes : List UInt8} (h : F.Beside c c') (hb : F.Before 1 c)
    (hf : Supplied F c fuel fuel') :
    Follows anywhere (uriEscapes context start fuel bytes) c (uriEscapes context start' fuel' bytes) c' (Inside F) := by
  induction fuel generalizing c c' fuel' bytes with
  | zero =>
    rcases hf with rfl | ⟨hf, -⟩
    · exact follows_pure ⟨rfl, h, hb⟩
    · exact absurd (hf.exists_succ h) (by simp)
  | succ fuel ih =>
    obtain ⟨fuel', rfl⟩ : ∃ n, fuel' = n + 1 := by
      rcases hf with rfl | ⟨-, hf⟩
      · exact ⟨fuel, rfl⟩
      · exact hf.exists_succ h
    rw [uriEscapes, uriEscapes]
    refine follows_peek ?_
    rw [h.peek hb]
    refine follows_ite Iff.rfl (fun _ => follows_pure ⟨rfl, h, hb⟩) fun hpercent => ?_
    have hpercent : c.peek = some '%' := by simpa using hpercent
    refine follows_char h hb hpercent (by decide) fun d d' hd hbd hlt => follows_get ?_
    dsimp only
    split
    · exact follows_fail_end
    · next hdigits =>
      have hfar : F.Before 3 d := by
        refine hd.before_of_forall hbd fun k hk hspace => ?_
        have := List.find?_eq_none.1 hdigits (d.peekAt k) (List.mem_map_of_mem (by simp; omega))
        rw [hspace] at this
        exact this rfl
      have hsame : [0, 1].map d'.peekAt = [0, 1].map d.peekAt := by
        refine List.map_congr_left fun k hk => hd.peekAt (hfar.mono ?_)
        simp at hk
        omega
      rw [hsame, hdigits, hd.take (hfar.mono (by omega))]
      refine follows_advance (ih (hd.skip (hfar.mono (by omega))) ?_ ?_)
      · refine hfar.imp_right fun hfar => ?_
        rw [length_skip]
        omega
      · have hlt : (d.skip 2).rest.length < c.rest.length := by
          rw [length_skip]
          omega
        exact hf.imp Nat.succ.inj fun hf => ⟨hf.1.of_lt hlt, hf.2.of_lt hlt⟩

/-- An escape is taken where there is one. -/
theorem reads_uriEscapes {fuel : Nat} {bytes : List UInt8} (hpercent : c.peek = some '%') :
    ReadsFrom (fun _ => True) 1 (uriEscapes context start (fuel + 1) bytes) c := by
  rw [uriEscapes]
  refine readsFrom_peek ?_
  rw [if_neg (by simp [hpercent])]
  refine (readsFrom_advance fun _ _ => trivial).bind fun _ => reads_get.bind fun c => ?_
  split
  · exact reads_fail _ _ _
  · exact (reads_advance 2).bind fun _ => (staysOnLine_uriEscapes _ _ _ _).readsOn

theorem follows_uriParts {fuel fuel' : Nat} {read : Text} (h : F.Beside c c') (hb : F.Before 1 c) (hf : F.Enough c fuel)
    (hf' : F.Enough c fuel') :
    Follows anywhere (uriParts version escapes start fuel read) c (uriParts version escapes start' fuel' read) c'
      (Inside F) := by
  induction fuel generalizing c c' fuel' read with
  | zero => exact absurd (hf.exists_succ h) (by simp)
  | succ fuel ih =>
    obtain ⟨fuel', rfl⟩ := hf'.exists_succ h
    rw [uriParts, uriParts]
    refine follows_word (by simp [isUriChar, Text.isDigit, Text.isAsciiLetter]) h hb fun word d d' hd hbd hlen _ =>
      follows_peek ?_
    rw [hd.peek hbd]
    refine follows_ite Iff.rfl (fun _ => follows_pure ⟨rfl, hd, hbd⟩) fun hpercent => follows_mark (follows_get ?_)
    have hpercent : d.peek = some '%' := by simpa using hpercent
    have hpos : 0 < d.rest.length := List.length_pos_of_mem (List.mem_of_mem_head? hpercent)
    have hshorter : Ensures (uriEscapes escapes start d.rest.length []) d fun _ e => e.rest.length < c.rest.length := by
      obtain ⟨n, hn⟩ := Nat.exists_eq_add_of_lt hpos
      rw [Nat.zero_add] at hn
      rw [hn]
      intro bytes e hrun
      obtain ⟨k, hk, rfl, -⟩ := reads_uriEscapes hpercent bytes e hrun
      rw [length_skip]
      omega
    refine .bind ((follows_uriEscapes hd hbd (supplied_of_beside hd)).and_ensures hshorter) ?_
    rintro bytes e _ e' ⟨⟨rfl, he, hbe⟩, hlt⟩
    split
    · exact ih he hbe (hf.of_lt hlt) (hf'.of_lt hlt)
    · exact follows_throw

theorem reads_uri {c : Cursor} : ReadsFrom (fun _ => True) 1 (uri version context escapes start) c := by
  intro a d hrun
  obtain ⟨k, -, rfl, -⟩ := (staysOnLine_uri version context escapes start).readsOn c a d hrun
  refine ⟨k, Nat.one_le_iff_ne_zero.2 ?_, rfl, fun _ _ => trivial⟩
  rintro rfl
  rw [uri] at hrun
  obtain ⟨before, e, hmark, hrun⟩ := run_bind_eq_ok hrun
  cases hmark
  obtain ⟨now, e, hget, hrun⟩ := run_bind_eq_ok hrun
  cases hget
  obtain ⟨read, e, hparts, hrun⟩ := run_bind_eq_ok hrun
  obtain ⟨after, f, hmark, hrun⟩ := run_bind_eq_ok hrun
  cases hmark
  split at hrun
  · cases hrun
  · next hmoves =>
    cases hrun
    exact hmoves (beq_self_eq_true _)

/-- A part of a text that is no URI does not come before the place where texts part. -/
theorem follows_uri (h : F.Beside c c') :
    Follows (F.Before 0) (uri version context escapes start) c (uri version context escapes start') c' (Inside F) := by
  rcases h.cases_start with hb | ⟨hne, hc, -⟩
  swap
  · exact follows_of_leaves hne hc reads_uri
  rw [uri, uri]
  refine follows_mark (follows_get ?_)
  refine .bind (follows_uriParts h hb enough_left h.enough_right) ?_
  rintro read d _ d' ⟨rfl, hd, hbd⟩
  refine follows_mark (follows_ite ?_ (fun _ => follows_peek follows_fail) fun _ => follows_pure ⟨rfl, hd, hbd⟩)
  simp only [beq_iff_eq]
  exact (F.offset hd.marks h.marks).symm

theorem peek_next : c.next.peek = c.peekAt 1 := by
  rw [Cursor.peek, Cursor.rest_next, List.head?_drop, Cursor.peekAt]

theorem follows_tag (h : F.Beside c c') (hb : F.Before 1 c) (hbang : c.peek = some '!') :
    Follows (F.Before 0) (tag version) c (tag version) c' (Inside F) := by
  have hend : ∀ {read : Tag} {d d' : Cursor}, F.Beside d d' → F.Before 1 d → Follows (F.Before 0) (do
      if !endsName (← peek) then fail .tag c.mark (.expectedSpace (← peek))
      return read) d (do
      if !endsName (← peek) then fail .tag c'.mark (.expectedSpace (← peek))
      return read) d' (Inside F) := by
    intro read d d' hd hbd
    refine follows_peek (follows_ite (by rw [hd.peek hbd]) (fun _ => follows_peek follows_fail) fun _ => ?_)
    exact follows_pure ⟨rfl, hd, hbd⟩
  have hread : ∀ read : Tag, ReadsOn (do
      if !endsName (← peek) then fail .tag c.mark (.expectedSpace (← peek))
      return read) := fun _ =>
    reads_peek.bind fun _ => reads_ite (reads_peek.bind fun _ => (reads_fail _ _ _).bind fun _ => reads_pure _)
      (reads_pure _)
  rw [tag]
  refine follows_mark (follows_get ?_)
  have hb2 := h.before_of_peek hb hbang (by decide)
  dsimp only
  rw [h.peekAt hb2]
  generalize hshort : (if (c.peekAt 1 == some '!') = true then "!!" else "!") = short
  have hnext : F.Beside (c.skip (short.length - 1)) (c'.skip (short.length - 1)) ∧ F.Before 1 (c.skip (short.length - 1)) ∧
      (c.skip (short.length - 1)).peek = some '!' := by
    subst hshort
    split
    · next hsecond =>
      have hsecond : c.next.peek = some '!' := by rw [peek_next]; simpa using hsecond
      obtain ⟨h1, hb1, -⟩ := h.next_of_peek hb hbang (by decide)
      exact ⟨h1, hb1, hsecond⟩
    · exact ⟨h, hb, hbang⟩
  obtain ⟨hd, hbd, hdbang⟩ := hnext
  refine follows_advance (follows_get ?_)
  generalize c.skip (short.length - 1) = d at hd hbd hdbang ⊢
  generalize c'.skip (short.length - 1) = d' at hd ⊢
  have hbd2 := hd.before_of_peek hbd hdbang (by decide)
  obtain ⟨h1, hb1, -⟩ := hd.next_of_peek hbd hdbang (by decide)
  rw [hd.peekAt hbd2]
  refine follows_ite Iff.rfl (fun hangle => follows_advance ?_) fun _ => follows_ite Iff.rfl (fun _ => ?_) fun _ => ?_
  · have hangle : d.next.peek = some '<' := by rw [peek_next]; simpa using hangle
    obtain ⟨h2, hb2, -⟩ := h1.next_of_peek hb1 hangle (by decide)
    refine .bind_within (follows_uri h2) (fun _ _ => back_of_readsOn ?_ _) ?_
    · exact reads_peek.bind fun _ => reads_ite
        (reads_peek.bind fun _ => (reads_fail _ _ _).bind fun _ => (reads_advance 1).bind fun _ => hread _)
        ((reads_advance 1).bind fun _ => hread _)
    rintro suffix e _ e' - ⟨rfl, he, hbe⟩
    refine follows_peek ?_
    rw [he.peek hbe]
    refine follows_ite Iff.rfl (fun _ => follows_peek follows_fail) fun hclosed => ?_
    have hclosed : e.peek = some '>' := by simpa using hclosed
    exact follows_char he hbe hclosed (by decide) fun f f' hf hbf _ => hend hf hbf
  · exact follows_advance (hend h1 hb1)
  · obtain ⟨hword, -⟩ := h1.takeWhile_word hb1 (p := fun ch => !endsName (some ch)) rfl
    rw [Cursor.rest_next, Cursor.rest_next] at hword
    rw [hword]
    refine follows_ite Iff.rfl (fun _ => ?_) fun _ => follows_advance ?_
    · refine .bind ((follows_handle hd).within fun _ _ => trivial) ?_
      rintro handle e _ e' ⟨rfl, he, hbe⟩
      refine .bind_within (follows_uri he) (fun _ _ => back_of_readsOn (hread _) _) ?_
      rintro suffix f _ f' - ⟨rfl, hf, hbf⟩
      exact hend hf hbf
    · refine .bind_within (follows_uri h1) (fun _ _ => back_of_readsOn (hread _) _) ?_
      rintro suffix f _ f' - ⟨rfl, hf, hbf⟩
      exact hend hf hbf

theorem follows_anchorName (h : F.Beside c c') (hb : F.Before 1 c) {ch : Char} (hch : c.peek = some ch) (hne : ch ≠ ' ') :
    Follows anywhere (anchorName context) c (anchorName context) c' (Inside F) := by
  rw [anchorName]
  refine follows_mark (follows_char h hb hch hne fun d d' hd hbd _ => ?_)
  refine follows_word (by decide) hd hbd fun name e e' he hbe _ _ => follows_peek ?_
  rw [he.peek hbe]
  exact follows_ite Iff.rfl (fun _ => follows_fail) fun _ => follows_pure ⟨rfl, he, hbe⟩

/-! ### Directives -/

theorem follows_versionNumber (h : F.Beside c c') :
    Follows anywhere (versionNumber start) c (versionNumber start') c' (Inside F) := by
  rw [versionNumber, versionNumber]
  rcases h.cases_start with hb | ⟨hne, hc, -⟩
  · refine follows_word (by decide) h hb fun digits d d' hd hbd _ _ => ?_
    refine follows_ite Iff.rfl (fun _ => follows_peek follows_fail) fun _ => ?_
    split
    · exact follows_pure ⟨rfl, hd, hbd⟩
    · exact follows_throw
  · obtain ⟨ch, r, hl, hquote⟩ := (F.parts hne).1
    have hnone : c.rest.takeWhile isDigit = [] := by
      rw [hc, hl, List.takeWhile_cons]
      rcases hquote with rfl | rfl <;> rfl
    refine follows_span ?_
    rw [hnone]
    intro a d hrun
    cases hrun

theorem follows_versionValue (h : F.Beside c c') :
    Follows anywhere (versionValue start) c (versionValue start') c' (Inside F) := by
  rw [versionValue, versionValue]
  refine follows_blanks (fun ch => endsWord_of_isSpace) h fun _ d d' hd _ _ => ?_
  refine .bind (follows_versionNumber hd) ?_
  rintro major e _ e' ⟨rfl, he, hbe⟩
  refine follows_peek ?_
  rw [he.peek hbe]
  refine follows_ite Iff.rfl (fun _ => follows_peek follows_fail) fun hdot => ?_
  have hdot : e.peek = some '.' := by simpa using hdot
  refine follows_char he hbe hdot (by decide) fun f f' hf hbf _ => .bind (follows_versionNumber hf) ?_
  rintro minor r _ r' ⟨rfl, hr, hbr⟩
  refine follows_peek ?_
  rw [hr.peek hbr]
  exact follows_ite Iff.rfl (fun _ => follows_peek follows_fail) fun _ => follows_pure ⟨rfl, hr, hbr⟩

theorem follows_tagValue (h : F.Beside c c') :
    Follows (F.Before 0) (tagValue version start) c (tagValue version start') c' (Inside F) := by
  rw [tagValue, tagValue]
  refine follows_blanks (fun ch => endsWord_of_isSpace) h fun _ d d' hd _ _ => ?_
  refine .bind ((follows_handle hd).within fun _ _ => trivial) ?_
  rintro handle e _ e' ⟨rfl, he, hbe⟩
  refine follows_peek ?_
  rw [he.peek hbe]
  refine follows_ite Iff.rfl (fun _ => follows_peek follows_fail) fun _ => ?_
  refine follows_blanks (fun ch => endsWord_of_isSpace) he fun _ f f' hf _ _ => ?_
  refine .bind_within (follows_uri hf) (fun _ _ => back_of_readsOn ?_ _) ?_
  · exact reads_peek.bind fun _ => reads_ite (reads_peek.bind fun _ => (reads_fail _ _ _).bind fun _ => reads_pure _)
      (reads_pure _)
  rintro lead r _ r' - ⟨rfl, hr, hbr⟩
  refine follows_peek ?_
  rw [hr.peek hbr]
  exact follows_ite Iff.rfl (fun _ => follows_peek follows_fail) fun _ => follows_pure ⟨rfl, hr, hbr⟩

theorem follows_directive (h : F.Beside c c') (hb : F.Before 1 c) {ch : Char} (hch : c.peek = some ch) (hne : ch ≠ ' ') :
    Follows (F.Before 0) (directive version) c (directive version) c' fun a d b d' =>
      b.1 = a.1 ∧ F.Marks a.2 b.2 ∧ F.Beside d d' := by
  rw [directive]
  refine follows_mark (follows_char h hb hch hne fun d d' hd hbd _ => ?_)
  refine follows_word (by decide) hd hbd fun name e e' he hbe _ _ => follows_peek ?_
  rw [he.peek hbe]
  refine follows_ite Iff.rfl (fun _ => follows_peek follows_fail) fun _ => ?_
  have hend : ∀ {read : Directive} {stop stop' : Mark} {r r' : Cursor}, F.Beside r r' → F.Marks stop stop' →
      Follows (F.Before 0) (do restOfLine .directive c.mark; return (read, stop)) r
        (do restOfLine .directive c'.mark; return (read, stop')) r' fun a d b d' =>
          b.1 = a.1 ∧ F.Marks a.2 b.2 ∧ F.Beside d d' := by
    intro read stop stop' r r' hr hstop
    refine .bind_within (follows_restOfLine hr) (fun _ _ => ?_) ?_
    · rw [ensures_pure]
      exact id
    · rintro - f - f' - ⟨-, hf, -⟩
      exact follows_pure ⟨rfl, hstop, hf⟩
  have hread : ∀ x : Directive × Mark, ReadsOn (do restOfLine .directive c.mark; return x) := fun _ =>
    (readsOn_restOfLine _ _).bind fun _ => reads_pure _
  split
  · refine .bind ((follows_versionValue he).within fun _ _ => trivial) ?_
    rintro v r _ r' ⟨rfl, hr, -⟩
    exact follows_mark (hend hr hr.marks)
  · refine follows_ite Iff.rfl (fun _ => ?_) fun _ => follows_mark ?_
    · refine .bind_within (follows_tagValue he) (fun _ _ => back_of_readsOn ?_ _) ?_
      · exact reads_mark.bind fun _ => hread _
      rintro ⟨handle, lead⟩ r _ r' - ⟨rfl, hr, -⟩
      exact follows_mark (hend hr hr.marks)
    · exact follows_line ⟨rfl, rfl⟩ he (fun _ => hread _) fun _ r' hr _ _ => hend hr he.marks

end YamlStyle.Yaml.Lex
