import YamlStyle.Proofs.Yaml.Fork.Basic

/-!
# Scalars before a fork

Quoted, plain and block scalars that end before the place where two texts part are read from both.
-/

namespace YamlStyle.Yaml

namespace Fork

variable {F : Fork} {c c' : Cursor} {α : Type}

/-- The same result, at least `n` characters further on. -/
def Same (F : Fork) (n : Nat) (c : Cursor) (a : α) (d : Cursor) (b : α) (d' : Cursor) : Prop :=
  b = a ∧ F.Beside d d' ∧ d.rest.length + n ≤ c.rest.length

/-- Fuel for every character up to the place where texts part. -/
def Enough (F : Fork) (c : Cursor) (fuel : Nat) : Prop := c.rest.length < fuel + F.left.length

theorem Enough.exists_succ {fuel : Nat} (hf : F.Enough c fuel) (h : F.Beside c c') : ∃ n, fuel = n + 1 := by
  cases fuel with
  | zero =>
    obtain ⟨p, hc, -⟩ := h
    rw [Enough, hc, List.length_append] at hf
    omega
  | succ n => exact ⟨n, rfl⟩

theorem Enough.of_lt {d : Cursor} {fuel : Nat} (hf : F.Enough c (fuel + 1)) (hd : d.rest.length < c.rest.length) :
    F.Enough d fuel := by
  unfold Enough at *
  omega

theorem Enough.mono {d : Cursor} {fuel : Nat} (hf : F.Enough c fuel) (hd : d.rest.length ≤ c.rest.length) :
    F.Enough d fuel := by
  unfold Enough at *
  omega

theorem enough_left : F.Enough c (c.rest.length + 1) := by
  unfold Enough
  omega

theorem Beside.enough_right (h : F.Beside c c') : F.Enough c (c'.rest.length + 1) := by
  obtain ⟨p, hc, hc', -⟩ := h
  rw [Enough, hc, hc', List.length_append, List.length_append]
  omega

end Fork

namespace Lex

open Fork

variable {F : Fork} {c c' : Cursor} {α β : Type} {G : Cursor → Prop} {Q : α → Cursor → β → Cursor → Prop}

/-! ## Small steps -/

theorem follows_mark {f : Mark → Lex α} {g : Mark → Lex β} (h : Follows G (f c.mark) c (g c'.mark) c' Q) :
    Follows G (mark >>= f) c (mark >>= g) c' Q := h

theorem follows_peek {f : Option Char → Lex α} {g : Option Char → Lex β}
    (h : Follows G (f c.peek) c (g c'.peek) c' Q) : Follows G (peek >>= f) c (peek >>= g) c' Q := h

theorem follows_advance {m n : Nat} {f : Unit → Lex α} {g : Unit → Lex β}
    (h : Follows G (f ()) (c.skip m) (g ()) (c'.skip n) Q) : Follows G (advance m >>= f) c (advance n >>= g) c' Q := h

theorem follows_span {p q : Char → Bool} {f : Text → Lex α} {g : Text → Lex β}
    (h : Follows G (f (c.rest.takeWhile p)) (c.skip (c.rest.takeWhile p).length) (g (c'.rest.takeWhile q))
      (c'.skip (c'.rest.takeWhile q).length) Q) : Follows G (span p >>= f) c (span q >>= g) c' Q := h

theorem follows_lineBreak {f : Option Char → Lex α} {g : Option Char → Lex β}
    (h : Follows G (f c.lineBreak.1) c.lineBreak.2 (g c'.lineBreak.1) c'.lineBreak.2 Q) :
    Follows G (lineBreak >>= f) c (lineBreak >>= g) c' Q := h

theorem follows_fail {context : Context} {start : Mark} {cause : Cause} {f : α → Lex β} {γ : Type} {y : Lex γ}
    {Q : β → Cursor → γ → Cursor → Prop} : Follows G (fail context start cause >>= f) c y c' Q := by
  intro a r hrun
  cases hrun

theorem follows_fail_end {context : Context} {start : Mark} {cause : Cause} {y : Lex β} :
    Follows G (fail context start cause) c y c' Q := by
  intro a r hrun
  cases hrun

theorem length_skip (n : Nat) : (c.skip n).rest.length = c.rest.length - n := by rw [Cursor.rest_skip, List.length_drop]

/-- Blanks, from both texts. -/
theorem follows_blanks {p : Char → Bool} (hp : ∀ ch, p ch = true → endsWord (some ch) = true) (h : F.Beside c c')
    {f : Text → Lex α} {g : Text → Lex β} (hf : ∀ blanks d d', F.Beside d d' →
    d.rest.length + blanks.length = c.rest.length →
      (blanks = [] → ∀ ch ∈ c.peek, p ch = false) → Follows G (f blanks) d (g blanks) d' Q) :
    Follows G (span p >>= f) c (span p >>= g) c' Q := by
  obtain ⟨heq, hb⟩ := h.takeWhile_blank hp
  refine follows_span ?_
  rw [heq]
  refine hf _ _ _ (h.skip hb) ?_ fun hnil ch hch => ?_
  · have := (List.takeWhile_prefix p (l := c.rest)).length_le
    rw [length_skip]
    omega
  · obtain ⟨r, hr⟩ := List.head?_eq_some_iff.1 hch
    rw [hr, List.takeWhile_cons] at hnil
    cases hpc : p ch with
    | false => rfl
    | true => simp [hpc] at hnil

theorem follows_blanks_self {p : Char → Bool} (hp : ∀ ch, p ch = true → endsWord (some ch) = true) (h : F.Beside c c') :
    Follows anywhere (span p) c (span p) c' (F.Same 0 c) := by
  have := follows_blanks (G := anywhere) (f := pure) (g := pure) (Q := F.Same 0 c) hp h fun blanks d d' hd hlen _ =>
    follows_pure ⟨rfl, hd, by omega⟩
  rwa [bind_pure] at this

/-- Characters of a word, from both texts. -/
theorem follows_word {p : Char → Bool} (hp : p ' ' = false) (h : F.Beside c c') (hb : F.Before 1 c)
    {f : Text → Lex α} {g : Text → Lex β} (hf : ∀ word d d', F.Beside d d' → F.Before 1 d →
      d.rest.length + word.length = c.rest.length → (word = [] → ∀ ch ∈ c.peek, p ch = false) →
      Follows G (f word) d (g word) d' Q) :
    Follows G (span p >>= f) c (span p >>= g) c' Q := by
  obtain ⟨heq, hb'⟩ := h.takeWhile_word hb hp
  refine follows_span ?_
  rw [heq]
  have hle := (List.takeWhile_prefix p (l := c.rest)).length_le
  refine hf _ _ _ (h.skip (hb'.mono (Nat.le_succ _))) (hb'.imp_right fun hb' => ?_) ?_ fun hnil ch hch => ?_
  · rw [length_skip]
    omega
  · rw [length_skip]
    omega
  · obtain ⟨r, hr⟩ := List.head?_eq_some_iff.1 hch
    rw [hr, List.takeWhile_cons] at hnil
    cases hpc : p ch with
    | false => rfl
    | true => simp [hpc] at hnil

theorem not_isBreak_of_lineBreak (h : c.lineBreak.1 = none) : ∀ ch ∈ c.peek, isBreak ch = false := by
  intro ch hch
  rw [lineBreak_eq] at h
  split_ifs at h with hcrlf hline hother
  · rw [hch] at h
    cases h
  · rw [hch] at hother
    exact Bool.eq_false_iff.2 hother

/-- A line break, from both texts. -/
theorem follows_break (h : F.Beside c c') {f : Option Char → Lex α} {g : Option Char → Lex β}
    (hnone : F.Beside c c' → (∀ ch ∈ c.peek, isBreak ch = false) → Follows G (f none) c (g none) c' Q)
    (hsome : ∀ ch d d', F.Beside d d' → F.Before 1 d → d.rest.length < c.rest.length →
      Follows G (f (some ch)) d (g (some ch)) d' Q) :
    Follows G (lineBreak >>= f) c (lineBreak >>= g) c' Q := by
  obtain ⟨heq, h1, hlen⟩ := h.lineBreak
  refine follows_lineBreak ?_
  rw [heq]
  cases hfound : c.lineBreak.1 with
  | none =>
    rw [Scan.lineBreak_none hfound] at h1 ⊢
    rw [Scan.lineBreak_none (heq.trans hfound)] at h1 ⊢
    exact hnone h1 (not_isBreak_of_lineBreak hfound)
  | some ch =>
    obtain ⟨hlt, hb⟩ := hlen (by rw [hfound]; rfl)
    exact hsome ch _ _ h1 hb hlt

theorem follows_lineBreak_self (h : F.Beside c c') : Follows anywhere lineBreak c lineBreak c' fun a d b d' =>
    b = a ∧ F.Beside d d' ∧ (a.isSome = true → d.rest.length < c.rest.length) := by
  intro a d hrun _
  have hrun : c.lineBreak = (a, d) := Except.ok.inj hrun
  obtain rfl : c.lineBreak.1 = a := by rw [hrun]
  obtain rfl : c.lineBreak.2 = d := by rw [hrun]
  obtain ⟨heq, hd, hlt⟩ := h.lineBreak
  exact ⟨_, _, rfl, heq, hd, fun hsome => (hlt hsome).1⟩

/-- A character that is no space, from both texts. -/
theorem follows_char (h : F.Beside c c') (hb : F.Before 1 c) {ch : Char} (hch : c.peek = some ch) (hne : ch ≠ ' ')
    {f : Unit → Lex α} {g : Unit → Lex β}
    (hf : ∀ d d', F.Beside d d' → F.Before 1 d → d.rest.length < c.rest.length → Follows G (f ()) d (g ()) d' Q) :
    Follows G (advance 1 >>= f) c (advance 1 >>= g) c' Q := by
  obtain ⟨h1, hb1, hlen⟩ := h.next_of_peek hb hch hne
  exact follows_advance (hf _ _ h1 hb1 hlen)

/-- A reader does not go back to the place where texts part. -/
theorem follows_of_not_before {x : Lex α} {y : Lex β} (hx : ReadsOn x) (hb : ¬F.Before 1 c) :
    Follows (F.Before 1) x c y c' Q := by
  refine .of_not fun a d hrun hd => hb (hd.of_length ?_)
  obtain ⟨k, -, rfl, -⟩ := hx c a d hrun
  rw [length_skip]
  omega

theorem back_of_readsOn {x : Lex α} (hx : ReadsOn x) {n : Nat} (r : Cursor) :
    Ensures x r fun _ r' => F.Before n r' → F.Before n r := by
  intro a r' hrun hr'
  obtain ⟨k, -, rfl, -⟩ := hx r a r' hrun
  refine hr'.of_length ?_
  rw [length_skip]
  omega

theorem back_bind {x : Lex α} {f : α → Lex β} (hx : ReadsOn x) {n : Nat}
    (hf : ∀ a r, Ensures (f a) r fun _ r' => G r' → F.Before n r) (r : Cursor) :
    Ensures (x >>= f) r fun _ r' => G r' → F.Before n r := by
  intro b r' hrun hr'
  obtain ⟨a, d, hx', hf'⟩ := run_bind_eq_ok hrun
  exact back_of_readsOn hx r a d hx' (hf a d b r' hf' hr')

/-! ## Quoted scalars -/

theorem endsWord_of_isSpaceOrTab {ch : Char} (h : (ch == ' ' || ch == '\t') = true) : endsWord (some ch) = true := by
  simp only [endsWord, h, Bool.true_or]

theorem endsWord_of_isSpace {ch : Char} (h : (ch == ' ') = true) : endsWord (some ch) = true := by
  simp only [endsWord, h, Bool.true_or]

theorem follows_quotedBreaks {start start' : Mark} {fuel fuel' : Nat} {read : Text} (h : F.Beside c c')
    (hf : F.Enough c fuel) (hf' : F.Enough c fuel') :
    Follows (F.Before 1) (quotedBreaks start fuel read) c (quotedBreaks start' fuel' read) c' (F.Same 0 c) := by
  induction fuel generalizing c c' fuel' read with
  | zero => exact absurd (hf.exists_succ h) (by simp)
  | succ fuel ih =>
    obtain ⟨fuel', rfl⟩ := hf'.exists_succ h
    by_cases hb : F.Before 1 c
    · rw [quotedBreaks, quotedBreaks]
      refine follows_get (follows_ite (by rw [h.atSeparator hb]) (fun _ => follows_fail) fun _ => ?_)
      refine follows_blanks (fun ch => endsWord_of_isSpaceOrTab) h fun blanks d d' hd hlen _ => ?_
      refine follows_break hd (fun hd _ => follows_pure ⟨rfl, hd, by omega⟩) fun ch e e' he _ hlt => ?_
      refine (ih he (hf.of_lt (by omega)) (hf'.of_lt (by omega))).imp ?_
      rintro a r b r' - ⟨rfl, hr, hle⟩
      exact ⟨rfl, hr, by omega⟩
    · exact follows_of_not_before (readsOn_quotedBreaks _ _ _) hb

theorem follows_quotedSpaces {start start' : Mark} (h : F.Beside c c') :
    Follows (F.Before 1) (quotedSpaces start) c (quotedSpaces start') c' (F.Same 0 c) := by
  rw [quotedSpaces, quotedSpaces]
  refine follows_blanks (fun ch => endsWord_of_isSpaceOrTab) h fun blanks d d' hd hlen _ => follows_peek ?_
  refine follows_ite (by rw [hd.peek_isNone]) (fun _ => follows_fail) fun _ => ?_
  refine follows_break hd (fun hd _ => follows_pure ⟨rfl, hd, by omega⟩) fun ch e e' he _ hlt => follows_get ?_
  refine .bind_within (follows_quotedBreaks he enough_left he.enough_right) (fun _ _ => ?_) ?_
  · rw [ensures_pure]
    exact id
  · rintro a r _ r' - ⟨rfl, hr, hle⟩
    exact follows_pure ⟨rfl, hr, by omega⟩

/-- Where the characters of an escape are digits, both texts have them. -/
theorem follows_escape {start start' : Mark} (h : F.Beside c c') (hb : F.Before 1 c) :
    Follows (F.Before 1) (escape start) c (escape start') c' (F.Same 0 c) := by
  rw [escape, escape]
  refine follows_get ?_
  rw [h.peek hb]
  have h1 := h.skip hb
  have hlen : (c.skip 1).rest.length ≤ c.rest.length := by rw [length_skip]; omega
  split
  · exact follows_advance (follows_pure ⟨rfl, h1, hlen⟩)
  · next width _ hwidth =>
    refine follows_advance (follows_get ?_)
    by_cases hb1 : F.Before 1 (c.skip 1)
    swap
    · refine follows_of_not_before ?_ hb1
      split
      · exact reads_fail _ _ _
      · exact (reads_lift _).bind fun ch => (reads_advance _).bind fun _ => reads_pure _
    split
    · exact follows_fail_end
    · next hdigits =>
      have hfar : F.Before (width + 1) (c.skip 1) := by
        refine h1.before_of_forall hb1 fun k hk hspace => ?_
        have := List.find?_eq_none.1 hdigits _ (List.mem_map_of_mem (List.mem_range.2 hk))
        rw [hspace] at this
        exact this rfl
      have hsame : (List.range width).map (c'.skip 1).peekAt = (List.range width).map (c.skip 1).peekAt := by
        refine List.map_congr_left fun k hk => h1.peekAt (hfar.mono ?_)
        have := List.mem_range.1 hk
        omega
      rw [hsame, hdigits, h1.take (hfar.mono (Nat.le_succ _))]
      refine .bind (R := fun a r b r' => b = a ∧ r = c.skip 1 ∧ r' = c'.skip 1)
        (follows_lift fun a ha => ⟨a, ha, rfl, rfl, rfl⟩) ?_
      rintro a _ _ _ ⟨rfl, rfl, rfl⟩
      refine follows_advance (follows_pure ⟨rfl, h1.skip (hfar.mono (Nat.le_succ _)), ?_⟩)
      rw [length_skip]
      omega
  · refine follows_break h (fun _ _ => follows_fail_end) fun ch d d' hd _ hlt => follows_get ?_
    refine (follows_quotedBreaks hd enough_left hd.enough_right).imp ?_
    rintro a r b r' - ⟨rfl, hr, hle⟩
    exact ⟨rfl, hr, by omega⟩

theorem follows_quotedWord {double : Bool} {start start' : Mark} {fuel fuel' : Nat} {read : Text} (h : F.Beside c c')
    (hf : F.Enough c fuel) (hf' : F.Enough c fuel') :
    Follows (F.Before 1) (quotedWord double start fuel read) c (quotedWord double start' fuel' read) c' (F.Same 0 c) := by
  induction fuel generalizing c c' fuel' read with
  | zero => exact absurd (hf.exists_succ h) (by simp)
  | succ fuel ih =>
    obtain ⟨fuel', rfl⟩ := hf'.exists_succ h
    by_cases hb : F.Before 1 c
    swap
    · exact follows_of_not_before (readsOn_quotedWord _ _ _ _) hb
    rw [quotedWord, quotedWord]
    refine follows_word (by decide) h hb fun word d d' hd hbd hlen _ => follows_get ?_
    have hone : ∀ {ch : Char} {read : Text}, d.peek = some ch → ch ≠ ' ' → Follows (F.Before 1)
        (advance 1 >>= fun _ => quotedWord double start fuel read) d
        (advance 1 >>= fun _ => quotedWord double start' fuel' read) d' (F.Same 0 c) := by
      intro ch read hch hne
      refine follows_char hd hbd hch hne fun e e' he _ hlt => ?_
      refine (ih he (hf.of_lt (by omega)) (hf'.of_lt (by omega))).imp ?_
      rintro a r b r' - ⟨rfl, hr, hle⟩
      exact ⟨rfl, hr, by omega⟩
    rw [hd.peek hbd]
    split
    · next hch =>
      have hb2 := hd.before_of_peek hbd hch (by decide)
      refine follows_ite (by rw [hd.peekAt hb2]) (fun _ => follows_advance ?_) fun _ => follows_pure ⟨rfl, hd, by omega⟩
      have hpos : 0 < d.rest.length := List.length_pos_of_mem (List.mem_of_mem_head? hch)
      have hlt : (d.skip 2).rest.length < c.rest.length := by rw [length_skip]; omega
      refine (ih (hd.skip hb2) (hf.of_lt hlt) (hf'.of_lt hlt)).imp ?_
      rintro a r b r' - ⟨rfl, hr, hle⟩
      exact ⟨rfl, hr, by omega⟩
    · next hch => exact hone hch (by decide)
    · next hch => exact hone hch (by decide)
    · next hch => exact hone hch (by decide)
    · next hch =>
      refine follows_char hd hbd hch (by decide) fun e e' he hbe hlt => ?_
      refine .bind_within (follows_escape he hbe) (fun _ _ => back_of_readsOn (readsOn_quotedWord _ _ _ _) _) ?_
      rintro a r _ r' - ⟨rfl, hr, hle⟩
      refine (ih hr (hf.of_lt (by omega)) (hf'.of_lt (by omega))).imp ?_
      rintro a r b r' - ⟨rfl, hr, hle⟩
      exact ⟨rfl, hr, by omega⟩
    · exact follows_pure ⟨rfl, hd, by omega⟩

/-- Characters that are read bring a reader on. -/
theorem ensures_span_step {α : Type} {p : Char → Bool} {ch : Char} {f : Text → Lex α} (hch : c.peek = some ch)
    (hp : p ch = true)
    (hf : ∀ a, ReadsOn (f a)) : Ensures (span p >>= f) c fun _ d => d.rest.length < c.rest.length := by
  intro a d hrun
  obtain ⟨u, e, hspan, hrest⟩ := run_bind_eq_ok hrun
  cases hspan
  obtain ⟨k, -, rfl, -⟩ := hf _ _ a d hrest
  obtain ⟨r, hr⟩ := List.head?_eq_some_iff.1 hch
  rw [length_skip, length_skip, hr, List.takeWhile_cons, if_pos hp]
  simp only [List.length_cons]
  omega

theorem ensures_advance_step {α : Type} {ch : Char} {f : Unit → Lex α} (hch : c.peek = some ch) (hf : ∀ a, ReadsOn (f a)) :
    Ensures (advance 1 >>= f) c fun _ d => d.rest.length < c.rest.length := by
  intro a d hrun
  obtain ⟨u, e, hadvance, hrest⟩ := run_bind_eq_ok hrun
  cases hadvance
  obtain ⟨k, -, rfl, -⟩ := hf _ _ a d hrest
  have hpos : 0 < c.rest.length := List.length_pos_of_mem (List.mem_of_mem_head? hch)
  rw [length_skip, length_skip]
  omega

/-- Spaces and breaks inside quotes are taken up; where there are none the reader stays. -/
theorem ensures_quotedSpaces_step {start : Mark} : Ensures (quotedSpaces start) c fun _ d => d.rest.length < c.rest.length ∨
    d = c ∧ ∃ ch, c.peek = some ch ∧ (ch == ' ' || ch == '\t') = false ∧ isBreak ch = false := by
  obtain ⟨_ | ⟨ch, r⟩, m⟩ := c
  · intro a d hrun
    cases hrun
  have hpeek : (Cursor.mk (ch :: r) m).peek = some ch := rfl
  by_cases hblank : (ch == ' ' || ch == '\t') = true
  · refine Ensures.imp (ensures_span_step hpeek hblank fun blanks => ?_) fun _ _ => .inl
    refine reads_peek.bind fun c => reads_check (reads_fail _ _ _) fun _ => readsOn_lineBreak.bind fun found => ?_
    split
    · exact reads_get.bind fun _ => (readsOn_quotedBreaks _ _ _).bind fun _ => reads_pure _
    · exact reads_pure _
  intro a d hrun
  obtain ⟨blanks, e, hspan, hrun⟩ := run_bind_eq_ok hrun
  rw [span_none fun c hc => by cases hc; exact Bool.eq_false_iff.2 hblank] at hspan
  cases hspan
  obtain ⟨found, e, hpeek', hrun⟩ := run_bind_eq_ok hrun
  cases hpeek'
  rw [if_neg (by rw [hpeek]; simp)] at hrun
  obtain ⟨found, e, hbreak, hrun⟩ := run_bind_eq_ok hrun
  have hbreak : Cursor.lineBreak ⟨ch :: r, m⟩ = (found, e) := Except.ok.inj hbreak
  cases found with
  | some x =>
    left
    obtain ⟨taken, heq, hne, -⟩ := exists_of_lineBreak (congrArg Prod.fst hbreak)
    have heq : ch :: r = taken ++ e.rest := by rw [hbreak] at heq; exact heq
    have hpos := List.length_pos_iff.2 hne
    have hread : ReadsOn (do return folded (some x) (← quotedBreaks start ((← get).rest.length + 1) [])) :=
      reads_get.bind fun _ => (readsOn_quotedBreaks _ _ _).bind fun _ => reads_pure _
    obtain ⟨k, -, rfl, -⟩ := hread e a d hrun
    rw [length_skip, heq, List.length_append]
    omega
  | none =>
    obtain rfl : Cursor.mk (ch :: r) m = e := by rw [← Scan.lineBreak_none (congrArg Prod.fst hbreak), hbreak]
    cases hrun
    exact .inr ⟨rfl, ch, hpeek, Bool.eq_false_iff.2 hblank, not_isBreak_of_lineBreak (congrArg Prod.fst hbreak) ch rfl⟩

/-- A word inside quotes takes up what is no space, no break and no quote that closes them. -/
theorem ensures_quotedWord_step {double : Bool} {start : Mark} {fuel : Nat} {read : Text} {ch : Char}
    (hpeek : c.peek = some ch)
    (hc : ch ≠ (if double then '"' else '\'')) (hblank : (ch == ' ' || ch == '\t') = false) (hbreak : isBreak ch = false) :
    Ensures (quotedWord double start (fuel + 1) read) c fun _ d => d.rest.length < c.rest.length := by
  rw [quotedWord]
  by_cases hword : isQuotedWordChar ch = true
  · refine ensures_span_step hpeek hword fun word => reads_get.bind fun c => ?_
    split
    · exact reads_ite ((reads_advance 2).bind fun _ => readsOn_quotedWord _ _ _ _) (reads_pure _)
    · exact (reads_advance 1).bind fun _ => readsOn_quotedWord _ _ _ _
    · exact (reads_advance 1).bind fun _ => readsOn_quotedWord _ _ _ _
    · exact (reads_advance 1).bind fun _ => readsOn_quotedWord _ _ _ _
    · exact (reads_advance 1).bind fun _ => (readsOn_escape start).bind fun _ => readsOn_quotedWord _ _ _ _
    · exact reads_pure _
  -- What is no character of a word is a quote or a backslash.
  have hmark : ch = '\'' ∨ ch = '"' ∨ ch = '\\' := by
    simp only [isQuotedWordChar, hbreak] at hword
    simp at hword hblank
    tauto
  obtain ⟨r, m⟩ := c
  obtain ⟨r, rfl⟩ := List.head?_eq_some_iff.1 hpeek
  have hnone : (span isQuotedWordChar).run (Cursor.mk (ch :: r) m) = .ok ([], ⟨ch :: r, m⟩) :=
    span_none fun c hc => by cases hc; exact Bool.eq_false_iff.2 hword
  intro a d hrun
  rw [run_bind_of_ok hnone] at hrun
  rcases hmark with rfl | rfl | rfl <;> cases double
  · exact absurd rfl hc
  · exact ensures_advance_step hpeek (fun _ => readsOn_quotedWord _ _ _ _) a d hrun
  · exact ensures_advance_step hpeek (fun _ => readsOn_quotedWord _ _ _ _) a d hrun
  · exact absurd rfl hc
  · exact ensures_advance_step hpeek (fun _ => readsOn_quotedWord _ _ _ _) a d hrun
  · exact ensures_advance_step (f := fun _ => do quotedWord true start fuel (read ++ [] ++ (← escape start))) hpeek
      (fun _ => (readsOn_escape start).bind fun _ => readsOn_quotedWord _ _ _ _) a d hrun

theorem follows_quotedRest {double : Bool} {start start' : Mark} {fuel fuel' : Nat} {read : Text} (h : F.Beside c c')
    (hf : F.Enough c fuel) (hf' : F.Enough c fuel') :
    Follows (F.Before 1) (quotedRest double start fuel read) c (quotedRest double start' fuel' read) c' (F.Same 0 c) := by
  induction fuel generalizing c c' fuel' read with
  | zero => exact absurd (hf.exists_succ h) (by simp)
  | succ fuel ih =>
    obtain ⟨fuel', rfl⟩ := hf'.exists_succ h
    by_cases hb : F.Before 1 c
    swap
    · exact follows_of_not_before (readsOn_quotedRest _ _ _ _) hb
    rw [quotedRest, quotedRest]
    refine follows_peek ?_
    rw [h.peek hb]
    refine follows_ite Iff.rfl (fun _ => follows_pure ⟨rfl, h, Nat.le_refl _⟩) fun hc => ?_
    refine .bind_within ((follows_quotedSpaces h).and_ensures ensures_quotedSpaces_step)
      (fun _ _ => back_of_readsOn (reads_get.bind fun _ => (readsOn_quotedWord _ _ _ _).bind fun _ =>
        readsOn_quotedRest _ _ _ _) _) ?_
    rintro spaces d _ d' - ⟨⟨rfl, hd, hle⟩, hstep⟩
    refine follows_get ?_
    -- Spaces or a word bring the reader on.
    have hword : Ensures (quotedWord double start (d.rest.length + 1) []) d fun _ e => e.rest.length < c.rest.length := by
      rcases hstep with hlt | ⟨rfl, ch, hpeek, hblank, hbreak⟩
      · intro a e hrun
        obtain ⟨k, -, rfl, -⟩ := readsOn_quotedWord _ _ _ _ d a e hrun
        rw [length_skip]
        omega
      · exact ensures_quotedWord_step hpeek (fun heq => hc (by rw [hpeek, heq]; simp)) hblank hbreak
    refine .bind_within ((follows_quotedWord hd enough_left hd.enough_right).and_ensures hword)
      (fun _ _ => back_of_readsOn (readsOn_quotedRest _ _ _ _) _) ?_
    rintro word e _ e' - ⟨⟨rfl, he, -⟩, hlt⟩
    refine (ih he (hf.of_lt hlt) (hf'.of_lt hlt)).imp ?_
    rintro a r b r' - ⟨rfl, hr, hle⟩
    exact ⟨rfl, hr, by omega⟩

theorem follows_quotedScalar {double : Bool} (h : F.Beside c c') (hb : F.Before 1 c) {ch : Char} (hch : c.peek = some ch)
    (hne : ch ≠ ' ') : Follows (F.Before 0) (quotedScalar double) c (quotedScalar double) c' (F.Same 0 c) := by
  rw [quotedScalar]
  refine follows_mark (follows_char h hb hch hne fun d d' hd _ hlt => follows_get ?_)
  have hlast : ∀ (read : Text) (r : Cursor), Ensures (advance 1 >>= fun _ => pure (String.ofList read) : Lex String) r
      fun _ r' => F.Before 0 r' → F.Before 1 r := by
    intro read r a r' hrun hr'
    cases hrun
    rw [Before, length_skip] at hr'
    rcases hr' with hnil | hlen
    · exact .inl hnil
    · rcases Nat.eq_zero_or_pos F.left.length with hzero | hpos
      · exact .inl (List.length_eq_zero_iff.1 hzero)
      · exact .inr (by omega)
  refine .bind_within (follows_quotedWord hd enough_left hd.enough_right) (fun word r => ?_) ?_
  · exact back_bind reads_get (fun _ => back_bind (readsOn_quotedRest _ _ _ _) hlast) r
  rintro word e _ e' - ⟨rfl, he, hle⟩
  refine follows_get (.bind_within (follows_quotedRest he enough_left he.enough_right) hlast ?_)
  rintro read r _ r' hbr ⟨rfl, hr, hle'⟩
  refine follows_advance (follows_pure ⟨rfl, hr.skip hbr, ?_⟩)
  rw [length_skip]
  omega

/-! ## Plain scalars -/

theorem follows_plainBreaks {fuel fuel' : Nat} {read : Text} (h : F.Beside c c') (hf : F.Enough c fuel)
    (hf' : F.Enough c fuel') : Follows anywhere (plainBreaks fuel read) c (plainBreaks fuel' read) c' (F.Same 0 c) := by
  induction fuel generalizing c c' fuel' read with
  | zero => exact absurd (hf.exists_succ h) (by simp)
  | succ fuel ih =>
    obtain ⟨fuel', rfl⟩ := hf'.exists_succ h
    rw [plainBreaks, plainBreaks]
    refine follows_blanks (fun ch => endsWord_of_isSpace) h fun blanks d d' hd hlen _ => ?_
    refine follows_break hd (fun hd _ => follows_pure ⟨rfl, hd, by omega⟩) fun ch e e' he hbe hlt => follows_get ?_
    refine follows_ite (by rw [he.atSeparator hbe]) (fun _ => follows_pure ⟨rfl, he, by omega⟩) fun _ => ?_
    refine (ih he (hf.of_lt (by omega)) (hf'.of_lt (by omega))).imp ?_
    rintro a r b r' - ⟨rfl, hr, hle⟩
    exact ⟨rfl, hr, by omega⟩

theorem follows_plainSpaces (h : F.Beside c c') : Follows anywhere plainSpaces c plainSpaces c' (F.Same 0 c) := by
  rw [plainSpaces]
  refine follows_blanks (fun ch => endsWord_of_isSpace) h fun blanks d d' hd hlen _ => ?_
  refine follows_break hd (fun hd _ => follows_pure ⟨rfl, hd, by omega⟩) fun ch e e' he hbe hlt => follows_get ?_
  refine follows_ite (by rw [he.atSeparator hbe]) (fun _ => follows_pure ⟨rfl, he, by omega⟩) fun _ => follows_get ?_
  refine .bind (follows_plainBreaks he enough_left he.enough_right) ?_
  rintro a r _ r' ⟨rfl, hr, hle⟩
  exact follows_pure ⟨rfl, hr, by omega⟩

/-- The rest of a plain scalar takes the word that it starts with. -/
theorem reads_plainRest {place : PlainPlace} {fuel : Nat} {gap : Text} {read : PlainRead} (hc : c.peek ≠ some '#')
    (hword : plainWord place c.rest ≠ []) : ReadsFrom (fun _ => True) 1 (plainRest place (fuel + 1) gap read) c := by
  have hskip : ¬(c.peek == some '#' || (plainWord place c.rest).isEmpty) = true := by
    simpa using ⟨hc, hword⟩
  intro a c' h
  rw [plainRest] at h
  obtain ⟨d, e, hd, h⟩ := run_bind_eq_ok h
  cases hd
  rw [if_neg hskip] at h
  obtain ⟨u, e, hu, h⟩ := run_bind_eq_ok h
  have hlen : 1 ≤ (plainWord place c.rest).length := List.length_pos_iff.2 hword
  refine ((readsFrom_advance (fun _ _ => trivial) u e hu).mono (fun _ h => h) hlen).trans (Reads.bind ?_ ?_ _ _ _ h)
  · exact reads_mark
  · refine fun stop => readsOn_plainSpaces.bind fun found => ?_
    obtain ⟨spaces, afterBreak⟩ := found
    cases spaces with
    | none => exact reads_pure _
    | some spaces => exact reads_get.bind fun c => reads_ite (reads_pure _) (readsOn_plainRest _ _ _ _)

/-- A reader that takes a character where texts part leaves what they share. -/
theorem follows_of_leaves {x : Lex α} {y : Lex β} (hne : F.left ≠ []) (hc : c.rest = F.left)
    (hx : ReadsFrom (fun _ => True) 1 x c) : Follows (F.Before 0) x c y c' Q := by
  refine .of_not fun a d hrun hd => ?_
  obtain ⟨k, hk, rfl, -⟩ := hx a d hrun
  have hlen := hd.resolve_left hne
  have := List.length_pos_iff.2 hne
  rw [length_skip, hc] at hlen
  omega

/-- The same is read of a plain scalar, up to marks. -/
def SamePlain (F : Fork) (a : PlainRead) (d : Cursor) (b : PlainRead) (d' : Cursor) : Prop :=
  b.text = a.text ∧ b.afterBreak = a.afterBreak ∧ F.Marks a.stop b.stop ∧ F.Beside d d'

theorem follows_plainRest {place : PlainPlace} {fuel fuel' : Nat} {gap : Text} {read read' : PlainRead}
    (h : F.Beside c c') (hf : F.Enough c fuel) (hf' : F.Enough c fuel') (hr : SamePlain F read c read' c') :
    Follows (F.Before 0) (plainRest place fuel gap read) c (plainRest place fuel' gap read') c' (SamePlain F) := by
  induction fuel generalizing c c' fuel' gap read read' with
  | zero => exact absurd (hf.exists_succ h) (by simp)
  | succ fuel ih =>
    obtain ⟨fuel', rfl⟩ := hf'.exists_succ h
    rcases h.cases_start with hb | ⟨hne, hc, -⟩
    swap
    · obtain ⟨ch, r, hl, hquote⟩ := (F.parts hne).1
      refine follows_of_leaves hne hc (reads_plainRest ?_ ?_)
      · rw [Cursor.peek, hc, hl]
        rcases hquote with rfl | rfl <;> simp
      · rw [hc, hl, plainWord]
        rcases hquote with rfl | rfl <;> simp [continuesPlain, endsWord, isBreak, isLineEnd]
    obtain ⟨hword, hfar⟩ := h.plainWord hb place
    rw [plainRest, plainRest]
    refine follows_get ?_
    dsimp only
    rw [hword, h.peek hb]
    refine follows_ite Iff.rfl (fun _ => follows_pure hr) fun hskip => follows_advance (follows_mark ?_)
    have hd := h.skip (hfar.mono (Nat.le_succ _))
    have hlt : (c.skip (plainWord place c.rest).length).rest.length < c.rest.length := by
      have hword : 0 < (plainWord place c.rest).length := List.length_pos_iff.2 fun hnil => hskip (by rw [hnil]; simp)
      have hrest : 0 < c.rest.length := List.length_pos_iff.2 fun hnil => by
        rw [hnil] at hword
        exact absurd hword (Nat.lt_irrefl 0)
      rw [length_skip]
      omega
    refine .bind (follows_plainSpaces hd) ?_
    rintro ⟨spaces, afterBreak⟩ e _ e' ⟨rfl, he, hle⟩
    have hread : ∀ {e e' : Cursor}, F.Beside e e' → SamePlain F
        ⟨read.text ++ gap ++ plainWord place c.rest, (c.skip (plainWord place c.rest).length).mark, afterBreak⟩ e
        ⟨read'.text ++ gap ++ plainWord place c.rest, (c'.skip (plainWord place c.rest).length).mark, afterBreak⟩ e' :=
      fun he => ⟨by rw [hr.1], rfl, hd.marks, he⟩
    cases spaces with
    | none => exact follows_pure (hread he)
    | some spaces =>
      refine follows_get (follows_ite ?_ (fun _ => follows_pure (hread he)) fun _ => ?_)
      · rw [he.peek_beq (.inr rfl), F.column he.marks]
      · exact ih he (hf.of_lt (by omega)) (hf'.of_lt (by omega)) (hread he)

theorem follows_plainScalar {place : PlainPlace} (h : F.Beside c c') :
    Follows (F.Before 0) (plainScalar place) c (plainScalar place) c' (SamePlain F) := by
  rw [plainScalar]
  exact follows_get (follows_mark (follows_plainRest h enough_left h.enough_right ⟨rfl, rfl, h.marks, h⟩))

end Lex

end YamlStyle.Yaml
