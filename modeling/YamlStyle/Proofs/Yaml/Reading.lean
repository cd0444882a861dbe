import Mathlib
import YamlStyle.Yaml.Scalar

/-!
# Readers only read on

Whatever a reader of lexical units makes of a text, it leaves the cursor at a later place of the
same text. Names of anchors and tags stay on their line.
-/

namespace YamlStyle.Yaml

namespace Cursor

theorem rest_next (c : Cursor) : c.next.rest = c.rest.drop 1 := by
  obtain ⟨_ | ⟨ch, r⟩, m⟩ := c <;> rfl

theorem skip_add (m n : Nat) (c : Cursor) : c.skip (m + n) = (c.skip m).skip n := by
  induction m generalizing c with
  | zero => rw [Nat.zero_add, skip]
  | succ m ih => rw [Nat.add_right_comm, skip, ih, skip]

theorem rest_skip (n : Nat) (c : Cursor) : (c.skip n).rest = c.rest.drop n := by
  induction n generalizing c with
  | zero => rfl
  | succ n ih => rw [skip, ih, rest_next, List.drop_drop, Nat.add_comm 1]

/-- From `c` on to `c'`, over `least` characters or more, all of which satisfy `p`. -/
def Reaches (p : Char → Prop) (least : Nat) (c c' : Cursor) : Prop :=
  ∃ n, least ≤ n ∧ c' = c.skip n ∧ ∀ ch ∈ c.rest.take n, p ch

variable {p q : Char → Prop} {c c' c'' : Cursor} {k l : Nat}

theorem Reaches.refl (p : Char → Prop) (c : Cursor) : Reaches p 0 c c := ⟨0, Nat.le_refl 0, rfl, by simp⟩

theorem Reaches.trans (h : Reaches p k c c') (h' : Reaches p l c' c'') : Reaches p (k + l) c c'' := by
  obtain ⟨m, hkm, rfl, hm⟩ := h
  obtain ⟨n, hln, rfl, hn⟩ := h'
  refine ⟨m + n, by omega, (skip_add m n c).symm, fun ch hch => ?_⟩
  rw [List.take_add, List.mem_append, ← rest_skip] at hch
  exact hch.elim (hm ch) (hn ch)

theorem Reaches.mono (h : Reaches p k c c') (hpq : ∀ ch, p ch → q ch) (hl : l ≤ k) : Reaches q l c c' := by
  obtain ⟨n, hn, rfl, hp⟩ := h
  exact ⟨n, Nat.le_trans hl hn, rfl, fun ch hch => hpq ch (hp ch hch)⟩

theorem reaches_lineBreak (c : Cursor) : c.Reaches (fun _ => True) 0 c.lineBreak.2 := by
  unfold lineBreak
  split
  · exact ⟨2, by omega, rfl, by simp⟩
  · split
    · exact ⟨1, by omega, rfl, by simp⟩
    · split
      · exact ⟨1, by omega, rfl, by simp⟩
      · exact .refl _ c
  · exact .refl _ c

end Cursor

namespace Lex

variable {α β : Type} {p q : Char → Prop} {c : Cursor} {k : Nat}

/-- A reader that reads on from `c`, over `least` characters or more that satisfy `p`. -/
def ReadsFrom (p : Char → Prop) (least : Nat) (read : Lex α) (c : Cursor) : Prop :=
  ∀ a c', read.run c = .ok (a, c') → c.Reaches p least c'

/-- A reader that only reads on, over characters that satisfy `p`. -/
def Reads (p : Char → Prop) (read : Lex α) : Prop := ∀ c, ReadsFrom p 0 read c

/-- A reader that only reads on. -/
def ReadsOn (read : Lex α) : Prop := Reads (fun _ => True) read

/-! ## Readers made of others -/

theorem run_bind_eq_ok {x : Lex α} {f : α → Lex β} {b : β} {c c' : Cursor} (h : (x >>= f).run c = .ok (b, c')) :
    ∃ a d, x.run c = .ok (a, d) ∧ (f a).run d = .ok (b, c') := by
  rw [StateT.run_bind] at h
  cases hx : x.run c with
  | error e => rw [hx] at h; cases h
  | ok r =>
    rw [hx] at h
    exact ⟨r.1, r.2, rfl, h⟩

theorem ReadsFrom.bind {x : Lex α} {f : α → Lex β} (hx : ReadsFrom p k x c) (hf : ∀ a, Reads p (f a)) :
    ReadsFrom p k (x >>= f) c := by
  intro b c'' h
  obtain ⟨a, c', hx', hf'⟩ := run_bind_eq_ok h
  exact (hx a c' hx').trans (hf a c' b c'' hf')

theorem Reads.bind {x : Lex α} {f : α → Lex β} (hx : Reads p x) (hf : ∀ a, Reads p (f a)) : Reads p (x >>= f) :=
  fun c => (hx c).bind hf

theorem ReadsFrom.least {x : Lex α} {l : Nat} (hx : ReadsFrom p k x c) (hl : l ≤ k) : ReadsFrom p l x c :=
  fun a c' hr => (hx a c' hr).mono (fun _ h => h) hl

theorem Reads.mono {x : Lex α} (hx : Reads p x) (h : ∀ ch, p ch → q ch) : Reads q x :=
  fun c a c' hr => (hx c a c' hr).mono h (Nat.le_refl 0)

theorem reads_pure (a : α) : Reads p (pure a) := by
  intro c b c' h
  cases h
  exact .refl p c

theorem readsFrom_get {f : Cursor → Lex α} (h : ReadsFrom p k (f c) c) : ReadsFrom p k (get >>= f) c :=
  fun a c' hr => h a c' hr

theorem readsFrom_mark {f : Mark → Lex α} (h : ReadsFrom p k (f c.mark) c) : ReadsFrom p k (mark >>= f) c :=
  fun a c' hr => h a c' hr

theorem readsFrom_peek {f : Option Char → Lex α} (h : ReadsFrom p k (f c.peek) c) : ReadsFrom p k (peek >>= f) c :=
  fun a c' hr => h a c' hr

theorem reads_get : Reads p get := by
  intro c a c' h
  cases h
  exact .refl p c

theorem reads_throw (e : Failure) : Reads p (throw e : Lex α) := by
  intro c a c' h
  cases h

theorem reads_mark : Reads p mark := reads_get.bind fun _ => reads_pure _

theorem reads_peek : Reads p peek := reads_get.bind fun _ => reads_pure _

theorem reads_fail (context : Context) (start : Mark) (cause : Cause) : Reads p (fail context start cause : Lex α) :=
  reads_mark.bind fun _ => reads_throw _

theorem reads_lift (x : Except Failure α) : Reads p (liftM x : Lex α) := by
  intro c a c' h
  cases x with
  | error e => cases h
  | ok b =>
    cases h
    exact .refl p c

theorem readsFrom_fail_bind (context : Context) (start : Mark) (cause : Cause) (f : α → Lex β) :
    ReadsFrom p k (fail context start cause >>= f) c := by
  intro a c' h
  cases h

theorem readsFrom_advance {n : Nat} (h : ∀ ch ∈ c.rest.take n, p ch) : ReadsFrom p n (advance n) c := by
  intro a c' hr
  cases hr
  exact ⟨n, Nat.le_refl n, rfl, h⟩

theorem reads_advance (n : Nat) : ReadsOn (advance n) :=
  fun _ a c' h => (readsFrom_advance (fun _ _ => trivial) a c' h).mono (fun _ h => h) (Nat.zero_le n)

theorem take_length_takeWhile (r : Char → Bool) (t : Text) : t.take (t.takeWhile r).length = t.takeWhile r :=
  (List.prefix_iff_eq_take.1 (List.takeWhile_prefix r)).symm

theorem reads_span {r : Char → Bool} (h : ∀ ch, r ch = true → p ch) : Reads p (span r) := by
  intro c a c' hr
  cases hr
  refine ⟨_, Nat.zero_le _, rfl, fun ch hch => ?_⟩
  rw [take_length_takeWhile] at hch
  exact h ch (List.all_eq_true.1 List.all_takeWhile ch hch)

theorem readsOn_span (r : Char → Bool) : ReadsOn (span r) := reads_span fun _ _ => trivial

theorem readsOn_lineBreak : ReadsOn lineBreak := by
  intro c a c' h
  have h' : c.lineBreak = (a, c') := Except.ok.inj h
  have hreach := c.reaches_lineBreak
  rw [h'] at hreach
  exact hreach

theorem reads_ite {b : Prop} [Decidable b] {x y : Lex α} (hx : Reads p x) (hy : Reads p y) :
    Reads p (if b then x else y) := by
  split
  · exact hx
  · exact hy

/-- A check that fails or does nothing. -/
theorem reads_check {b : Prop} [Decidable b] {x : Lex Unit} {y : Unit → Lex α} (hx : Reads p x)
    (hy : ∀ u, Reads p (y u)) : Reads p (if b then x >>= y else y ()) :=
  reads_ite (hx.bind hy) (hy ())

/-! ## Scalars -/

theorem readsOn_quotedBreaks (start : Mark) (fuel : Nat) (read : Text) : ReadsOn (quotedBreaks start fuel read) := by
  induction fuel generalizing read with
  | zero => exact reads_pure _
  | succ fuel ih =>
    refine reads_get.bind fun c => reads_check (reads_fail _ _ _) fun _ => ?_
    refine (readsOn_span _).bind fun _ => readsOn_lineBreak.bind fun found => ?_
    split
    · exact ih _
    · exact reads_pure _

theorem readsOn_quotedSpaces (start : Mark) : ReadsOn (quotedSpaces start) := by
  refine (readsOn_span _).bind fun blanks => reads_peek.bind fun c => reads_check (reads_fail _ _ _) fun _ => ?_
  refine readsOn_lineBreak.bind fun found => ?_
  split
  · exact reads_get.bind fun _ => (readsOn_quotedBreaks _ _ _).bind fun _ => reads_pure _
  · exact reads_pure _

theorem readsOn_escape (start : Mark) : ReadsOn (escape start) := by
  refine reads_get.bind fun c => ?_
  split
  · exact (reads_advance 1).bind fun _ => reads_pure _
  · refine (reads_advance 1).bind fun _ => reads_get.bind fun c => ?_
    split
    · exact reads_fail _ _ _
    · exact (reads_lift _).bind fun ch => (reads_advance _).bind fun _ => reads_pure _
  · refine readsOn_lineBreak.bind fun found => ?_
    split
    · exact reads_get.bind fun _ => readsOn_quotedBreaks _ _ _
    · exact reads_fail _ _ _

theorem readsOn_quotedWord (double : Bool) (start : Mark) (fuel : Nat) (read : Text) :
    ReadsOn (quotedWord double start fuel read) := by
  induction fuel generalizing read with
  | zero => exact reads_pure _
  | succ fuel ih =>
    refine (readsOn_span _).bind fun word => reads_get.bind fun c => ?_
    split
    · exact reads_ite ((reads_advance 2).bind fun _ => ih _) (reads_pure _)
    · exact (reads_advance 1).bind fun _ => ih _
    · exact (reads_advance 1).bind fun _ => ih _
    · exact (reads_advance 1).bind fun _ => ih _
    · exact (reads_advance 1).bind fun _ => (readsOn_escape start).bind fun _ => ih _
    · exact reads_pure _

theorem readsOn_quotedRest (double : Bool) (start : Mark) (fuel : Nat) (read : Text) :
    ReadsOn (quotedRest double start fuel read) := by
  induction fuel generalizing read with
  | zero => exact reads_pure _
  | succ fuel ih =>
    refine reads_peek.bind fun c => reads_ite (reads_pure _) ?_
    exact (readsOn_quotedSpaces start).bind fun _ => reads_get.bind fun _ =>
      (readsOn_quotedWord _ _ _ _).bind fun _ => ih _

theorem reads_quotedScalar (double : Bool) (c : Cursor) : ReadsFrom (fun _ => True) 1 (quotedScalar double) c := by
  refine readsFrom_mark ((readsFrom_advance fun _ _ => trivial).bind fun _ => ?_)
  exact reads_get.bind fun _ => (readsOn_quotedWord _ _ _ _).bind fun _ => reads_get.bind fun _ =>
    (readsOn_quotedRest _ _ _ _).bind fun _ => (reads_advance 1).bind fun _ => reads_pure _

theorem readsOn_plainBreaks (fuel : Nat) (read : Text) : ReadsOn (plainBreaks fuel read) := by
  induction fuel generalizing read with
  | zero => exact reads_pure _
  | succ fuel ih =>
    refine (readsOn_span _).bind fun _ => readsOn_lineBreak.bind fun found => ?_
    split
    · exact reads_get.bind fun c => reads_ite (reads_pure _) (ih _)
    · exact reads_pure _

theorem readsOn_plainSpaces : ReadsOn plainSpaces := by
  refine (readsOn_span _).bind fun _ => readsOn_lineBreak.bind fun found => ?_
  split
  · refine reads_get.bind fun c => reads_ite (reads_pure _) ?_
    exact reads_get.bind fun _ => (readsOn_plainBreaks _ _).bind fun _ => reads_pure _
  · exact reads_pure _

theorem readsOn_plainRest (place : PlainPlace) (fuel : Nat) (gap : Text) (read : PlainRead) :
    ReadsOn (plainRest place fuel gap read) := by
  induction fuel generalizing gap read with
  | zero => exact reads_pure _
  | succ fuel ih =>
    refine reads_get.bind fun c => reads_ite (reads_pure _) ?_
    refine (reads_advance _).bind fun _ => reads_mark.bind fun stop => readsOn_plainSpaces.bind fun found => ?_
    obtain ⟨spaces, afterBreak⟩ := found
    cases spaces with
    | none => exact reads_pure _
    | some spaces => exact reads_get.bind fun c => reads_ite (reads_pure _) (ih _ _)

/-- A plain scalar takes its first word at least. -/
theorem reads_plainScalar {place : PlainPlace} {c : Cursor} (hc : c.peek ≠ some '#')
    (hword : plainWord place c.rest ≠ []) : ReadsFrom (fun _ => True) 1 (plainScalar place) c := by
  refine readsFrom_get (readsFrom_mark ?_)
  have hskip : ¬(c.peek == some '#' || (plainWord place c.rest).isEmpty) = true := by
    simpa using ⟨hc, hword⟩
  intro a c' h
  rw [plainRest] at h
  obtain ⟨d, e, hd, h⟩ := run_bind_eq_ok h
  cases hd
  rw [if_neg hskip] at h
  obtain ⟨u, e, hu, h⟩ := run_bind_eq_ok h
  have hlen : 1 ≤ (plainWord place c.rest).length := List.length_pos_iff.2 hword
  refine ((readsFrom_advance (fun _ _ => trivial) u e hu).mono (fun _ h => h) hlen).trans (Reads.bind ?_ ?_ _ _ _ h)
  · exact reads_mark
  · refine fun stop => readsOn_plainSpaces.bind fun found => ?_
    obtain ⟨spaces, afterBreak⟩ := found
    cases spaces with
    | none => exact reads_pure _
    | some spaces => exact reads_get.bind fun c => reads_ite (reads_pure _) (readsOn_plainRest _ _ _ _)

/-! ## Block scalars -/

theorem readsOn_chomping : ReadsOn chomping := by
  refine reads_peek.bind fun c => ?_
  split
  · exact (reads_advance 1).bind fun _ => reads_pure _
  · exact (reads_advance 1).bind fun _ => reads_pure _
  · exact reads_pure _

theorem readsOn_indentationIndicator (start : Mark) : ReadsOn (indentationIndicator start) := by
  refine reads_peek.bind fun c => ?_
  split
  · exact reads_ite (reads_check (reads_fail _ _ _) fun _ => (reads_advance 1).bind fun _ => reads_pure _)
      (reads_pure _)
  · exact reads_pure _

theorem readsOn_blockIndicators (start : Mark) : ReadsOn (blockIndicators start) := by
  refine readsOn_chomping.bind fun chomp => ?_
  have hend : ∀ found : Chomping × Option Nat, ReadsOn (do
      if !endsName (← peek) then fail .blockScalar start (.expectedBlockIndicator (← peek))
      return found) := fun found =>
    reads_peek.bind fun c => reads_ite (reads_peek.bind fun _ => (reads_fail _ _ _).bind fun _ => reads_pure _)
      (reads_pure _)
  split
  · refine (readsOn_indentationIndicator start).bind fun indent => reads_ite ?_ ?_
    · exact readsOn_chomping.bind fun _ => (reads_pure _).bind hend
    · exact (reads_pure _).bind fun _ => (reads_pure _).bind hend
  · exact (readsOn_indentationIndicator start).bind fun _ => (reads_pure _).bind hend

theorem readsOn_restOfLine (context : Context) (start : Mark) : ReadsOn (restOfLine context start) := by
  refine (readsOn_span _).bind fun _ => reads_peek.bind fun c => ?_
  have hend : ReadsOn (do
      if !endsLine (← peek) then fail context start (.expectedCommentOrBreak (← peek))
      let _ ← lineBreak) :=
    reads_peek.bind fun c => reads_ite
      (reads_peek.bind fun _ => (reads_fail _ _ _).bind fun _ => readsOn_lineBreak.bind fun _ => reads_pure _)
      (readsOn_lineBreak.bind fun _ => reads_pure _)
  exact reads_ite ((readsOn_span _).bind fun _ => hend) hend

theorem readsOn_leadingLines (fuel : Nat) (seen : LeadingLines) : ReadsOn (leadingLines fuel seen) := by
  induction fuel generalizing seen with
  | zero => exact reads_pure _
  | succ fuel ih =>
    refine reads_get.bind fun c => reads_ite ?_ ?_
    · exact (reads_advance 1).bind fun _ => reads_mark.bind fun _ => ih _
    · refine readsOn_lineBreak.bind fun found => ?_
      split
      · exact reads_mark.bind fun _ => ih _
      · exact reads_pure _

theorem readsOn_skipToColumn (column : Nat) : ReadsOn (skipToColumn column) :=
  reads_get.bind fun _ => reads_advance _

theorem readsOn_blockBreaks (indent fuel : Nat) (read : Text) (stop : Mark) :
    ReadsOn (blockBreaks indent fuel read stop) := by
  induction fuel generalizing read stop with
  | zero => exact reads_pure _
  | succ fuel ih =>
    refine readsOn_lineBreak.bind fun found => ?_
    split
    · exact reads_mark.bind fun _ => (readsOn_skipToColumn _).bind fun _ => ih _ _
    · exact reads_pure _

theorem readsOn_blockLines (isFolded atTop : Bool) (indent fuel : Nat) (read : BlockRead) :
    ReadsOn (blockLines isFolded atTop indent fuel read) := by
  induction fuel generalizing read with
  | zero => exact reads_pure _
  | succ fuel ih =>
    refine reads_get.bind fun c => reads_ite (reads_pure _) ?_
    refine (readsOn_span _).bind fun line => readsOn_lineBreak.bind fun lastBreak => reads_mark.bind fun _ => ?_
    refine (readsOn_skipToColumn _).bind fun _ => reads_get.bind fun _ => (readsOn_blockBreaks _ _ _ _).bind fun _ => ?_
    exact reads_get.bind fun c' => reads_ite (reads_pure _) (ih _)

theorem reads_blockScalar (isFolded : Bool) (parent : Int) (c : Cursor) :
    ReadsFrom (fun _ => True) 1 (blockScalar isFolded parent) c := by
  refine readsFrom_mark ((readsFrom_advance fun _ _ => trivial).bind fun _ => ?_)
  refine (readsOn_blockIndicators _).bind fun found => (readsOn_restOfLine _ _).bind fun _ => ?_
  dsimp only
  split
  · refine reads_get.bind fun _ => reads_mark.bind fun _ => (readsOn_leadingLines _ _).bind fun seen => ?_
    split
    · refine reads_ite (reads_mark.bind fun _ => (reads_throw _).bind fun _ => ?_) ?_
      · exact (reads_pure _).bind fun _ => reads_get.bind fun _ => (readsOn_blockLines _ _ _ _ _).bind fun _ =>
          reads_pure _
      · exact (reads_pure _).bind fun _ => reads_get.bind fun _ => (readsOn_blockLines _ _ _ _ _).bind fun _ =>
          reads_pure _
    · exact (reads_pure _).bind fun _ => reads_get.bind fun _ => (readsOn_blockLines _ _ _ _ _).bind fun _ =>
        reads_pure _
  · refine reads_mark.bind fun _ => (readsOn_skipToColumn _).bind fun _ => reads_get.bind fun _ => ?_
    exact (readsOn_blockBreaks _ _ _ _).bind fun _ => (reads_pure _).bind fun _ => reads_get.bind fun _ =>
      (readsOn_blockLines _ _ _ _ _).bind fun _ => reads_pure _

/-! ## Names and tags -/

/-- A reader that stays on its line. -/
def StaysOnLine (read : Lex α) : Prop := Reads (· ≠ '\n') read

theorem StaysOnLine.readsOn {read : Lex α} (h : StaysOnLine read) : ReadsOn read := h.mono fun _ _ => trivial

theorem mem_take_one {ch d : Char} (hc : c.peek = some d) (h : ch ∈ c.rest.take 1) : ch = d := by
  obtain ⟨_ | ⟨e, r⟩, m⟩ := c
  · cases hc
  · simp only [Cursor.peek, List.head?_cons, Option.some.injEq] at hc
    simpa [hc] using h

/-- An indicator, read over. -/
theorem readsFrom_indicator {d : Char} (hc : c.peek = some d) (hd : d ≠ '\n') :
    ReadsFrom (· ≠ '\n') 1 (advance 1) c :=
  readsFrom_advance fun _ hch => by rw [mem_take_one hc hch]; exact hd

theorem reads_anchorName {context : Context} {d : Char} (hc : c.peek = some d) (hd : d ≠ '\n') :
    ReadsFrom (· ≠ '\n') 1 (anchorName context) c := by
  refine readsFrom_mark ((readsFrom_indicator hc hd).bind fun _ => ?_)
  have hspan : StaysOnLine (span isAnchorChar) := reads_span fun ch h => by
    rintro rfl
    revert h
    decide
  exact hspan.bind fun _ => reads_peek.bind fun _ =>
    reads_ite ((reads_fail _ _ _).bind fun _ => reads_pure _) (reads_pure _)

theorem reads_handle (context : Context) (start : Mark) (c : Cursor) :
    ReadsFrom (· ≠ '\n') 1 (handle context start) c := by
  refine readsFrom_get ?_
  dsimp only
  by_cases hc : c.peek = some '!'
  · rw [if_neg (by simp [hc])]
    split
    · exact (readsFrom_indicator hc (by decide)).bind fun _ => reads_pure _
    · split
      · intro a c' h
        obtain ⟨u, d, hu, h⟩ := run_bind_eq_ok h
        obtain ⟨u, d, hu, h⟩ := run_bind_eq_ok h
        cases hu
      · next hfound =>
        have hfound : c.peekAt (1 + ((c.rest.drop 1).takeWhile isWordChar).length) = some '!' := by simpa using hfound
        obtain ⟨_ | ⟨e, r⟩, m⟩ := c
        · cases hc
        · have he : e = '!' := by simpa [Cursor.peek] using hc
          subst he
          simp only [Cursor.peekAt, List.drop_succ_cons, List.drop_zero, Nat.add_comm 1,
            List.getElem?_cons_succ] at hfound ⊢
          intro a c' h
          refine (((readsFrom_advance fun ch hch => ?_).bind fun _ => reads_pure _).least (by omega)) a c' h
          -- A bang, the word and the bang that ends it.
          rw [List.take_succ_cons, List.take_add_one, hfound, take_length_takeWhile] at hch
          rcases List.mem_cons.1 hch with rfl | hch
          · decide
          rcases List.mem_append.1 hch with hch | hch
          · rintro rfl
            exact absurd (List.all_eq_true.1 List.all_takeWhile _ hch) (by decide)
          · have hbang : ch = '!' := by simpa using hch
            rw [hbang]
            decide
  · rw [if_pos (by simp [hc])]
    exact readsFrom_fail_bind _ _ _ _

theorem staysOnLine_handle (context : Context) (start : Mark) : StaysOnLine (handle context start) := fun c =>
  (reads_handle context start c).least (Nat.zero_le 1)

/-- Two hexadecimal digits, checked before they are read over. -/
theorem readsFrom_escapeDigits
    (h : ([0, 1].map c.peekAt).find? (fun d => !(d.map Text.isHexDigit).getD false) = none) :
    ReadsFrom (· ≠ '\n') 2 (advance 2) c := by
  refine readsFrom_advance fun ch hch => ?_
  have hdigit : Text.isHexDigit ch = true := by
    obtain ⟨_ | ⟨x, _ | ⟨y, r⟩⟩, m⟩ := c
    · simp at hch
    · simp [Cursor.peekAt] at h
    · simp only [List.map_cons, List.map_nil, Cursor.peekAt, List.find?_eq_none] at h
      simp only [List.take_succ_cons, List.take_zero, List.mem_cons, List.not_mem_nil, or_false] at hch
      rcases hch with rfl | rfl
      · simpa using h (some ch) (by simp)
      · simpa using h (some ch) (by simp)
  rintro rfl
  exact absurd hdigit (by decide)

theorem staysOnLine_uriEscapes (context : Context) (start : Mark) (fuel : Nat) (bytes : List UInt8) :
    StaysOnLine (uriEscapes context start fuel bytes) := by
  induction fuel generalizing bytes with
  | zero => exact reads_pure _
  | succ fuel ih =>
    intro c
    refine readsFrom_peek ?_
    by_cases hc : c.peek = some '%'
    · rw [if_neg (by simp [hc])]
      refine ((readsFrom_indicator hc (by decide)).bind fun _ d => readsFrom_get ?_).least (Nat.zero_le 1)
      dsimp only
      split
      · exact reads_fail _ _ _ d
      · next h => exact ((readsFrom_escapeDigits h).bind fun _ => ih _).least (Nat.zero_le 2)
    · rw [if_pos (by simp [hc])]
      exact reads_pure _ c

theorem staysOnLine_uriParts (version : Version) (escapes : Context) (start : Mark) (fuel : Nat) (read : Text) :
    StaysOnLine (uriParts version escapes start fuel read) := by
  induction fuel generalizing read with
  | zero => exact reads_pure _
  | succ fuel ih =>
    have hspan : StaysOnLine (span fun c => isUriChar version c && c != '%') := reads_span fun ch h => by
      rintro rfl
      revert h
      simp [isUriChar]
      decide
    refine hspan.bind fun plain => reads_peek.bind fun c => reads_ite (reads_pure _) ?_
    refine reads_mark.bind fun escapesAt => reads_get.bind fun _ => (staysOnLine_uriEscapes _ _ _ _).bind fun bytes => ?_
    split
    · exact ih _
    · exact reads_throw _

theorem staysOnLine_uri (version : Version) (context escapes : Context) (start : Mark) :
    StaysOnLine (uri version context escapes start) := by
  refine reads_mark.bind fun before => reads_get.bind fun _ => (staysOnLine_uriParts _ _ _ _ _).bind fun read => ?_
  exact reads_mark.bind fun after =>
    reads_ite (reads_peek.bind fun _ => (reads_fail _ _ _).bind fun _ => reads_pure _) (reads_pure _)

theorem reads_tag {version : Version} (hc : c.peek = some '!') : ReadsFrom (· ≠ '\n') 1 (tag version) c := by
  refine readsFrom_mark (readsFrom_get ?_)
  dsimp only
  -- A second bang leaves the cursor at a bang, too.
  have hbang : ∀ u d, (advance ((if (c.peekAt 1 == some '!') = true then "!!" else "!").length - 1)).run c = .ok (u, d) →
      d.peek = some '!' ∧ c.Reaches (· ≠ '\n') 0 d := by
    intro u d h
    split at h
    · next h1 =>
      refine ⟨?_, (readsFrom_indicator hc (by decide) u d h).mono (fun _ h => h) (Nat.zero_le _)⟩
      cases h
      rw [Cursor.peek, Cursor.rest_skip, List.head?_drop]
      exact eq_of_beq h1
    · cases h
      exact ⟨hc, .refl _ c⟩
  intro a c' h
  obtain ⟨u, d, hu, h⟩ := run_bind_eq_ok h
  obtain ⟨hd, hreach⟩ := hbang u d hu
  refine (hreach.trans ((readsFrom_get ?_ : ReadsFrom _ 1 _ d) a c' h)).mono (fun _ h => h) (by omega)
  have hend : ∀ read : Tag, StaysOnLine (do
      if !endsName (← peek) then fail .tag c.mark (.expectedSpace (← peek))
      return read) := fun _ =>
    reads_peek.bind fun _ => reads_ite (reads_peek.bind fun _ => (reads_fail _ _ _).bind fun _ => reads_pure _)
      (reads_pure _)
  split
  · next hangle =>
    have htwo : ∀ ch ∈ d.rest.take 2, ch ≠ '\n' := by
      intro ch hch
      rw [List.take_add_one, List.mem_append, ← Cursor.peekAt, eq_of_beq hangle] at hch
      rcases hch with hch | hch
      · rw [mem_take_one hd hch]
        decide
      · have : ch = '<' := by simpa using hch
        rw [this]
        decide
    refine ((readsFrom_advance htwo).bind fun _ => (staysOnLine_uri _ _ _ _).bind fun suffix => ?_).least (by omega)
    refine fun e => readsFrom_peek ?_
    by_cases he : e.peek = some '>'
    · rw [if_neg (by simp [he])]
      exact ((readsFrom_indicator he (by decide)).bind fun _ => (reads_pure _).bind hend).least (by omega)
    · rw [if_pos (by simp [he])]
      exact readsFrom_peek (readsFrom_fail_bind _ _ _ _)
  · split
    · exact (readsFrom_indicator hd (by decide)).bind fun _ => (reads_pure _).bind hend
    · split
      · exact (reads_handle _ _ d).bind fun h => (staysOnLine_uri _ _ _ _).bind fun _ => (reads_pure _).bind hend
      · exact (readsFrom_indicator hd (by decide)).bind fun _ => (staysOnLine_uri _ _ _ _).bind fun _ =>
          (reads_pure _).bind hend

/-! ## Directives -/

theorem readsOn_versionNumber (start : Mark) : ReadsOn (versionNumber start) := by
  refine (readsOn_span _).bind fun digits => ?_
  refine reads_ite (reads_peek.bind fun _ => (reads_fail _ _ _).bind fun _ => ?_) ?_
  all_goals
    split
    · exact reads_pure _
    · exact reads_throw _

theorem readsOn_versionValue (start : Mark) : ReadsOn (versionValue start) := by
  refine (readsOn_span _).bind fun _ => (readsOn_versionNumber start).bind fun major => reads_peek.bind fun _ => ?_
  have hend : ReadsOn (do
      advance 1
      let minor ← versionNumber start
      if !endsName (← peek) then fail .directive start (.expectedDigitOrDot (← peek))
      return (⟨major, minor⟩ : Version)) :=
    (reads_advance 1).bind fun _ => (readsOn_versionNumber start).bind fun minor => reads_peek.bind fun _ =>
      reads_ite (reads_peek.bind fun _ => (reads_fail _ _ _).bind fun _ => reads_pure _) (reads_pure _)
  exact reads_ite (reads_peek.bind fun _ => (reads_fail _ _ _).bind fun _ => hend) hend

theorem readsOn_tagValue (version : Version) (start : Mark) : ReadsOn (tagValue version start) := by
  refine (readsOn_span _).bind fun _ => (staysOnLine_handle _ _).readsOn.bind fun h => reads_peek.bind fun _ => ?_
  have hend : ReadsOn (do
      let _ ← span (· == ' ')
      let lead ← uri version .directiveUri .directive start
      if !endsName (← peek) then fail .directive start (.expectedSpace (← peek))
      return (h, lead)) :=
    (readsOn_span _).bind fun _ => (staysOnLine_uri _ _ _ _).readsOn.bind fun lead => reads_peek.bind fun _ =>
      reads_ite (reads_peek.bind fun _ => (reads_fail _ _ _).bind fun _ => reads_pure _) (reads_pure _)
  exact reads_ite (reads_peek.bind fun _ => (reads_fail _ _ _).bind fun _ => hend) hend

theorem reads_directive (version : Version) (c : Cursor) : ReadsFrom (fun _ => True) 1 (directive version) c := by
  refine readsFrom_mark ((readsFrom_advance fun _ _ => trivial).bind fun _ => (readsOn_span _).bind fun name => ?_)
  refine reads_peek.bind fun _ => ?_
  have hend : ∀ read : Directive × Mark, ReadsOn (do restOfLine .directive c.mark; return read) := fun _ =>
    (readsOn_restOfLine _ _).bind fun _ => reads_pure _
  refine reads_ite (reads_peek.bind fun _ => (reads_fail _ _ _).bind fun _ => ?_) ?_
  all_goals
    refine reads_ite ?_ (reads_ite ?_ ?_)
    · exact (readsOn_versionValue _).bind fun _ => reads_mark.bind fun _ => (reads_pure _).bind hend
    · exact (readsOn_tagValue _ _).bind fun _ => reads_mark.bind fun _ => (reads_pure _).bind hend
    · exact reads_mark.bind fun _ => (readsOn_span _).bind fun _ => (reads_pure _).bind hend

end Lex

end YamlStyle.Yaml
