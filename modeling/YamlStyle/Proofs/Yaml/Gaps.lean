import YamlStyle.Proofs.Yaml.Ensures
import YamlStyle.Proofs.Yaml.PlainText

/-!
# Gaps outside flow collections

Spaces, comments and line breaks up to the next token. What a plain scalar reads after its last word is a part of the gap
that would be read without it.
-/

namespace YamlStyle.Yaml

namespace Cursor

/-- Past the spaces at hand. -/
def pastSpaces (c : Cursor) : Cursor := c.skip (c.rest.takeWhile (· == ' ')).length

/-- Past the spaces at hand, and past a comment after them. -/
def pastComment (c : Cursor) : Cursor :=
  if c.pastSpaces.peek == some '#' then c.pastSpaces.skip (c.pastSpaces.rest.takeWhile (!isBreak ·)).length
  else c.pastSpaces

variable {c d : Cursor}

theorem rest_pastSpaces (c : Cursor) : c.pastSpaces.rest = c.rest.dropWhile (· == ' ') := by
  have hsplit : c.rest.drop (c.rest.takeWhile (· == ' ')).length =
      (c.rest.takeWhile (· == ' ') ++ c.rest.dropWhile (· == ' ')).drop (c.rest.takeWhile (· == ' ')).length := by
    rw [List.takeWhile_append_dropWhile]
  rw [pastSpaces, rest_skip, hsplit, List.drop_left]

theorem pastSpaces_pastSpaces (c : Cursor) : c.pastSpaces.pastSpaces = c.pastSpaces := by
  have hnil : c.pastSpaces.rest.takeWhile (· == ' ') = [] := by
    rw [rest_pastSpaces]
    cases hd : c.rest.dropWhile (· == ' ') with
    | nil => rfl
    | cons ch r =>
      have hch := List.dropWhile_get_zero_not (· == ' ') c.rest (by rw [hd]; simp)
      simp only [hd, List.get_eq_getElem, List.getElem_cons_zero] at hch
      exact List.takeWhile_cons_of_neg hch
  rw [pastSpaces, hnil]
  rfl

theorem pastComment_pastSpaces (c : Cursor) : c.pastSpaces.pastComment = c.pastComment := by
  rw [pastComment, pastComment, pastSpaces_pastSpaces]

/-- From one place on to a later one. -/
def IsOn (c d : Cursor) : Prop := ∃ k, d = c.skip k

theorem IsOn.trans {e : Cursor} (h : c.IsOn d) (h' : d.IsOn e) : c.IsOn e := by
  obtain ⟨k, rfl⟩ := h
  obtain ⟨l, rfl⟩ := h'
  exact ⟨k + l, (skip_add k l c).symm⟩

theorem isOn_pastSpaces (c : Cursor) : c.IsOn c.pastSpaces := ⟨_, rfl⟩

theorem isOn_pastComment (c : Cursor) : c.IsOn c.pastComment := by
  rw [pastComment]
  split
  · exact c.isOn_pastSpaces.trans ⟨_, rfl⟩
  · exact c.isOn_pastSpaces

theorem isOn_lineBreak (c : Cursor) : c.IsOn c.lineBreak.2 := by
  obtain ⟨k, -, hk, -⟩ := c.reaches_lineBreak
  exact ⟨k, hk⟩

theorem line_advanceMark_le (m : Mark) (ch : Char) (following : Option Char) :
    m.line ≤ (advanceMark m ch following).line := by
  unfold advanceMark
  split
  · exact Nat.le_succ _
  · split <;> exact Nat.le_refl _

theorem IsOn.line_le (h : c.IsOn d) : c.mark.line ≤ d.mark.line := by
  obtain ⟨k, rfl⟩ := h
  induction k generalizing c with
  | zero => exact Nat.le_refl _
  | succ k ih =>
    refine Nat.le_trans ?_ (ih (c := c.next))
    obtain ⟨_ | ⟨ch, r⟩, m⟩ := c
    · exact Nat.le_refl _
    · exact line_advanceMark_le _ _ _

theorem IsOn.length_le (h : c.IsOn d) : d.rest.length ≤ c.rest.length := by
  obtain ⟨k, rfl⟩ := h
  rw [rest_skip, List.length_drop]
  omega

/-- After a line break less is left. -/
theorem length_lineBreak_lt {ch : Char} (h : c.lineBreak = (some ch, d)) : d.rest.length < c.rest.length := by
  obtain ⟨_ | ⟨x, r⟩, m⟩ := c
  · cases h
  · have hskip : ∀ {n : Nat}, 0 < n → ((mk (x :: r) m).skip n).rest.length < (mk (x :: r) m).rest.length := by
      intro n hn
      rw [rest_skip, List.length_drop]
      simp only [List.length_cons]
      omega
    unfold lineBreak at h
    split at h
    · cases h
      exact hskip (by decide)
    · split at h
      · cases h
        exact hskip (n := 1) (by decide)
      · split at h
        · cases h
          exact hskip (n := 1) (by decide)
        · cases h
    · cases h

/-- Where a line break is read there is no space. -/
theorem pastSpaces_of_lineBreak {ch : Char} (h : c.lineBreak = (some ch, d)) : c.pastSpaces = c ∧ c.peek ≠ some '#' := by
  obtain ⟨_ | ⟨x, r⟩, m⟩ := c
  · cases h
  · have hbreak : isBreak x = true := by
      unfold lineBreak at h
      split at h
      · next heq =>
        cases heq
        rfl
      · next heq =>
        cases heq
        split at h
        · next hend =>
          rw [isBreak, hend]
          rfl
        · split at h
          · next hbreak => exact hbreak
          · cases h
      · cases h
    have hspace : (x == ' ') = false := by
      cases hx : x == ' ' with
      | false => rfl
      | true =>
        rw [beq_iff_eq.1 hx] at hbreak
        exact absurd hbreak (by decide)
    refine ⟨?_, fun hhash => ?_⟩
    · rw [pastSpaces, List.takeWhile_cons, hspace]
      rfl
    · rw [Option.some.inj hhash] at hbreak
      exact absurd hbreak (by decide)

end Cursor

namespace Scan

variable {s : TokenReader} {c d e : Cursor} {allowed allowed' : Bool}

/-- From a place outside flow collections to the end of the gap there, and whether a key may start before and after it. -/
inductive Gap : Cursor → Bool → Cursor → Bool → Prop
  | stop {c : Cursor} {allowed : Bool} (h : c.pastComment.lineBreak.1 = none) : Gap c allowed c.pastComment allowed
  | line {c d e : Cursor} {allowed allowed' : Bool} {ch : Char} (h : c.pastComment.lineBreak = (some ch, d))
      (hgap : Gap d true e allowed') : Gap c allowed e allowed'

theorem exists_gap (c : Cursor) (allowed : Bool) : ∃ e allowed', Gap c allowed e allowed' := by
  induction hn : c.rest.length using Nat.strong_induction_on generalizing c allowed with
  | _ n ih =>
    cases hbreak : c.pastComment.lineBreak with
    | mk found d =>
      cases found with
      | none => exact ⟨_, _, .stop (by rw [hbreak])⟩
      | some ch =>
        have hlt := Cursor.length_lineBreak_lt hbreak
        have hle := c.isOn_pastComment.length_le
        obtain ⟨e, allowed', hgap⟩ := ih d.rest.length (by omega) d true rfl
        exact ⟨e, allowed', .line hbreak hgap⟩

theorem Gap.isOn (h : Gap c allowed e allowed') : c.IsOn e := by
  induction h with
  | stop _ => exact Cursor.isOn_pastComment _
  | @line c d _ _ _ _ hbreak _ ih =>
    have hd := c.pastComment.isOn_lineBreak
    rw [hbreak] at hd
    exact (c.isOn_pastComment.trans hd).trans ih

/-- No key is ruled out by a gap. -/
theorem Gap.allowed_of_true (h : Gap c true e allowed') : allowed' = true := by
  generalize hallowed : true = before at h
  induction h with
  | stop => rfl
  | line _ _ ih => exact (ih rfl).trans hallowed

theorem run_skipGap_succ (hflow : s.flow = []) (fuel : Nat) : (skipGap (fuel + 1)).run s =
    match s.cursor.pastComment.lineBreak with
    | (some _, d) => (skipGap fuel).run { s with cursor := d, keyAllowed := true }
    | (none, d) => .ok ((), { s with cursor := d }) := by
  obtain ⟨c, flow, indent, indents, keyAllowed, keys, queue, taken, version, done⟩ := s
  cases hflow
  have hspan : (lex (Lex.span (· == ' '))).run ⟨c, [], indent, indents, keyAllowed, keys, queue, taken, version, done⟩ =
      .ok (c.rest.takeWhile (· == ' '), ⟨c.pastSpaces, [], indent, indents, keyAllowed, keys, queue, taken, version,
        done⟩) := rfl
  have hbreak : ∀ (c : Cursor), (lex Lex.lineBreak >>= skipLines fuel false).run
      ⟨c, [], indent, indents, keyAllowed, keys, queue, taken, version, done⟩ = match c.lineBreak with
        | (some _, d) => (skipGap fuel).run ⟨d, [], indent, indents, true, keys, queue, taken, version, done⟩
        | (none, d) => .ok ((), ⟨d, [], indent, indents, keyAllowed, keys, queue, taken, version, done⟩) := by
    intro c
    have hlex : (lex Lex.lineBreak).run ⟨c, [], indent, indents, keyAllowed, keys, queue, taken, version, done⟩ =
        .ok (c.lineBreak.1, ⟨c.lineBreak.2, [], indent, indents, keyAllowed, keys, queue, taken, version, done⟩) := rfl
    rw [run_bind_ok hlex]
    obtain ⟨_ | ch, d⟩ := c.lineBreak
    · rfl
    · rfl
  have hstart : (skipGap (fuel + 1)).run ⟨c, [], indent, indents, keyAllowed, keys, queue, taken, version, done⟩ =
      (lex (Lex.span fun c => c == ' ' || (false && c == '\t')) >>= fun _ => do
        if (← peek) == some '#' then
          let _ ← lex (Lex.span (!isBreak ·))
        lex Lex.lineBreak >>= skipLines fuel false).run
        ⟨c, [], indent, indents, keyAllowed, keys, queue, taken, version, done⟩ := rfl
  simp only [Bool.false_and, Bool.or_false] at hstart
  rw [hstart, run_bind_ok hspan]
  dsimp only
  rw [Cursor.pastComment, ← hbreak]
  have hpeek : peek.run ⟨c.pastSpaces, [], indent, indents, keyAllowed, keys, queue, taken, version, done⟩ =
      .ok (c.pastSpaces.peek, ⟨c.pastSpaces, [], indent, indents, keyAllowed, keys, queue, taken, version, done⟩) := rfl
  rw [run_bind_ok hpeek]
  split
  · rfl
  · rfl

theorem run_skipGap (hflow : s.flow = []) (h : Gap c allowed e allowed') (hc : s.cursor = c) (ha : s.keyAllowed = allowed)
    {fuel : Nat} (hfuel : c.rest.length < fuel) :
    (skipGap fuel).run s = .ok ((), { s with cursor := e, keyAllowed := allowed' }) := by
  induction h generalizing s fuel with
  | @stop c allowed hbreak =>
    obtain ⟨fuel, rfl⟩ := Nat.exists_eq_succ_of_ne_zero (Nat.ne_of_gt (Nat.zero_lt_of_lt hfuel))
    rw [Nat.succ_eq_add_one, run_skipGap_succ hflow, hc]
    have hnone := lineBreak_none hbreak
    cases hd : c.pastComment.lineBreak with
    | mk found d =>
      rw [hd] at hbreak hnone
      cases hbreak
      cases hnone
      subst ha
      rfl
  | @line c d e allowed allowed' ch hbreak _ ih =>
    obtain ⟨fuel, rfl⟩ := Nat.exists_eq_succ_of_ne_zero (Nat.ne_of_gt (Nat.zero_lt_of_lt hfuel))
    rw [Nat.succ_eq_add_one, run_skipGap_succ hflow, hc, hbreak]
    have hlt := Cursor.length_lineBreak_lt hbreak
    have hle := c.isOn_pastComment.length_le
    exact ih (s := { s with cursor := d, keyAllowed := true }) hflow rfl rfl (by omega)

theorem run_skipToToken (hflow : s.flow = []) (hoffset : s.cursor.mark.offset ≠ 0)
    (h : Gap s.cursor s.keyAllowed e allowed') :
    skipToToken.run s = .ok ((), { s with cursor := e, keyAllowed := allowed' }) := by
  have hskip : skipToToken.run s = (if (s.cursor.mark.offset == 0 && s.cursor.peek == some '\ufeff') = true then (do
      lex (Lex.advance 1)
      skipGap (s.cursor.rest.length + 1)) else skipGap (s.cursor.rest.length + 1)).run s := rfl
  rw [hskip, if_neg (by simp [hoffset]), run_skipGap hflow h rfl rfl (Nat.lt_succ_self _)]

/-! ## What a plain scalar reads of a gap -/

theorem gap_pastSpaces (h : Gap c.pastSpaces allowed e allowed') : Gap c allowed e allowed' := by
  generalize hd : c.pastSpaces = d at h
  cases h with
  | stop hbreak =>
    subst hd
    rw [Cursor.pastComment_pastSpaces] at hbreak ⊢
    exact .stop hbreak
  | line hbreak hgap =>
    subst hd
    rw [Cursor.pastComment_pastSpaces] at hbreak
    exact .line hbreak hgap

theorem gap_lineBreak {ch : Char} (hbreak : c.pastSpaces.lineBreak = (some ch, d)) (h : Gap d true e allowed') :
    Gap c allowed e allowed' := by
  have hcomment : c.pastComment.lineBreak = (some ch, d) := by
    rw [Cursor.pastComment, if_neg, hbreak]
    simpa using (Cursor.pastSpaces_of_lineBreak hbreak).2
  exact .line hcomment h

theorem gap_of_plainBreaks {fuel : Nat} {read : Text} {found : Option Text}
    (hrun : (Lex.plainBreaks fuel read).run c = .ok (found, d)) (h : Gap d true e allowed') : Gap c true e allowed' := by
  induction fuel generalizing c read with
  | zero =>
    cases hrun
    exact h
  | succ fuel ih =>
    rw [Lex.plainBreaks] at hrun
    obtain ⟨blanks, c1, hspan, hrun⟩ := exists_of_run_bind_ok hrun
    cases hspan
    obtain ⟨broken, c2, hbreak, hrun⟩ := exists_of_run_bind_ok hrun
    have hbreak : c.pastSpaces.lineBreak = (broken, c2) := Except.ok.inj hbreak
    cases broken with
    | none =>
      cases hrun
      have hstay := lineBreak_none (c := c.pastSpaces) (by rw [hbreak])
      rw [hbreak] at hstay
      cases hstay
      exact gap_pastSpaces h
    | some ch =>
      refine gap_lineBreak hbreak ?_
      obtain ⟨_, _, hget, hrun⟩ := exists_of_run_bind_ok hrun
      cases hget
      split at hrun
      · cases hrun
        exact h
      · exact ih hrun

/-- What is read after the last word of a plain scalar is a part of the gap there; either it ends a line, or it is only
spaces. -/
theorem gap_of_plainSpaces {found : Option Text × Bool} (hrun : Lex.plainSpaces.run c = .ok (found, d))
    (h : Gap d (found.2 || allowed) e allowed') : Gap c allowed e allowed' := by
  rw [Lex.plainSpaces] at hrun
  obtain ⟨blanks, c1, hspan, hrun⟩ := exists_of_run_bind_ok hrun
  cases hspan
  obtain ⟨broken, c2, hbreak, hrun⟩ := exists_of_run_bind_ok hrun
  have hbreak : c.pastSpaces.lineBreak = (broken, c2) := Except.ok.inj hbreak
  cases broken with
  | none =>
    cases hrun
    have hstay := lineBreak_none (c := c.pastSpaces) (by rw [hbreak])
    rw [hbreak] at hstay
    cases hstay
    exact gap_pastSpaces h
  | some ch =>
    refine gap_lineBreak hbreak ?_
    obtain ⟨_, _, hget, hrun⟩ := exists_of_run_bind_ok hrun
    cases hget
    split at hrun
    · cases hrun
      exact h
    · obtain ⟨_, _, hget, hrun⟩ := exists_of_run_bind_ok hrun
      cases hget
      obtain ⟨further, c3, hfurther, hrun⟩ := exists_of_run_bind_ok hrun
      cases hrun
      exact gap_of_plainBreaks hfurther h

end Scan

end YamlStyle.Yaml

/-!
## What ends a line after a scalar

After a scalar that ends its line there are spaces and maybe a comment. Whatever a plain scalar would read of that leads
into the same gap.
-/

namespace YamlStyle.Yaml

/-- Spaces, maybe a comment after them, and a line feed or the end of the text; `later` is what stands on later lines. -/
structure LineEnd (spaces comment feed later : Text) : Prop where
  blank : ∀ ch ∈ spaces, ch = ' '
  remark : comment = [] ∨ spaces ≠ [] ∧ ∃ words, comment = '#' :: words ∧ ∀ ch ∈ words, isBreak ch = false
  breaks : feed = ['\n'] ∨ feed = ['\r', '\n'] ∨ feed = [] ∧ later = []

/-- A text that goes on with the end of a line, which may be its last. -/
def EndsLine (r : Text) : Prop :=
  ∃ spaces comment feed later, r = spaces ++ (comment ++ (feed ++ later)) ∧ LineEnd spaces comment feed later

namespace LineEnd

variable {spaces comment feed later : Text} {c e : Cursor} {allowed allowed' : Bool}

/-- Where the next line starts, if there is one. -/
def next (spaces comment feed : Text) (c : Cursor) : Cursor := c.skip (spaces.length + (comment.length + feed.length))

theorem rest_next (hc : c.rest = spaces ++ (comment ++ (feed ++ later))) : (next spaces comment feed c).rest = later := by
  rw [next, Cursor.rest_skip, hc, ← List.append_assoc, ← List.append_assoc, List.append_assoc spaces,
    ← List.length_append, ← List.length_append, List.drop_left]

theorem offset_next (hc : c.rest = spaces ++ (comment ++ (feed ++ later))) : (next spaces comment feed c).mark.offset =
    c.mark.offset + (spaces.length + (comment.length + feed.length)) := by
  have hoffset := (Cursor.passes_skip (spaces.length + (comment.length + feed.length)) c).offset
  rw [next, hoffset, hc, List.length_take]
  simp only [List.length_append]
  omega

section

variable (h : LineEnd spaces comment feed later)

include h

theorem startsBreak : ∀ ch ∈ (feed ++ later).head?, isBreak ch = true ∧ ch ≠ ' ' ∧ ch ≠ '#' := by
  intro ch hch
  rcases h.breaks with rfl | rfl | ⟨rfl, rfl⟩ <;> cases hch <;> decide

theorem pastSpaces_eq (hc : c.rest = spaces ++ (comment ++ (feed ++ later))) : c.pastSpaces = c.skip spaces.length := by
  have hnot : ∀ ch ∈ (comment ++ (feed ++ later)).head?, (ch == ' ') = false := by
    intro ch hch
    rcases h.remark with rfl | ⟨-, words, rfl, -⟩
    · exact beq_false_of_ne (h.startsBreak ch hch).2.1
    · cases hch
      rfl
  have htaken : c.rest.takeWhile (· == ' ') = spaces := by
    rw [hc, List.takeWhile_append_of_pos fun ch hch => by rw [h.blank ch hch]; rfl]
    cases hr : comment ++ (feed ++ later) with
    | nil => simp
    | cons ch r =>
      rw [hr] at hnot
      rw [List.takeWhile_cons, hnot ch rfl]
      simp
  rw [Cursor.pastSpaces, htaken]

theorem rest_pastSpaces (hc : c.rest = spaces ++ (comment ++ (feed ++ later))) :
    c.pastSpaces.rest = comment ++ (feed ++ later) := by
  rw [h.pastSpaces_eq hc, Cursor.rest_skip, hc, List.drop_left]

theorem pastComment_eq (hc : c.rest = spaces ++ (comment ++ (feed ++ later))) :
    c.pastComment = c.skip (spaces.length + comment.length) := by
  have hrest := h.rest_pastSpaces hc
  rw [Cursor.pastComment, Cursor.peek, hrest]
  rcases h.remark with rfl | ⟨-, words, rfl, hwords⟩
  · rw [List.nil_append, if_neg fun hhash => (h.startsBreak '#' (beq_iff_eq.1 hhash)).2.2 rfl, h.pastSpaces_eq hc]
    rfl
  · have htaken : ('#' :: words ++ (feed ++ later)).takeWhile (!isBreak ·) = '#' :: words := by
      have hrest : (feed ++ later).takeWhile (!isBreak ·) = [] := by
        cases hr : feed ++ later with
        | nil => rfl
        | cons ch r => rw [List.takeWhile_cons, (h.startsBreak ch (by rw [hr]; rfl)).1]; rfl
      rw [List.takeWhile_append_of_pos fun x hx => ?_, hrest, List.append_nil]
      rcases List.mem_cons.1 hx with rfl | hx
      · rfl
      · rw [hwords x hx]
        rfl
    rw [if_pos (by simp), htaken, h.pastSpaces_eq hc, Cursor.skip_add]

theorem rest_pastComment (hc : c.rest = spaces ++ (comment ++ (feed ++ later))) : c.pastComment.rest = feed ++ later := by
  rw [h.pastComment_eq hc, Cursor.rest_skip, hc, ← List.append_assoc, ← List.length_append, List.drop_left]

theorem lineBreak_pastComment (hfeed : feed ≠ []) (hc : c.rest = spaces ++ (comment ++ (feed ++ later))) :
    c.pastComment.lineBreak = (some '\n', next spaces comment feed c) := by
  have hrest := h.rest_pastComment hc
  have hnext : next spaces comment feed c = c.pastComment.skip feed.length := by
    rw [next, h.pastComment_eq hc, ← Nat.add_assoc, Cursor.skip_add]
  rw [hnext]
  generalize c.pastComment = d at hrest
  obtain ⟨r, m⟩ := d
  cases hrest
  rcases h.breaks with rfl | rfl | ⟨rfl, -⟩
  · rfl
  · rfl
  · exact absurd rfl hfeed

/-- The gap after the scalar is that of the next line. -/
theorem gap_next (hfeed : feed ≠ []) (hc : c.rest = spaces ++ (comment ++ (feed ++ later))) (hgap : Scan.Gap c allowed e allowed') :
    Scan.Gap (next spaces comment feed c) true e allowed' := by
  have hbreak := h.lineBreak_pastComment hfeed hc
  cases hgap with
  | stop hnone =>
    rw [hbreak] at hnone
    cases hnone
  | line hsome hgap =>
    rw [hbreak] at hsome
    cases hsome
    exact hgap

theorem later_eq_nil (hfeed : feed = []) : later = [] := by
  rcases h.breaks with rfl | rfl | ⟨-, rfl⟩
  · cases hfeed
  · cases hfeed
  · rfl

theorem peek_next (hfeed : feed = []) (hc : c.rest = spaces ++ (comment ++ (feed ++ later))) :
    (next spaces comment feed c).peek = none := by
  rw [Cursor.peek, rest_next hc, h.later_eq_nil hfeed]
  rfl

/-- At the end of the text the gap ends. -/
theorem gap_end (hfeed : feed = []) (hc : c.rest = spaces ++ (comment ++ (feed ++ later)))
    (hgap : Scan.Gap c allowed e allowed') : e = next spaces comment feed c ∧ allowed' = allowed := by
  have hrest : c.pastComment.rest = [] := by rw [h.rest_pastComment hc, hfeed, h.later_eq_nil hfeed]; rfl
  have hnext : next spaces comment feed c = c.pastComment := by rw [next, h.pastComment_eq hc, hfeed]; rfl
  cases hgap with
  | stop => exact ⟨hnext.symm, rfl⟩
  | line hsome =>
    generalize c.pastComment = d at hrest hsome
    obtain ⟨r, m⟩ := d
    cases hrest
    cases hsome

omit h in
/-- Over characters that start no line the line stays. -/
theorem line_skip {n : Nat} (hn : ∀ ch ∈ c.rest.take n, ch ≠ '\n' ∧ ch ≠ '\r') : (c.skip n).mark.line = c.mark.line := by
  induction n generalizing c with
  | zero => rfl
  | succ n ih =>
    obtain ⟨_ | ⟨ch, r⟩, m⟩ := c
    · exact ih (c := ⟨[], m⟩) (by simp)
    · have hch := hn ch (by simp)
      have hnext : (Cursor.mk (ch :: r) m).next.mark.line = m.line := by
        simp only [Cursor.next, advanceMark, hch.1, hch.2, beq_iff_eq, Bool.or_eq_true, Bool.and_eq_true, false_and, or_self,
          if_false]
        split <;> rfl
      rw [Cursor.skip, ih fun x hx => hn x (by
        rw [Cursor.rest_next] at hx
        exact List.mem_of_mem_tail (by simpa using hx)), hnext]

theorem mark_next (hfeed : feed ≠ []) (hc : c.rest = spaces ++ (comment ++ (feed ++ later))) :
    (next spaces comment feed c).mark =
      ⟨c.mark.line + 1, 0, c.mark.offset + (spaces.length + (comment.length + feed.length))⟩ := by
  have hline : (c.skip (spaces.length + comment.length)).mark.line = c.mark.line := by
    refine line_skip fun ch hch => ?_
    rw [hc, ← List.append_assoc, ← List.length_append, List.take_left] at hch
    rcases List.mem_append.1 hch with hch | hch
    · rw [h.blank ch hch]
      decide
    · rcases h.remark with rfl | ⟨-, words, rfl, hwords⟩
      · cases hch
      · rcases List.mem_cons.1 hch with rfl | hch
        · decide
        · have := hwords ch hch
          constructor <;> rintro rfl <;> exact absurd this (by decide)
  have hpasses := Cursor.passes_skip (spaces.length + comment.length) c
  have hoffset := hpasses.offset
  rw [hc, ← List.append_assoc, ← List.length_append, List.take_left] at hoffset
  have hrest : (c.skip (spaces.length + comment.length)).rest = feed ++ later := by
    rw [Cursor.rest_skip, hc, ← List.append_assoc, ← List.length_append, List.drop_left]
  rw [next, ← Nat.add_assoc, Cursor.skip_add]
  rw [List.length_append] at hoffset
  generalize c.skip (spaces.length + comment.length) = d at hline hoffset hrest
  obtain ⟨r, m⟩ := d
  cases hrest
  obtain ⟨line, column, offset⟩ := m
  cases hline
  cases hoffset
  rcases h.breaks with rfl | rfl | ⟨rfl, -⟩
  · simp [Cursor.skip, Cursor.next, advanceMark, Nat.add_assoc]
  · simp [Cursor.skip, Cursor.next, advanceMark, Nat.add_assoc]
  · exact absurd rfl hfeed

end

/-! ### What a plain scalar reads of it -/

theorem column_pastSpaces (hcolumn : c.pastSpaces.mark.column = 0) : c.pastSpaces = c := by
  have htake : c.rest.take (c.rest.takeWhile (· == ' ')).length = c.rest.takeWhile (· == ' ') :=
    Lex.take_length_takeWhile _ _
  have hmark : c.pastSpaces.mark = _ := Lex.mark_skip (List.takeWhile_prefix _).length_le (fun ch hch => by
    rw [htake] at hch
    have := List.all_eq_true.1 List.all_takeWhile ch hch
    rw [beq_iff_eq.1 this]
    exact ⟨by decide, by decide, by decide⟩)
  rw [hmark] at hcolumn
  have hzero : (c.rest.takeWhile (· == ' ')).length = 0 := by
    simp only at hcolumn
    omega
  rw [Cursor.pastSpaces, hzero]
  rfl

/-- Nothing more of a gap is at hand than a comment, if that; and no marker of a document. -/
structure AtWord (c : Cursor) : Prop where
  unspaced : c.pastSpaces = c
  unbroken : c.lineBreak.1 = none
  unmarked : c.mark.column = 0 → c.atSeparator = false

theorem run_plainBreaks_succ (fuel : Nat) (read : Text) (c : Cursor) :
    (Lex.plainBreaks (fuel + 1) read).run c = (match c.pastSpaces.lineBreak.1 with
      | some ch => do if (← get).atSeparator then return none else Lex.plainBreaks fuel (read ++ [ch])
      | none => return some read : Lex (Option Text)).run c.pastSpaces.lineBreak.2 := rfl

theorem exists_run_plainBreaks (fuel : Nat) (read : Text) (c : Cursor) :
    ∃ found d, (Lex.plainBreaks fuel read).run c = .ok (found, d) := by
  induction fuel generalizing c read with
  | zero => exact ⟨_, _, rfl⟩
  | succ fuel ih =>
    rw [run_plainBreaks_succ]
    cases c.pastSpaces.lineBreak.1 with
    | none => exact ⟨_, _, rfl⟩
    | some ch =>
      dsimp only
      rw [run_bind_ok (a := c.pastSpaces.lineBreak.2) rfl]
      split
      · exact ⟨_, _, rfl⟩
      · exact ih _ _

theorem run_plainSpaces_eq (c : Cursor) : Lex.plainSpaces.run c = (match c.pastSpaces.lineBreak.1 with
    | some ch => do
      if (← get).atSeparator then return (none, true)
      let further ← Lex.plainBreaks ((← get).rest.length + 1) []
      return (further.map (Lex.folded (some ch)), true)
    | none => return (if (c.rest.takeWhile (· == ' ')).isEmpty then none else some (c.rest.takeWhile (· == ' ')), false)
    : Lex (Option Text × Bool)).run c.pastSpaces.lineBreak.2 := rfl

theorem exists_run_plainSpaces (c : Cursor) : ∃ found d, Lex.plainSpaces.run c = .ok (found, d) := by
  rw [run_plainSpaces_eq]
  cases c.pastSpaces.lineBreak.1 with
  | none => exact ⟨_, _, rfl⟩
  | some ch =>
    dsimp only
    rw [run_bind_ok (a := c.pastSpaces.lineBreak.2) rfl]
    split
    · exact ⟨_, _, rfl⟩
    · rw [run_bind_ok (a := c.pastSpaces.lineBreak.2) rfl]
      obtain ⟨further, d, hfurther⟩ := exists_run_plainBreaks
        (c.pastSpaces.lineBreak.2.rest.length + 1) [] c.pastSpaces.lineBreak.2
      rw [run_bind_ok hfurther]
      exact ⟨_, _, rfl⟩

theorem atWord_of_plainBreaks {fuel : Nat} {read : Text} {found : Option Text} {d : Cursor}
    (hrun : (Lex.plainBreaks fuel read).run c = .ok (found, d)) (hfuel : c.rest.length < fuel)
    (hc : c.mark.column = 0 → c.atSeparator = false) : found = none ∨ AtWord d := by
  induction fuel generalizing c read with
  | zero => omega
  | succ fuel ih =>
    rw [Lex.plainBreaks] at hrun
    obtain ⟨blanks, c1, hspan, hrun⟩ := exists_of_run_bind_ok hrun
    cases hspan
    obtain ⟨broken, c2, hbreak, hrun⟩ := exists_of_run_bind_ok hrun
    have hbreak : c.pastSpaces.lineBreak = (broken, c2) := Except.ok.inj hbreak
    cases broken with
    | none =>
      cases hrun
      have hstay := Scan.lineBreak_none (c := c.pastSpaces) (by rw [hbreak])
      rw [hbreak] at hstay
      cases hstay
      refine .inr (show AtWord c.pastSpaces from ⟨Cursor.pastSpaces_pastSpaces c, by rw [hbreak], fun hcolumn => ?_⟩)
      have hsame := column_pastSpaces hcolumn
      rw [hsame] at hcolumn ⊢
      exact hc hcolumn
    | some ch =>
      obtain ⟨_, _, hget, hrun⟩ := exists_of_run_bind_ok hrun
      cases hget
      split at hrun
      · cases hrun
        exact .inl rfl
      · next hseparator =>
        have hlt := Cursor.length_lineBreak_lt hbreak
        have hle := c.isOn_pastSpaces.length_le
        exact ih hrun (by omega) fun _ => by simpa using hseparator

/-- Where a plain scalar stops after its last word and could go on, the gap ends too. -/
theorem atWord_of_plainSpaces (h : LineEnd spaces comment feed later) (hc : c.rest = spaces ++ (comment ++ (feed ++ later)))
    {found : Option Text × Bool} {d : Cursor} (hrun : Lex.plainSpaces.run c = .ok (found, d)) :
    found.1 = none ∨ d.peek = some '#' ∨ d.rest = [] ∨ AtWord d := by
  rw [Lex.plainSpaces] at hrun
  obtain ⟨blanks, c1, hspan, hrun⟩ := exists_of_run_bind_ok hrun
  cases hspan
  obtain ⟨broken, c2, hbreak, hrun⟩ := exists_of_run_bind_ok hrun
  have hbreak : c.pastSpaces.lineBreak = (broken, c2) := Except.ok.inj hbreak
  cases broken with
  | none =>
    cases hrun
    have hstay := Scan.lineBreak_none (c := c.pastSpaces) (by rw [hbreak])
    rw [hbreak] at hstay
    cases hstay
    have hrest := h.rest_pastSpaces hc
    rcases h.remark with rfl | ⟨-, words, rfl, -⟩
    · have hcomment : c.pastComment = c.pastSpaces := by
        rw [h.pastComment_eq hc, h.pastSpaces_eq hc]
        rfl
      rcases eq_or_ne feed [] with rfl | hfeed
      · exact .inr (.inr (.inl (hrest.trans (h.later_eq_nil rfl))))
      · have hsome := h.lineBreak_pastComment hfeed hc
        rw [hcomment, hbreak] at hsome
        cases hsome
    · exact .inr (.inl (congrArg List.head? hrest))
  | some ch =>
    obtain ⟨_, _, hget, hrun⟩ := exists_of_run_bind_ok hrun
    cases hget
    split at hrun
    · cases hrun
      exact .inl rfl
    · next hseparator =>
      obtain ⟨_, _, hget, hrun⟩ := exists_of_run_bind_ok hrun
      cases hget
      obtain ⟨further, c3, hfurther, hrun⟩ := exists_of_run_bind_ok hrun
      cases hrun
      rcases atWord_of_plainBreaks hfurther (Nat.lt_succ_self _) (fun _ => by simpa using hseparator) with rfl | hword
      · exact .inl rfl
      · exact .inr (.inr (.inr hword))

/-- At a word there is no gap left. -/
theorem AtWord.eq_of_gap {g : Cursor} (h : AtWord c) (hpeek : c.peek ≠ some '#')
    (hgap : Scan.Gap c allowed g allowed') : g = c := by
  have hcomment : c.pastComment = c := by
    rw [Cursor.pastComment, h.unspaced, if_neg (by simpa using hpeek)]
  cases hgap with
  | stop => exact hcomment
  | line hbreak =>
    rw [hcomment] at hbreak
    have hnone := h.unbroken
    rw [hbreak] at hnone
    cases hnone

/-- A plain scalar halts where its line ends, unless the next token is one that stands deeper. -/
theorem halts (h : LineEnd spaces comment feed later) (hc : c.rest = spaces ++ (comment ++ (feed ++ later)))
    {found : Option Text × Bool} {d g : Cursor} {place : Lex.PlainPlace} (hrun : Lex.plainSpaces.run c = .ok (found, d))
    (hgap : Scan.Gap d found.2 g allowed')
    (hg : g.peek = none ∨ g.mark.column < place.column ∨ g.mark.column = 0 ∧ g.atSeparator = true) :
    Lex.Halts place found.1 d := by
  rcases h.atWord_of_plainSpaces hc hrun with hnone | hhash | hnil | hword
  · exact .inl hnone
  · exact .inr (.inl hhash)
  · exact .inr (.inr (.inr (by rw [hnil]; rfl)))
  · by_cases hpeek : d.peek = some '#'
    · exact .inr (.inl hpeek)
    obtain rfl := hword.eq_of_gap hpeek hgap
    rcases hg with hg | hg | ⟨hcolumn, hg⟩
    · refine .inr (.inr (.inr ?_))
      rw [Cursor.peek, List.head?_eq_none_iff] at hg
      rw [hg]
      rfl
    · exact .inr (.inr (.inl hg))
    · rw [hword.unmarked hcolumn] at hg
      cases hg

end LineEnd

end YamlStyle.Yaml
