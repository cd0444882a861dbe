import YamlStyle.Proofs.Lexeme.Reckoning
import YamlStyle.Proofs.Lexeme.Unquoting
import YamlStyle.Proofs.Lint.Splicing
import YamlStyle.Proofs.Rule.Indentation.Block
import YamlStyle.Proofs.Rule.Quotes.Verdict

/-!
# Leaving out quotes

The rule tries a value out as the value of a mapping. Where the scalar stands as such a value does, outside flow
collections and at the end of its line or of the text, the text reads the same without quotes that are reported
(`reported_reads_same`).
Elsewhere it need not: inside flow collections a question mark makes a key of what follows (`not_safe_of_question_mark`).
-/

namespace YamlStyle.Rule.Quotes

open Indentation (mark plain)

/-- A text with a scalar in it written as its value, without quotes. -/
def unquote (t : Text) (x : Lexeme) : Text :=
  t.take x.start.offset ++ (x.value.getD "").toList ++ t.drop x.stop.offset

/-- What a lexeme is, wherever it stands. -/
def gist (x : Lexeme) : LexemeKind × Option String × Option Style := (x.kind, x.value, x.style)

/-! ## Reports -/

/-- A value that the scanner takes for plain as the value of a mapping needs no quotes. -/
theorem needsQuotes_of_reckoned {value : String} {inFlow : Bool}
    (hflow : (inFlow && value.toList.any ",[]\x7b\x7d".toList.contains) = false)
    (h : (Lexeme.reckoned (unquoted value)).toOption.map (fun xs => (xs.map (·.kind) == mappingShape,
      xs[5]?.any fun x => x.style == some .plain && x.value == some value)) = some (true, true)) :
    (needsQuotes value inFlow).outcome = .ok false := by
  obtain ⟨xs, hxs, hshape⟩ := exists_of_toOption h
  obtain ⟨hkinds, hplain⟩ := Prod.mk.inj hshape
  have hprobe : (Lexeme.probe (unquoted value)).outcome = .ok xs := by
    rw [← Lexeme.outcome_ofText_eq_reckoned] at hxs
    exact Logged.outcome_mapError_eq_ok.2 hxs
  unfold needsQuotes
  rw [hflow, if_neg Bool.false_ne_true, Logged.outcome_bind, hprobe]
  change (if (xs.map (·.kind) != mappingShape) = true then _ else _ : Check Bool).outcome = _
  rw [bne, hkinds, if_neg (by decide), hplain]
  rfl

theorem flowDepth_settle (s : State) (o : Options) (style : Option Style) :
    (s.settle o style).flowDepth = s.flowDepth := by
  unfold State.settle
  split
  · split <;> rfl
  · rfl

/-- Needless quotes of a string are reported if no pattern is set for them. -/
theorem outcome_check_of_needless {o : Options} {w : Window} {s : State} (hneed : o.need = .onlyWhenNeeded)
    (hpatterns : o.extraRequired = [] ∧ o.extraAllowed = []) (hcandidate : isCandidate o w = true)
    (hstyle : w.curr.style.any (·.isQuoted) = true) (htext : resolvesToText (w.curr.value.getD "") = true)
    (hvalue : w.curr.value.getD "" ≠ "")
    (hneedless : (needsQuotes (w.curr.value.getD "") (0 < (s.follow w.curr).flowDepth)).outcome = .ok false) :
    (check o w s).outcome = .ok ((s.follow w.curr).settle o w.curr.style,
      [.atStart w.curr (redundantText o (if isOneOf w.prev [.key] then "key" else "value"))]) := by
  have hplain : ((w.curr.style == some .plain && !resolvesToText (w.curr.value.getD "")) || w.curr.style == some .block) =
      false := by
    cases hx : w.curr.style with
    | none => rfl
    | some style => cases style <;> simp_all [Style.isQuoted]
  have hcomplaint : ∀ node isOk, (complaint o node (w.curr.value.getD "") true true isOk
      (0 < (s.follow w.curr).flowDepth)).outcome = .ok (some (redundantText o node)) := by
    intro node isOk
    unfold complaint
    rw [hneed]
    dsimp only
    rw [if_pos rfl, if_pos (by simpa using hvalue), Logged.outcome_bind, hneedless, hpatterns.1, hpatterns.2]
    rfl
  unfold check
  rw [hcandidate]
  dsimp only
  rw [if_neg (by decide), htext]
  rw [htext] at hplain
  rw [hplain, if_neg Bool.false_ne_true, hstyle, Logged.outcome_bind, flowDepth_settle, hcomplaint]
  rfl

theorem steps_cons_of_ok {o : Options} {s : State} {w : Window} {ws : List Window} {r : State × List Finding}
    (h : (check o w s).outcome = .ok r) : steps o s (w :: ws) = .ok r :: steps o r.1 ws := by
  rw [steps, h]

def asked : Options := ⟨.any, .onlyWhenNeeded, [], [], false, false⟩

/-- A plain text without byte order marks is read as itself. -/
theorem readsPlain_of_isPlain {v : Text} (h : IsPlain v) (hmark : '\ufeff' ∉ v) : Yaml.ReadsPlain v where
  words := h.words
  columns ch hch := ⟨(h.words.unbroken ch hch).1, (h.words.unbroken ch hch).2, fun heq => hmark (heq ▸ hch)⟩
  leads := h.leads

theorem gist_of_isLike {m : Move} {x y : Lexeme} (h : x.IsLike m y) (hx : x.kind = .scalar → x.start.offset ≠ m.fixed) :
    gist y = gist x := by
  rw [gist, gist, h.kind, h.value, h.style, if_neg fun hand => hx hand.1 hand.2]

/-- What lexemes are that show the same, but for one scalar that is plain. -/
theorem map_gist_of_isLike {m : Move} {before after ys : List Lexeme} {x : Lexeme}
    (h : List.Forall₂ (Lexeme.IsLike m) (before ++ x :: after) ys) (hx : x.kind = .scalar ∧ x.start.offset = m.fixed)
    (hother : ∀ y ∈ before ++ after, y.kind = .scalar → y.start.offset ≠ m.fixed) :
    ys.map gist = before.map gist ++ (x.kind, x.value, some .plain) :: after.map gist := by
  induction before generalizing ys with
  | nil =>
    cases h with
    | @cons _ x' _ after' hlike hafter =>
      have hsame : after'.map gist = after.map gist := by
        clear hlike
        induction hafter with
        | nil => rfl
        | cons hy _ ih =>
          obtain ⟨hne, hrest⟩ := List.forall_mem_cons.1 hother
          rw [List.map_cons, List.map_cons, gist_of_isLike hy hne, ih hrest]
      rw [List.map_cons, hsame, gist, hlike.kind, hlike.value, hlike.style, if_pos hx]
      rfl
  | cons y before ih =>
    obtain ⟨hne, hrest⟩ := List.forall_mem_cons.1 hother
    cases h with
    | cons hlike h => rw [List.map_cons, gist_of_isLike hlike hne, ih h hrest]; rfl

/-- In a text without faults of syntax, quotes that are reported around a value without line feeds and byte order marks may
be left out where the scalar ends its line, or the text, outside flow collections: the text is still without faults, and
its lexemes have the same kinds and values, the scalar now being plain. -/
theorem reported_reads_same (o : Options) (t : Text) (before : List Lexeme) (x : Lexeme) (after : List Lexeme)
    (ht : t.IsRegular)
    (hs : (Lint.syntaxError t).outcome = .ok none) (hxs : (Lexeme.ofText t).outcome = .ok (before ++ x :: after))
    (h : IsReported o before x after) (hplace : Lexeme.EndsItsLine t before x after)
    (hvalue : ∀ value ∈ x.value, '\n' ∉ value.toList ∧ '\ufeff' ∉ value.toList) :
    (Lint.syntaxError (unquote t x)).outcome = .ok none ∧
      ∃ ys, (Lexeme.ofText (unquote t x)).outcome = .ok ys ∧
        ys.map gist = before.map gist ++ (x.kind, x.value, some .plain) :: after.map gist := by
  obtain ⟨value, hredundant⟩ := h.exists_isRedundant
  obtain ⟨hfeed, hmark⟩ := hvalue value hredundant.hasValue
  have hplain := isPlain_of_needsQuotes hredundant.needless hredundant.nonempty hfeed
  have hf := Lint.syntaxError_eq_none_iff.1 hs
  have htext : unquote t x = t.take x.start.offset ++ (value.toList ++ t.drop x.stop.offset) := by
    rw [unquote, hredundant.hasValue, Option.getD_some, List.append_assoc]
  obtain ⟨hf', ys, m, hys, hm, hlike⟩ := Lexeme.exists_unquoted ht hf hxs hplace hredundant.scalar hredundant.quoted
    hredundant.hasValue (readsPlain_of_isPlain hplain hmark) hplain.allowed
  rw [htext]
  refine ⟨Lint.syntaxError_eq_none_iff.2 hf', ys, hys, ?_⟩
  obtain ⟨root, -, htree⟩ := Lexeme.outcome_ofText_eq_ok.1 hxs
  have hother := Lexeme.start_ne_of_scalar htree hredundant.scalar
  exact map_gist_of_isLike hlike ⟨hredundant.scalar, hm.symm⟩ (hm ▸ hother)

/-- The quotes around the value of a mapping, with a comment and another key after it. -/
theorem reported_reads_same_value :
    let t : Text := "a: \"b c\" # d\ne: f\n".toList
    let before := [mark .streamStart 0 0 0 0, mark .blockMappingStart 0 0 0 0, mark .key 0 0 0 0, plain 0 0 0 "a",
      mark .value 0 1 1 1]
    let x : Lexeme := ⟨.scalar, ⟨0, 3, 3⟩, ⟨0, 8, 8⟩, some "b c", some .double⟩
    let after := [mark .key 1 0 13 0, plain 1 0 13 "e", mark .value 1 1 14 1, plain 1 3 16 "f", mark .blockEnd 2 0 18 0,
      mark .streamEnd 2 0 18 0]
    (t.IsRegular ∧ (Lint.syntaxError t).outcome = .ok none ∧ (Lexeme.ofText t).outcome = .ok (before ++ x :: after) ∧
      IsReported asked before x after ∧ Lexeme.EndsItsLine t before x after) ∧
    unquote t x = "a: b c # d\ne: f\n".toList ∧ (Lint.syntaxError (unquote t x)).outcome = .ok none ∧
      ∃ ys, (Lexeme.ofText (unquote t x)).outcome = .ok ys ∧
        ys.map gist = before.map gist ++ (x.kind, x.value, some .plain) :: after.map gist := by
  intro t before x after
  have ht : t.IsRegular := .of_not_mem (by decide +kernel) (by decide +kernel)
  have hs : (Lint.syntaxError t).outcome = .ok none :=
    Lint.syntaxError_eq_none_iff.2 (Option.isNone_iff_eq_none.1 (by decide +kernel))
  have hxs : (Lexeme.ofText t).outcome = .ok (before ++ x :: after) := by
    rw [Lexeme.outcome_ofText_eq_reckoned]
    decide +kernel
  have hneeds : (needsQuotes "b c" false).outcome = .ok false := needsQuotes_of_reckoned rfl (by decide +kernel)
  have hcheck := outcome_check_of_needless (o := asked) (w := ⟨some (mark .value 0 1 1 1), x, after[0]?, after[1]?⟩)
    (s := .start) rfl ⟨rfl, rfl⟩ rfl rfl (by decide +kernel) (by decide) hneeds
  have hreported : IsReported asked before x after := by
    refine ⟨.start, [.atStart x (redundantText asked "value")], "value", ?_, .inr rfl, .head _⟩
    simp only [before, List.cons_append, List.nil_append]
    iterate 4 rw [Window.slide, steps_cons_of_ok (r := (.start, [])) rfl]
    rw [Window.slide, steps_cons_of_ok (r := (.start, [])) rfl, Window.slide]
    exact congrArg (·[5]?) (congrArg (_ :: _ :: _ :: _ :: _ :: ·) (steps_cons_of_ok hcheck))
  have hplace : Lexeme.EndsItsLine t before x after := {
    outside := rfl
    space := by decide +kernel
    ends := ⟨[' '], "# d".toList, ['\n'], "e: f\n".toList, by decide +kernel, fun ch hch => List.mem_singleton.1 hch,
      .inr ⟨by decide, " d".toList, by decide +kernel, by simp [Yaml.isBreak, Yaml.isLineEnd]⟩, .inl rfl⟩
    next := fun y hy => by cases hy; decide }
  refine ⟨⟨ht, hs, hxs, hreported, hplace⟩, by decide +kernel, ?_⟩
  refine reported_reads_same asked t before x after ht hs hxs hreported hplace fun value hvalue => ?_
  cases hvalue
  decide

section QuestionMark

def questionMark : Lexeme := ⟨.scalar, ⟨0, 1, 1⟩, ⟨0, 5, 5⟩, some "?a", some .double⟩

/-- The quotes keep the question mark from being that of a key. -/
theorem not_safe_of_question_mark :
    ¬∀ (o : Options) (t : Text) before x after, (Lint.syntaxError t).outcome = .ok none →
      (Lexeme.ofText t).outcome = .ok (before ++ x :: after) → IsReported o before x after →
      (Lint.syntaxError (unquote t x)).outcome = .ok none ∧
        ∃ ys, (Lexeme.ofText (unquote t x)).outcome = .ok ys ∧
          ys.map gist = before.map gist ++ (x.kind, x.value, some .plain) :: after.map gist := by
  intro h
  have hs : (Lint.syntaxError "[\"?a\"]\n".toList).outcome = .ok none :=
    Lint.syntaxError_eq_none_iff.2 (Option.isNone_iff_eq_none.1 (by decide +kernel))
  have hxs : (Lexeme.ofText "[\"?a\"]\n".toList).outcome = .ok
    ([mark .streamStart 0 0 0 0, mark .flowSequenceStart 0 0 0 1] ++
      questionMark :: [mark .flowSequenceEnd 0 5 5 1, mark .streamEnd 1 0 7 0]) := by
    rw [Lexeme.outcome_ofText_eq_reckoned]
    decide +kernel
  have hreported : IsReported asked [mark .streamStart 0 0 0 0, mark .flowSequenceStart 0 0 0 1] questionMark
      [mark .flowSequenceEnd 0 5 5 1, mark .streamEnd 1 0 7 0] := by
    have hneeds : (needsQuotes "?a" true).outcome = .ok false := needsQuotes_of_reckoned (by decide) (by decide +kernel)
    have hcheck := outcome_check_of_needless (o := asked) (w := ⟨some (mark .flowSequenceStart 0 0 0 1), questionMark,
        some (mark .flowSequenceEnd 0 5 5 1), some (mark .streamEnd 1 0 7 0)⟩) (s := ⟨1, none⟩) rfl ⟨rfl, rfl⟩ rfl rfl
      (by decide +kernel) (by decide) hneeds
    refine ⟨⟨1, none⟩, [.atStart questionMark (redundantText asked "value")], "value", ?_, .inr rfl, .head _⟩
    rw [List.cons_append, Window.slide, steps_cons_of_ok (r := (.start, [])) rfl, List.cons_append, Window.slide,
      steps_cons_of_ok (r := (⟨1, none⟩, [])) rfl, List.nil_append, Window.slide]
    exact congrArg (·[2]?) (congrArg (_ :: _ :: ·) (steps_cons_of_ok hcheck))
  obtain ⟨-, ys, hys, hgist⟩ := h asked _ _ _ _ hs hxs hreported
  rw [Lexeme.outcome_ofText_eq_reckoned] at hys
  have hcount : ((Lexeme.reckoned (unquote "[\"?a\"]\n".toList questionMark)).toOption.map List.length) = some 6 := by
    decide +kernel
  rw [hys] at hcount
  have hlength := congrArg List.length hgist
  rw [List.length_map, Option.some.inj hcount] at hlength
  cases hlength

end QuestionMark

end YamlStyle.Rule.Quotes
