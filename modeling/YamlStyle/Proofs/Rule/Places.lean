import Mathlib
import YamlStyle.Rule.Catalog

/-!
# Where rules report

A rule reports on the line of the element it looks at, but for a few findings that may stray to
another one (`Strays`). These are on the line before or further down, and only anchors without an
alias are reported at whatever place they were declared (`KeepsBack`).
-/

namespace YamlStyle

/-- Findings on lines that satisfy `p`. -/
def Finding.OnLines (p : Int → Prop) (fs : List Finding) : Prop := ∀ f ∈ fs, p f.line

namespace Finding

variable {p : Int → Prop} {fs gs : List Finding}

theorem onLines_nil : OnLines p [] := by
  intro f hf
  cases hf

theorem onLines_singleton {f : Finding} (h : p f.line) : OnLines p [f] := by
  intro g hg
  rw [List.mem_singleton.1 hg]
  exact h

theorem OnLines.append (hf : OnLines p fs) (hg : OnLines p gs) : OnLines p (fs ++ gs) := by
  intro f h
  rcases List.mem_append.1 h with h | h
  · exact hf f h
  · exact hg f h

theorem onLines_ite {b : Prop} [Decidable b] (hf : OnLines p fs) (hg : OnLines p gs) :
    OnLines p (if b then fs else gs) := by
  split
  · exact hf
  · exact hg

/-- A finding that is reported if a condition holds. -/
theorem onLines_if {b : Prop} [Decidable b] {f : Finding} (h : p f.line) : OnLines p (if b then [f] else []) :=
  onLines_ite (onLines_singleton h) onLines_nil

end Finding

/-- Findings on the line on which a lexeme starts. Lexemes count lines from zero, findings from one. -/
abbrev Lexeme.Here (x : Lexeme) (fs : List Finding) : Prop :=
  Finding.OnLines (fun line => line = (x.start.line : Int) + 1) fs

theorem Lexeme.here_if_atStart {x : Lexeme} (b : Prop) [Decidable b] (desc : String) :
    x.Here (if b then [.atStart x desc] else []) :=
  Finding.onLines_if rfl

theorem Lexeme.here_if_atStop {x : Lexeme} (b : Prop) [Decidable b] (desc : String) :
    x.Here (if b then [.atStop x desc] else []) :=
  Finding.onLines_if rfl

/-- The next lexeme is not on an earlier line. -/
def Window.Forward (w : Window) : Prop := ∀ x ∈ w.next, w.curr.start.line ≤ x.start.line

namespace Rule

open Finding Lexeme

variable {t : Text} {w : Window}

/-! ## Spaces and marks -/

theorem Spacing.here_check (l : Limits) (column : Nat) (spaces : Int) :
    w.curr.Here (l.check w.curr.start.line column spaces) :=
  onLines_ite (onLines_singleton rfl) (onLines_ite (onLines_singleton rfl) onLines_nil)

theorem Spacing.here_after (l : Limits) : w.curr.Here (after w l) := by
  unfold after
  split
  · exact onLines_ite (here_check l _ _) onLines_nil
  · exact onLines_nil

theorem Spacing.here_before (l : Limits) : w.curr.Here (before t w l) := by
  unfold before
  split
  · exact onLines_ite (here_check l _ _) onLines_nil
  · exact onLines_nil

theorem Colons.here_check (o : Colons.Options) : w.curr.Here (Colons.check o t w) := by
  unfold Colons.check
  split
  · exact (onLines_ite onLines_nil (Spacing.here_before _)).append (Spacing.here_after _)
  · exact onLines_ite (Spacing.here_after _) onLines_nil
  · exact onLines_nil

theorem Commas.here_check (o : Commas.Options) : w.curr.Here (Commas.check o t w) := by
  unfold Commas.check
  split
  · exact onLines_nil
  · refine OnLines.append ?_ (Spacing.here_after _)
    exact onLines_ite (onLines_singleton rfl) (Spacing.here_before _)

theorem Hyphens.here_check (o : Hyphens.Options) : w.curr.Here (Hyphens.check o w) := by
  unfold Hyphens.check
  exact onLines_ite (Spacing.here_after _) onLines_nil

theorem FlowCollections.here_check (s : Form) (o : FlowCollections.Options) :
    w.curr.Here (FlowCollections.check s o t w) := by
  unfold FlowCollections.check
  refine onLines_ite ?_ (onLines_ite (Spacing.here_before _) onLines_nil)
  exact onLines_ite (onLines_singleton rfl) (onLines_ite (Spacing.here_after _) (Spacing.here_after _))

theorem DocumentMark.here_checkStart (o : DocumentMark) : w.curr.Here (o.checkStart w) := by
  unfold checkStart
  exact onLines_ite (onLines_if rfl) (onLines_ite (onLines_singleton rfl) onLines_nil)

/-- The mark that is missing where the stream ends. The end may stand on the line after the last one
with content, and it is that one that is named. -/
def DocumentMark.IsMissingStop (o : DocumentMark) (w : Window) (f : Finding) : Prop :=
  o.isWanted = true ∧ w.curr.kind = .streamEnd ∧ f = ⟨w.curr.start.line, 1, "missing document end \"...\""⟩

theorem DocumentMark.line_of_mem_checkStop {o : DocumentMark} {f : Finding} (h : f ∈ o.checkStop w) :
    f.line = w.curr.start.line + 1 ∨ o.IsMissingStop w f := by
  unfold checkStop at h
  dsimp only at h
  split at h
  · next hwanted =>
    split at h
    · next hend =>
      rw [List.mem_singleton.1 h]
      by_cases hline : w.curr.start.line = 0
      · left
        rw [hline]
        rfl
      · right
        have hmax : max (1 : Int) w.curr.start.line = w.curr.start.line := by omega
        exact ⟨hwanted, eq_of_beq (Bool.and_eq_true_iff.1 hend).1, by rw [hmax]⟩
    · split at h
      · rw [List.mem_singleton.1 h]
        exact .inl rfl
      · cases h
  · split at h
    · rw [List.mem_singleton.1 h]
      exact .inl rfl
    · cases h

/-! ## Scalars and keys -/

theorem EmptyValues.here_check (o : EmptyValues.Options) : w.curr.Here (EmptyValues.check o w) := by
  unfold EmptyValues.check
  exact ((here_if_atStop _ _).append (here_if_atStop _ _)).append (here_if_atStop _ _)

theorem Truthy.here_findings (o : Truthy.Options) (s : Truthy.State) : w.curr.Here (Truthy.findings o w s) := by
  unfold findings
  split
  · exact onLines_if rfl
  · exact onLines_nil

theorem Octals.here_check (o : Octals.Options) : w.curr.Here (Octals.check o w) := by
  unfold Octals.check
  split
  · exact (here_if_atStop _ _).append (here_if_atStop _ _)
  · exact onLines_nil

theorem Floats.here_check (o : Floats.Options) : w.curr.Here (Floats.check o w) := by
  unfold Floats.check
  split
  · exact (((here_if_atStart _ _).append (here_if_atStart _ _)).append (here_if_atStart _ _)).append (here_if_atStart _ _)
  · exact onLines_nil

theorem Quotes.here_check {o : Quotes.Options} {s s' : Quotes.State} {fs : List Finding}
    (h : (Quotes.check o w s).outcome = .ok (s', fs)) : w.curr.Here fs := by
  unfold Quotes.check at h
  dsimp only at h
  split at h
  · cases h
    exact onLines_nil
  · split at h
    · cases h
      exact onLines_nil
    · obtain ⟨desc, -, h⟩ := Logged.outcome_bind_eq_ok.1 h
      split at h
      · cases h
        exact onLines_singleton rfl
      · cases h
        exact onLines_nil

/-- What is said of the key whose mark is looked at. It is said where the key is, which may be further
down than the mark. -/
def Keys.IsOfKey (w : Window) (f : Finding) : Prop :=
  w.curr.kind = .key ∧ ∃ x ∈ w.next, x.kind = .scalar ∧ f.line = x.start.line + 1

theorem Keys.isOfKey_of_key? {s : Keys.State} {x : Lexeme} {key : String} {keys : List String} (desc : String)
    (h : Keys.key? w s = some (x, key, keys)) : Keys.IsOfKey w (.atStart x desc) := by
  unfold Keys.key? at h
  split at h
  · next next keys' below hkind hnext =>
    split at h
    · next hscalar =>
      obtain ⟨value, -, h⟩ := Option.map_eq_some_iff.1 h
      cases h
      exact ⟨hkind, x, hnext, eq_of_beq hscalar, rfl⟩
    · cases h
  · cases h

theorem Keys.IsOfKey.line_le {f : Finding} (h : Keys.IsOfKey w f) (hw : w.Forward) :
    (w.curr.start.line : Int) + 1 ≤ f.line := by
  obtain ⟨-, x, hx, -, hline⟩ := h
  have := hw x hx
  omega

theorem KeyDuplicates.isOfKey_of_mem_check {o : KeyDuplicates.Options} {s : Keys.State} {f : Finding}
    (h : f ∈ (KeyDuplicates.check o w s).2) : Keys.IsOfKey w f := by
  unfold KeyDuplicates.check at h
  dsimp only at h
  split at h
  · next hkey =>
    split at h
    · rw [List.mem_singleton.1 h]
      exact Keys.isOfKey_of_key? _ hkey
    · cases h
  · cases h

theorem KeyOrdering.isOfKey_of_check {o : KeyOrdering.Options} {s s' : Keys.State} {fs : List Finding}
    (h : (KeyOrdering.check o w s).outcome = .ok (s', fs)) : ∀ f ∈ fs, Keys.IsOfKey w f := by
  unfold KeyOrdering.check at h
  dsimp only at h
  intro f hf
  split at h
  · next hkey =>
    obtain ⟨ignored, -, h⟩ := Logged.outcome_bind_eq_ok.1 h
    split at h
    · cases h
      cases hf
    · obtain ⟨less, -, h⟩ := Logged.outcome_bind_eq_ok.1 h
      split at h
      · cases h
        rw [List.mem_singleton.1 hf]
        exact Keys.isOfKey_of_key? _ hkey
      · cases h
        cases hf
  · cases h
    cases hf

/-! ## Indentation -/

theorem Indentation.here_checkColumn (s : Indentation.State) : w.curr.Here (Indentation.checkColumn w.curr s).2 := by
  unfold checkColumn
  split
  · exact onLines_ite (onLines_singleton rfl) onLines_nil
  · exact onLines_nil

/-- What is said of a line of a scalar after its first, where lines of scalars are looked at. -/
def Indentation.IsOfScalar (o : Indentation.Options) (w : Window) (f : Finding) : Prop :=
  o.checkMultiLine = true ∧ w.curr.kind = .scalar ∧ (w.curr.start.line : Int) + 1 < f.line

theorem Indentation.line_of_mem_laterLines {x : Lexeme} {i start : Nat} (h : (i, start) ∈ laterLines t x) : 0 < i := by
  obtain ⟨⟨_, _⟩, -, h⟩ := List.mem_map.1 h
  cases h
  exact Nat.succ_pos _

theorem Indentation.line_lt_of_mem_checkScalar {s : Indentation.State} {f : Finding}
    (h : f ∈ (Indentation.checkScalar t w.curr s).2) : (w.curr.start.line : Int) + 1 < f.line := by
  unfold checkScalar at h
  split at h
  · cases h
  · dsimp only at h
    split at h
    · cases h
    · obtain ⟨⟨i, spaces⟩, hmem, rfl⟩ := List.mem_map.1 h
      have hline := (List.mem_filter.1 hmem).1
      obtain ⟨⟨j, start⟩, hlater, hspaces⟩ := List.mem_filterMap.1 hline
      obtain ⟨_, -, hspaces⟩ := Option.map_eq_some_iff.1 hspaces
      have hpos : 0 < j := line_of_mem_laterLines hlater
      have hij : j = i := congrArg Prod.fst hspaces
      simp only
      omega

theorem Indentation.line_of_mem_check {o : Indentation.Options} {s : Indentation.State} {f : Finding}
    (h : f ∈ (Indentation.check o t w s).2) : f.line = w.curr.start.line + 1 ∨ IsOfScalar o w f := by
  unfold Indentation.check at h
  dsimp only at h
  rcases List.mem_append.1 h with h | h
  · rcases List.mem_append.1 h with h | h
    · exact .inl (here_checkColumn s f h)
    · split at h
      · next hscalar =>
        obtain ⟨hkind, hon⟩ := Bool.and_eq_true_iff.1 hscalar
        exact .inr ⟨hon, eq_of_beq hkind, line_lt_of_mem_checkScalar h⟩
      · cases h
  · have hhere : w.curr.Here [.atStart w.curr "cannot infer indentation: unexpected token"] := onLines_singleton rfl
    exact .inl (onLines_ite onLines_nil hhere f h)

/-! ## Anchors -/

/-- An anchor without an alias, told when its document closes. -/
def Anchors.IsUnused (o : Anchors.Options) (f : Finding) : Prop :=
  o.forbidUnused = true ∧ ∃ name : String, f.desc = s!"found unused anchor \"{name}\""

theorem Anchors.isUnused_of_mem_unused {o : Anchors.Options} {s : Anchors.State} {f : Finding}
    (ho : o.forbidUnused = true) (h : f ∈ unused s) : IsUnused o f := by
  obtain ⟨a, -, rfl⟩ := List.mem_map.1 h
  exact ⟨ho, a.name, rfl⟩

theorem Anchors.line_of_mem_check {o : Anchors.Options} {s : Anchors.State} {f : Finding}
    (h : f ∈ (Anchors.check o w s).2) : f.line = w.curr.start.line + 1 ∨ IsUnused o f := by
  unfold Anchors.check at h
  split at h
  · cases h
  · rcases List.mem_append.1 h with h | h
    · exact .inl ((here_if_atStart _ _).append (here_if_atStart _ _) f h)
    · split at h
      · next hclose => exact .inr (isUnused_of_mem_unused (Bool.and_eq_true_iff.1 hclose).1 h)
      · cases h

end Rule

open Finding Lexeme Rule

variable {t : Text}

/-! ## All rules -/

/-- What a rule keeps back until later. -/
def LexemeRule.KeepsBack : (r : LexemeRule) → r.Options → Finding → Prop
  | .anchors, o, f => Anchors.IsUnused o f
  | _, _, _ => False

/-- What a rule may report on another line than that of the lexeme it looks at. -/
def LexemeRule.Strays : (r : LexemeRule) → r.Options → Window → Finding → Prop
  | .documentEnd, o, w, f => o.IsMissingStop w f
  | .anchors, o, _, f => Anchors.IsUnused o f
  | .keyDuplicates, _, w, f => Keys.IsOfKey w f
  | .keyOrdering, _, w, f => Keys.IsOfKey w f
  | .indentation, o, w, f => Indentation.IsOfScalar o w f
  | _, _, _, _ => False

/-- A rule for lexemes reports on the line of the lexeme, but for what may stray. -/
theorem LexemeRule.line_of_check {w : Window} (r : LexemeRule) {o : r.Options} {s s' : r.State} {fs : List Finding}
    (h : (r.check t w o s).outcome = .ok (s', fs)) : ∀ f ∈ fs, f.line = w.curr.start.line + 1 ∨ r.Strays o w f := by
  intro f hf
  cases r with
  | braces => cases h; exact .inl (FlowCollections.here_check _ _ f hf)
  | brackets => cases h; exact .inl (FlowCollections.here_check _ _ f hf)
  | colons => cases h; exact .inl (Colons.here_check _ f hf)
  | commas => cases h; exact .inl (Commas.here_check _ f hf)
  | hyphens => cases h; exact .inl (Hyphens.here_check _ f hf)
  | documentStart => cases h; exact .inl (DocumentMark.here_checkStart _ f hf)
  | documentEnd => cases h; exact DocumentMark.line_of_mem_checkStop hf
  | emptyValues => cases h; exact .inl (EmptyValues.here_check _ f hf)
  | truthy =>
    obtain ⟨s, -, h⟩ := Logged.outcome_bind_eq_ok.1 h
    cases h
    exact .inl (Truthy.here_findings _ _ f hf)
  | octalValues => cases h; exact .inl (Octals.here_check _ f hf)
  | floatValues => cases h; exact .inl (Floats.here_check _ f hf)
  | keyDuplicates =>
    have h : KeyDuplicates.check o w s = (s', fs) := Except.ok.inj h
    have hkey := KeyDuplicates.isOfKey_of_mem_check (o := o) (w := w) (s := s) (f := f)
    rw [h] at hkey
    exact .inr (hkey hf)
  | anchors =>
    have h : Anchors.check o w s = (s', fs) := Except.ok.inj h
    have hline := Anchors.line_of_mem_check (o := o) (w := w) (s := s) (f := f)
    rw [h] at hline
    exact hline hf
  | keyOrdering => exact .inr (KeyOrdering.isOfKey_of_check h f hf)
  | quotedStrings => exact .inl (Quotes.here_check h f hf)
  | indentation =>
    have h : Indentation.check o t w s = (s', fs) := Except.ok.inj h
    have hline := Indentation.line_of_mem_check (o := o) (t := t) (w := w) (s := s) (f := f)
    rw [h] at hline
    exact hline hf

/-- What strays is no further back than the line before, but for what is kept back. -/
theorem LexemeRule.Strays.line_le {w : Window} (hw : w.Forward) {r : LexemeRule} {o : r.Options} {f : Finding}
    (h : r.Strays o w f) : (w.curr.start.line : Int) ≤ f.line ∨ r.KeepsBack o f := by
  cases r with
  | documentEnd =>
    obtain ⟨-, -, rfl⟩ := h
    exact .inl (Int.le_refl _)
  | anchors => exact .inr h
  | keyDuplicates => exact .inl (by have := Keys.IsOfKey.line_le h hw; omega)
  | keyOrdering => exact .inl (by have := Keys.IsOfKey.line_le h hw; omega)
  | indentation => exact .inl (by have := h.2.2; omega)
  | _ => cases h

/-- A rule for comments reports on the line of the comment. -/
theorem CommentRule.onLines_check (vs : OptionValues) (c : Comment) (r : CommentRule) :
    OnLines (· = (c.line : Int)) (r.check vs t c) := by
  cases r with
  | comments =>
    unfold CommentRule.check Comments.check
    refine OnLines.append (onLines_if rfl) ?_
    unfold Comments.checkStart
    dsimp only
    split
    · exact onLines_nil
    · exact onLines_ite onLines_nil (onLines_ite onLines_nil (onLines_ite onLines_nil (onLines_singleton rfl)))
  | commentsIndentation => exact onLines_ite onLines_nil (onLines_singleton rfl)

/-- A rule for lines reports on the line. -/
theorem LineRule.onLines_check {vs : OptionValues} {l : Line} (hl : l.start = 0 → l.number = 1) {r : LineRule}
    {fs : List Finding} (h : (r.check vs t l).outcome = .ok fs) : OnLines (· = (l.number : Int)) fs := by
  cases r with
  | trailingSpaces =>
    cases h
    unfold TrailingSpaces.check
    dsimp only
    split
    · exact onLines_if rfl
    · exact onLines_nil
  | newLineAtEndOfFile =>
    cases h
    exact onLines_if rfl
  | newLines =>
    cases h
    unfold LineBreaks.check
    dsimp only
    split
    · next hc =>
      have hstart : l.start = 0 := by
        simp only [Bool.and_eq_true, beq_iff_eq] at hc
        exact hc.1.1
      refine onLines_singleton ?_
      rw [hl hstart]
      rfl
    · exact onLines_nil
  | lineLength =>
    unfold LineRule.check LineLength.check at h
    dsimp only at h
    split at h
    · cases h
      exact onLines_nil
    · obtain ⟨unbreakable, -, h⟩ := Logged.outcome_bind_eq_ok.1 h
      split at h
      · cases h
        exact onLines_nil
      · cases h
        exact onLines_singleton rfl
  | emptyLines =>
    cases h
    exact onLines_ite onLines_nil (onLines_if rfl)

end YamlStyle
