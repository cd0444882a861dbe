import YamlStyle.Proofs.Rule.Places
import YamlStyle.Proofs.Stream.Within

/-!
# Where findings point

Every rule, with limits that are -1 or more, points into the text: with whatever lexemes stand around the
one it looks at (`LexemeRule.pointInto_check`), at comments and at lines. The columns of too many spaces
count from zero, but there is a space before them.
-/

namespace YamlStyle

variable {t : Text}

namespace Finding

/-- Findings at places of a text. -/
def PointInto (t : Text) (fs : List Finding) : Prop := ∀ f ∈ fs, t.IsPlace f.line f.column

variable {fs gs : List Finding} {line column : Int} {desc : String}

theorem pointInto_nil : PointInto t [] := List.forall_mem_nil _

theorem pointInto_singleton (h : t.IsPlace line column) : PointInto t [⟨line, column, desc⟩] :=
  List.forall_mem_singleton.2 h

theorem PointInto.append (hf : PointInto t fs) (hg : PointInto t gs) : PointInto t (fs ++ gs) :=
  List.forall_mem_append.2 ⟨hf, hg⟩

theorem pointInto_ite {b : Prop} [Decidable b] (hf : b → PointInto t fs) (hg : ¬b → PointInto t gs) :
    PointInto t (if b then fs else gs) := by
  split
  · exact hf ‹_›
  · exact hg ‹_›

/-- A finding that is reported if a condition holds. -/
theorem pointInto_if {b : Prop} [Decidable b] (h : b → t.IsPlace line column) :
    PointInto t (if b then [⟨line, column, desc⟩] else []) :=
  pointInto_ite (fun hb => pointInto_singleton (h hb)) fun _ => pointInto_nil

end Finding

theorem OptionValues.le_int {vs : OptionValues} {name : String} {m : Int} (hm : m ≤ 0)
    (h : ∀ n, (name, .int n) ∈ vs → m ≤ n) : m ≤ vs.int name := by
  unfold int
  split
  · next n hn =>
    obtain ⟨l, r, rfl, -⟩ := List.lookup_eq_some_iff.1 hn
    exact h n (by simp)
  · exact hm

/-- Values without a limit below -1, which stands for no limit. -/
def OptionValues.IsLimited (vs : OptionValues) : Prop := ∀ name n, (name, .int n) ∈ vs → -1 ≤ n

theorem OptionValues.IsLimited.le_int {vs : OptionValues} (h : vs.IsLimited) (name : String) : -1 ≤ vs.int name :=
  OptionValues.le_int (by decide) (h name)

namespace Rule

open Finding

variable {w : Window} {vs : OptionValues}

/-! ## Spaces -/

namespace Spacing

/-- Where there are too many spaces there is one. -/
theorem pointInto_check {l : Limits} (hl : -1 ≤ l.most) {line column : Nat} {spaces : Int}
    (hplace : t.IsPlace (line + 1) (column + 1)) (hspace : 0 < spaces → 1 ≤ column) :
    PointInto t (l.check line column spaces) := by
  refine pointInto_ite (fun habove => pointInto_singleton ?_) fun _ => pointInto_if fun _ => hplace
  simp only [Limits.isAbove, Bool.and_eq_true, bne_iff_ne, decide_eq_true_eq] at habove
  have hcolumn := hspace (by omega)
  exact hplace.left (by omega) (by omega)

theorem pointInto_after (hw : w.IsIn t) (hline : w.curr.stop.line = w.curr.start.line) {l : Limits}
    (hl : -1 ≤ l.most) : PointInto t (after w l) := by
  unfold after
  split
  · next next hnext =>
    have hin := hw.next next hnext
    refine pointInto_ite (fun hsame => ?_) fun _ => pointInto_nil
    have hsame : w.curr.stop.line = next.start.line := eq_of_beq hsame
    refine pointInto_check hl ?_ fun hspace => ?_
    · rw [← hline, hsame]
      exact hin.isPlace_start
    -- A positive distance on one line puts the next lexeme in a later column.
    · rw [hw.curr.stop, hin.start] at hsame
      have := LineIndex.column_mark_lt (t := t) (by omega) hsame
      rw [hin.start]
      omega
  · exact pointInto_nil

theorem pointInto_before (hw : w.IsIn t) {l : Limits} (hl : -1 ≤ l.most) : PointInto t (before t w l) := by
  unfold before
  split
  · next prev hprev =>
    have hin := hw.prev prev hprev
    refine pointInto_ite (fun hsame => ?_) fun _ => pointInto_nil
    have hsame : prev.stop.line = w.curr.start.line := eq_of_beq (Bool.and_eq_true_iff.1 hsame).1
    refine pointInto_check hl hw.curr.isPlace_start fun hspace => ?_
    rw [hin.stop, hw.curr.start] at hsame
    have := LineIndex.column_mark_lt (t := t) (by omega) hsame
    rw [hw.curr.start]
    omega
  · exact pointInto_nil

end Spacing

theorem Colons.pointInto_check (hw : w.IsIn t) (hvs : vs.IsLimited) :
    PointInto t (Colons.check (.ofValues vs) t w) := by
  unfold Colons.check
  split
  · next hkind =>
    have hline := hw.curr.punctuation (by rw [hkind]; rfl)
    refine (pointInto_ite (fun _ => pointInto_nil) fun _ => ?_).append ?_
    · exact Spacing.pointInto_before hw (hvs.le_int _)
    · exact Spacing.pointInto_after hw hline (hvs.le_int _)
  · next hkind =>
    have hline := hw.curr.punctuation (by rw [hkind]; rfl)
    exact pointInto_ite (fun _ => Spacing.pointInto_after hw hline (hvs.le_int _)) fun _ => pointInto_nil
  · exact pointInto_nil

theorem Commas.pointInto_check (hw : w.IsIn t) (hvs : vs.IsLimited) :
    PointInto t (Commas.check (.ofValues vs) t w) := by
  unfold Commas.check
  refine pointInto_ite (fun _ => pointInto_nil) fun hkind => ?_
  have hkind : w.curr.kind = .flowEntry := by simpa using hkind
  refine PointInto.append (pointInto_ite (fun _ => pointInto_singleton ?_) fun _ => ?_) ?_
  · exact hw.curr.isPlace_start.left (by omega) (by omega)
  · exact Spacing.pointInto_before hw (hvs.le_int _)
  · exact Spacing.pointInto_after hw (hw.curr.punctuation (by rw [hkind]; rfl)) (hvs.le_int _)

theorem Hyphens.pointInto_check (hw : w.IsIn t) (hvs : vs.IsLimited) :
    PointInto t (Hyphens.check (.ofValues vs) w) := by
  unfold Hyphens.check
  refine pointInto_ite (fun hkind => ?_) fun _ => pointInto_nil
  exact Spacing.pointInto_after hw (hw.curr.punctuation (by rw [eq_of_beq hkind]; rfl)) (hvs.le_int _)

theorem FlowCollections.pointInto_check (hw : w.IsIn t) (hvs : vs.IsLimited) {s : Form}
    (hs : s.start.isPunctuation = true) : PointInto t (FlowCollections.check s (.ofValues vs) t w) := by
  have hempty : -1 ≤ orElse (vs.int "max-spaces-inside-empty") (vs.int "max-spaces-inside") := by
    unfold orElse
    split <;> exact hvs.le_int _
  unfold FlowCollections.check
  refine pointInto_ite (fun hkind => ?_) fun _ => pointInto_ite (fun _ => ?_) fun _ => pointInto_nil
  · have hline := hw.curr.punctuation (by rw [eq_of_beq hkind]; exact hs)
    refine pointInto_ite (fun _ => pointInto_singleton (hw.curr.isPlace_stop hline)) fun _ =>
      pointInto_ite (fun _ => ?_) fun _ => ?_
    · exact Spacing.pointInto_after hw hline hempty
    · exact Spacing.pointInto_after hw hline (hvs.le_int _)
  · exact Spacing.pointInto_before hw (hvs.le_int _)

/-! ## Marks of documents -/

theorem DocumentMark.pointInto_checkStart (hw : w.IsIn t) (o : DocumentMark) : PointInto t (o.checkStart w) := by
  have hplace := hw.curr.isPlace_start
  refine pointInto_ite (fun _ => pointInto_if fun _ => ?_) fun _ => pointInto_if fun _ => hplace
  exact hplace.left (Int.le_refl 1) hplace.column_pos

theorem DocumentMark.pointInto_checkStop (hw : w.IsIn t) (o : DocumentMark) : PointInto t (o.checkStop w) := by
  have hplace := hw.curr.isPlace_start
  refine pointInto_ite (fun _ => pointInto_ite (fun _ => pointInto_singleton ?_) fun _ => pointInto_if fun _ => ?_)
    fun _ => pointInto_if fun _ => hplace
  · exact hplace.above (by omega) (by omega)
  · exact hplace.left (Int.le_refl 1) hplace.column_pos

/-! ## Scalars and keys -/

theorem EmptyValues.pointInto_check (hw : w.IsIn t) (o : EmptyValues.Options) :
    PointInto t (EmptyValues.check o w) := by
  have hstop : ∀ {b : Bool} {kind : LexemeKind} {followers : List LexemeKind} {place : String},
      kind.isPunctuation = true → PointInto t
        (if b && w.curr.kind == kind && isOneOf w.next followers then [.atStop w.curr s!"empty value in {place}"]
        else []) := by
    intro b kind followers place hkind
    refine pointInto_if fun h => hw.curr.isPlace_stop (hw.curr.punctuation ?_)
    simp only [Bool.and_eq_true, beq_iff_eq] at h
    rw [h.1.2]
    exact hkind
  exact ((hstop rfl).append (hstop rfl)).append (hstop rfl)

theorem Octals.not_endsName {c : Char} (h : Text.isOctalDigit c = true) : Yaml.endsName (some c) = false := by
  rw [Bool.eq_false_iff]
  intro hends
  simp only [Yaml.endsName, Yaml.isBreak, Yaml.isLineEnd, Bool.or_eq_true, beq_iff_eq] at hends
  rcases hends with rfl | (((rfl | rfl) | rfl) | rfl) | rfl
  all_goals revert h; decide

theorem mem_dropFinalBreak {v : Text} {c : Char} (h : c ∈ v.dropLast) : c ∈ dropFinalBreak v := by
  unfold dropFinalBreak
  split
  · exact h
  · exact List.mem_of_mem_dropLast h

theorem Octals.isOctalDigit_of_isImplicit {v : Text} (h : isImplicit v = true) :
    ∀ c ∈ v, Text.isOctalDigit c = true := by
  unfold isImplicit at h
  split at h
  · next r =>
    obtain ⟨-, hall⟩ := Bool.and_eq_true_iff.1 h
    exact List.forall_mem_cons.2 ⟨rfl, List.all_eq_true.1 hall⟩
  · cases h

/-- A break may end an octal number with a prefix. -/
theorem Octals.isOctalDigit_of_isExplicit {v : Text} (h : isExplicit v = true) :
    ∀ c ∈ v.dropLast, Text.isOctalDigit c = true ∨ c = 'o' := by
  unfold isExplicit at h
  split at h
  · next r =>
    obtain ⟨hne, hall⟩ := Bool.and_eq_true_iff.1 h
    have hr : r ≠ [] := by
      rintro rfl
      revert hne
      decide
    rw [List.dropLast_cons_of_ne_nil (by simp), List.dropLast_cons_of_ne_nil hr]
    refine List.forall_mem_cons.2 ⟨.inl rfl, List.forall_mem_cons.2 ⟨.inr rfl, fun c hc => .inl ?_⟩⟩
    exact List.all_eq_true.1 hall c (mem_dropFinalBreak hc)
  · cases h

theorem Octals.not_hasGap {v : Text} (h : isImplicit v = true ∨ isExplicit v = true) : ¬Yaml.HasGap v := by
  rintro ⟨c, hc, hends⟩
  have hdigit : Text.isOctalDigit c = true ∨ c = 'o' := by
    rcases h with h | h
    · exact .inl (isOctalDigit_of_isImplicit h c (List.mem_of_mem_dropLast hc))
    · exact isOctalDigit_of_isExplicit h c hc
  rcases hdigit with hdigit | rfl
  · rw [not_endsName hdigit] at hends
    cases hends
  · revert hends
    decide

/-- A plain scalar is all its window says of its value. -/
theorem eq_some_of_untaggedPlain? {value : String} (h : untaggedPlain? w = some value) :
    w.curr.style = some .plain ∧ w.curr.value = some value := by
  unfold untaggedPlain? at h
  split at h
  · cases h
  · next hplain =>
    simp only [Bool.or_eq_true, bne_iff_ne, not_or, not_not] at hplain
    exact ⟨hplain.2, h⟩

theorem Octals.pointInto_check (hw : w.IsIn t) (o : Octals.Options) : PointInto t (Octals.check o w) := by
  unfold Octals.check
  split
  · next value hvalue =>
    obtain ⟨hstyle, hvalue⟩ := eq_some_of_untaggedPlain? hvalue
    -- A scalar over several lines would have a gap, which a number has not.
    have hplace : isImplicit value.toList = true ∨ isExplicit value.toList = true →
        t.IsPlace (w.curr.start.line + 1) (w.curr.stop.column + 1) := fun h =>
      hw.curr.isPlace_stop ((hw.curr.plain hstyle value hvalue).resolve_right (not_hasGap h))
    refine PointInto.append (pointInto_if fun h => hplace ?_) (pointInto_if fun h => hplace ?_)
    · exact .inl (Bool.and_eq_true_iff.1 h).2
    · exact .inr (Bool.and_eq_true_iff.1 h).2
  · exact pointInto_nil

theorem Truthy.pointInto_findings (hw : w.IsIn t) (o : Truthy.Options) (s : Truthy.State) :
    PointInto t (Truthy.findings o w s) := by
  unfold Truthy.findings
  split
  · exact pointInto_if fun _ => hw.curr.isPlace_start
  · exact pointInto_nil

theorem Floats.pointInto_check (hw : w.IsIn t) (o : Floats.Options) : PointInto t (Floats.check o w) := by
  have hstart : ∀ {b : Bool} {desc : String}, PointInto t (if b then [.atStart w.curr desc] else []) :=
    pointInto_if fun _ => hw.curr.isPlace_start
  unfold Floats.check
  split
  · exact ((hstart.append hstart).append hstart).append hstart
  · exact pointInto_nil

theorem Quotes.pointInto_check (hw : w.IsIn t) {o : Quotes.Options} {s s' : Quotes.State} {fs : List Finding}
    (h : (Quotes.check o w s).outcome = .ok (s', fs)) : PointInto t fs := by
  unfold Quotes.check at h
  dsimp only at h
  split at h
  · cases h
    exact pointInto_nil
  · split at h
    · cases h
      exact pointInto_nil
    · obtain ⟨desc, -, h⟩ := Logged.outcome_bind_eq_ok.1 h
      split at h
      · cases h
        exact pointInto_singleton hw.curr.isPlace_start
      · cases h
        exact pointInto_nil

theorem Keys.pointInto_key? (hw : w.IsIn t) {s : Keys.State} {x : Lexeme} {key : String} {keys : List String}
    (h : Keys.key? w s = some (x, key, keys)) (desc : String) : PointInto t [.atStart x desc] := by
  unfold Keys.key? at h
  split at h
  · next next _ _ _ hnext =>
    split at h
    · obtain ⟨value, -, h⟩ := Option.map_eq_some_iff.1 h
      cases h
      exact pointInto_singleton (hw.next _ hnext).isPlace_start
    · cases h
  · cases h

theorem KeyDuplicates.pointInto_check (hw : w.IsIn t) (o : KeyDuplicates.Options) (s : Keys.State) :
    PointInto t (KeyDuplicates.check o w s).2 := by
  unfold KeyDuplicates.check
  dsimp only
  split
  · next hkey =>
    split
    · exact Keys.pointInto_key? hw hkey _
    · exact pointInto_nil
  · exact pointInto_nil

theorem KeyOrdering.pointInto_check (hw : w.IsIn t) {o : KeyOrdering.Options} {s s' : Keys.State}
    {fs : List Finding} (h : (KeyOrdering.check o w s).outcome = .ok (s', fs)) : PointInto t fs := by
  unfold KeyOrdering.check at h
  dsimp only at h
  split at h
  · next hkey =>
    obtain ⟨ignored, -, h⟩ := Logged.outcome_bind_eq_ok.1 h
    split at h
    · cases h
      exact pointInto_nil
    · obtain ⟨less, -, h⟩ := Logged.outcome_bind_eq_ok.1 h
      split at h
      · cases h
        exact Keys.pointInto_key? hw hkey _
      · cases h
        exact pointInto_nil
  · cases h
    exact pointInto_nil

/-! ## Indentation -/

/-- A later line of a scalar is as many lines further down as it says, and starts there. -/
theorem Indentation.mark_of_mem_laterLines {x : Lexeme} {i start : Nat} (hx : x.IsIn t)
    (h : (i, start) ∈ laterLines t x) : (LineIndex.ofText t).mark start = ⟨x.start.line + i, 0, start⟩ := by
  obtain ⟨⟨s, j⟩, hmem, h⟩ := List.mem_map.1 h
  cases h
  rw [hx.start]
  exact LineIndex.mark_of_startsAfter (List.take_prefix _ _) (List.mem_zipIdx_iff_getElem?.1 hmem)

/-- The spaces at the start of a line are followed by a character. -/
theorem Indentation.isPlace_of_spacesAt? {line start spaces : Nat}
    (hstart : (LineIndex.ofText t).mark start = ⟨line, 0, start⟩) (h : spacesAt? t start = some spaces) :
    t.IsPlace (line + 1) (spaces + 1) := by
  unfold spacesAt? at h
  dsimp only at h
  split at h
  · next c hc =>
    split at h
    · cases h
    · cases h
      rw [List.getElem?_drop] at hc
      have hplace := Text.isPlace_mark (Nat.le_of_lt (List.getElem?_eq_some_iff.1 hc).1)
      rw [LineIndex.mark_add (Text.not_mem_slice_takeWhile (by decide) t start), hstart] at hplace
      simpa using hplace
  · cases h

theorem Indentation.pointInto_checkColumn (hw : w.IsIn t) (s : Indentation.State) :
    PointInto t (Indentation.checkColumn w.curr s).2 := by
  unfold checkColumn
  split
  · exact pointInto_ite (fun _ => pointInto_singleton hw.curr.isPlace_start) fun _ => pointInto_nil
  · exact pointInto_nil

theorem Indentation.pointInto_checkScalar (hw : w.IsIn t) (s : Indentation.State) :
    PointInto t (Indentation.checkScalar t w.curr s).2 := by
  unfold checkScalar
  split
  · exact pointInto_nil
  · dsimp only
    split
    · exact pointInto_nil
    · intro f hf
      obtain ⟨⟨i, spaces⟩, hmem, rfl⟩ := List.mem_map.1 hf
      obtain ⟨⟨j, start⟩, hlater, hspaces⟩ := List.mem_filterMap.1 (List.mem_filter.1 hmem).1
      obtain ⟨_, hfound, ⟨⟩⟩ := Option.map_eq_some_iff.1 hspaces
      obtain ⟨n, hn, ⟨⟩⟩ := Option.bind_eq_some_iff.1 hfound
      have hplace := isPlace_of_spacesAt? (mark_of_mem_laterLines hw.curr hlater) hn
      have hline : ((w.curr.start.line + j : Nat) : Int) + 1 = w.curr.start.line + 1 + j := by omega
      rwa [hline] at hplace

theorem Indentation.pointInto_check (hw : w.IsIn t) (o : Indentation.Options) (s : Indentation.State) :
    PointInto t (Indentation.check o t w s).2 := by
  unfold Indentation.check
  dsimp only
  refine ((pointInto_checkColumn hw s).append ?_).append (pointInto_ite (fun _ => pointInto_nil) fun _ => ?_)
  · split
    · exact pointInto_checkScalar hw _
    · exact pointInto_nil
  · exact pointInto_singleton hw.curr.isPlace_start

/-! ## Anchors -/

/-- The anchors of the document at hand stand at places of the text. -/
def Anchors.State.IsIn (t : Text) (s : Anchors.State) : Prop := ∀ a ∈ s, t.IsPlace (a.line + 1) (a.column + 1)

theorem Anchors.pointInto_unused {s : Anchors.State} (hs : s.IsIn t) : PointInto t (unused s) := by
  intro f hf
  obtain ⟨a, ha, rfl⟩ := List.mem_map.1 hf
  exact hs a (List.mem_filter.1 ha).1

theorem Anchors.State.isIn_ite {b : Prop} [Decidable b] {s s' : Anchors.State} (hs : s.IsIn t) (hs' : s'.IsIn t) :
    (if b then s else s').IsIn t := by
  split
  · exact hs
  · exact hs'

theorem Anchors.State.IsIn.use {s : Anchors.State} (hs : s.IsIn t) (name : Option String) : (s.use name).IsIn t := by
  intro a ha
  obtain ⟨b, hb, rfl⟩ := List.mem_map.1 ha
  split
  · exact hs b hb
  · exact hs b hb

theorem Anchors.State.IsIn.declare {s : Anchors.State} (hs : s.IsIn t) {a : Declared}
    (ha : t.IsPlace (a.line + 1) (a.column + 1)) : (s.declare a).IsIn t := by
  unfold State.declare
  split
  · intro b hb
    obtain ⟨c, hc, rfl⟩ := List.mem_map.1 hb
    split
    · exact ha
    · exact hs c hc
  · exact List.forall_mem_append.2 ⟨hs, List.forall_mem_singleton.2 ha⟩

theorem Anchors.pointInto_check (hw : w.IsIn t) (o : Anchors.Options) {s : Anchors.State} (hs : s.IsIn t) :
    PointInto t (Anchors.check o w s).2 ∧ (Anchors.check o w s).1.IsIn t := by
  have hplace := hw.curr.isPlace_start
  unfold Anchors.check
  split
  · exact ⟨pointInto_nil, hs⟩
  · have hopened : State.IsIn t (if isBoundary w.curr.kind then [] else s) :=
      State.isIn_ite (List.forall_mem_nil _) hs
    refine ⟨?_, ?_⟩
    · refine PointInto.append (PointInto.append (pointInto_if fun _ => hplace) (pointInto_if fun _ => hplace)) ?_
      exact pointInto_ite (fun _ => pointInto_unused hopened) fun _ => pointInto_nil
    · dsimp only
      split
      · exact (State.isIn_ite (hopened.use _) hopened).declare hplace
      · exact State.isIn_ite (hopened.use _) hopened

/-! ## Comments and lines -/

/-- Past the hash signs of a comment the line goes on, if the text does. -/
theorem Comments.isPlace_afterHashes {c : Comment} (hc : c.toPlace.IsIn t) {hashes : Nat}
    (hhashes : hashes = ((t.drop (c.offset + 1)).takeWhile (· == '#')).length + 1)
    (hrest : t.drop (c.offset + hashes) ≠ []) : t.IsPlace c.line (c.column + hashes) := by
  have hdrop : t.drop c.offset = '#' :: t.drop (c.offset + 1) := by
    obtain ⟨hlt, hhash⟩ := List.getElem?_eq_some_iff.1 hc.hash
    rw [← List.getElem_cons_drop hlt, hhash]
  have hrun : ((t.drop c.offset).takeWhile (· == '#')).length = hashes := by
    rw [hdrop, List.takeWhile_cons_of_pos rfl, List.length_cons, hhashes]
  have hline := Text.not_mem_slice_takeWhile (p := (· == '#')) (by decide) t c.offset
  have hplace := Comment.Place.isPlace_ofOffset (Nat.le_of_lt (Nat.lt_of_not_le (mt List.drop_of_length_le hrest)))
  rw [hrun] at hline
  rw [Comment.Place.ofOffset_add hline, ← hc.place] at hplace
  exact_mod_cast hplace

theorem Comments.pointInto_check {c : Comment} (hc : c.toPlace.IsIn t) (o : Comments.Options) :
    PointInto t (Comments.check o t c) := by
  refine PointInto.append (pointInto_if fun _ => hc.isPlace) ?_
  unfold checkStart
  dsimp only
  split
  · exact pointInto_nil
  · next hrest =>
    refine pointInto_ite (fun _ => pointInto_nil) fun _ => pointInto_ite (fun _ => pointInto_nil) fun _ =>
      pointInto_ite (fun _ => pointInto_nil) fun _ => pointInto_singleton ?_
    exact isPlace_afterHashes hc rfl (by rw [hrest]; exact List.cons_ne_nil _ _)

theorem TrailingSpaces.pointInto_check {l : Line} (hl : l.IsIn t) : PointInto t (TrailingSpaces.check t l) := by
  unfold TrailingSpaces.check
  dsimp only
  split
  · next c hc =>
    refine pointInto_if fun _ => hl.isPlace (by omega) ?_
    have hlt := (List.getElem?_eq_some_iff.1 hc).1
    have hlength : (l.content t).length ≤ l.stop - l.start := List.length_take_le _ _
    omega
  · exact pointInto_nil

theorem FinalBreak.pointInto_check {l : Line} (hl : l.IsIn t) : PointInto t (FinalBreak.check t l) :=
  pointInto_if fun _ => hl.isPlace (by omega) (Int.le_refl _)

theorem LineBreaks.pointInto_check {l : Line} (hl : l.IsIn t) (o : LineBreaks.Options) :
    PointInto t (LineBreaks.check o t l) := by
  refine pointInto_if fun h => ?_
  simp only [Bool.and_eq_true, beq_iff_eq] at h
  have hmark := hl.mark
  rw [h.1.1, LineIndex.mark_zero, Mark.mk.injEq] at hmark
  have hnumber : l.number = 1 := by have := hl.number; omega
  have hplace : t.IsPlace l.number (↑(l.stop - l.start) + 1) := hl.isPlace (by omega) (Int.le_refl _)
  rwa [hnumber] at hplace

theorem EmptyLines.pointInto_check {l : Line} (hl : l.IsIn t) (o : EmptyLines.Options) :
    PointInto t (EmptyLines.check o t l) :=
  pointInto_ite (fun _ => pointInto_nil) fun _ => pointInto_if fun _ => hl.isPlace (Int.le_refl 1) (by omega)

/-- A line is too long from the first column beyond the limit on. -/
theorem LineLength.pointInto_check {l : Line} (hl : l.IsIn t) {o : LineLength.Options} (ho : 0 ≤ o.most)
    {fs : List Finding} (h : (LineLength.check o t l).outcome = .ok fs) : PointInto t fs := by
  unfold LineLength.check at h
  dsimp only at h
  split at h
  · cases h
    exact pointInto_nil
  · next hlong =>
    obtain ⟨unbreakable, -, h⟩ := Logged.outcome_bind_eq_ok.1 h
    split at h
    · cases h
      exact pointInto_nil
    · cases h
      exact pointInto_singleton (hl.isPlace (by omega) (by omega))

end Rule

open Finding Rule

variable {vs : OptionValues}

/-! ## All rules -/

/-- What a rule keeps of a text points into it. -/
def LexemeRule.KeepsIn (t : Text) : (r : LexemeRule) → r.State → Prop
  | .anchors, s => Anchors.State.IsIn t s
  | _, _ => True

theorem LexemeRule.keepsIn_start (t : Text) (r : LexemeRule) (o : r.Options) : r.KeepsIn t (r.start o) := by
  cases r with
  | anchors => exact List.forall_mem_nil _
  | _ => trivial

/-- A rule for lexemes points into the text, and goes on to. -/
theorem LexemeRule.pointInto_check {w : Window} (hw : w.IsIn t) (hvs : vs.IsLimited) (r : LexemeRule)
    {s s' : r.State} {fs : List Finding} (hs : r.KeepsIn t s)
    (h : (r.check t w (r.options vs) s).outcome = .ok (s', fs)) : PointInto t fs ∧ r.KeepsIn t s' := by
  cases r with
  | braces => cases h; exact ⟨FlowCollections.pointInto_check hw hvs rfl, trivial⟩
  | brackets => cases h; exact ⟨FlowCollections.pointInto_check hw hvs rfl, trivial⟩
  | colons => cases h; exact ⟨Colons.pointInto_check hw hvs, trivial⟩
  | commas => cases h; exact ⟨Commas.pointInto_check hw hvs, trivial⟩
  | hyphens => cases h; exact ⟨Hyphens.pointInto_check hw hvs, trivial⟩
  | documentStart => cases h; exact ⟨DocumentMark.pointInto_checkStart hw _, trivial⟩
  | documentEnd => cases h; exact ⟨DocumentMark.pointInto_checkStop hw _, trivial⟩
  | emptyValues => cases h; exact ⟨EmptyValues.pointInto_check hw _, trivial⟩
  | truthy =>
    obtain ⟨s, -, h⟩ := Logged.outcome_bind_eq_ok.1 h
    cases h
    exact ⟨Truthy.pointInto_findings hw _ _, trivial⟩
  | octalValues => cases h; exact ⟨Octals.pointInto_check hw _, trivial⟩
  | floatValues => cases h; exact ⟨Floats.pointInto_check hw _, trivial⟩
  | keyDuplicates =>
    have h : KeyDuplicates.check (.ofValues vs) w s = (s', fs) := Except.ok.inj h
    have hpoint := KeyDuplicates.pointInto_check hw (.ofValues vs) s
    rw [h] at hpoint
    exact ⟨hpoint, trivial⟩
  | anchors =>
    have h : Anchors.check (.ofValues vs) w s = (s', fs) := Except.ok.inj h
    have hpoint := Anchors.pointInto_check hw (.ofValues vs) hs
    rw [h] at hpoint
    exact hpoint
  | keyOrdering => exact ⟨KeyOrdering.pointInto_check hw h, trivial⟩
  | quotedStrings => exact ⟨Quotes.pointInto_check hw h, trivial⟩
  | indentation =>
    have h : Indentation.check (.ofValues vs) t w s = (s', fs) := Except.ok.inj h
    have hpoint := Indentation.pointInto_check hw (.ofValues vs) s
    rw [h] at hpoint
    exact ⟨hpoint, trivial⟩

theorem CommentRule.pointInto_check {c : Comment} (hc : c.toPlace.IsIn t) (vs : OptionValues) (r : CommentRule) :
    PointInto t (r.check vs t c) := by
  cases r with
  | comments => exact Comments.pointInto_check hc _
  | commentsIndentation => exact pointInto_ite (fun _ => pointInto_nil) fun _ => pointInto_singleton hc.isPlace

/-- A rule for lines points into the text if the limit on their length is not negative. -/
theorem LineRule.pointInto_check {l : Line} (hl : l.IsIn t) {r : LineRule}
    (hlength : r = .lineLength → 0 ≤ vs.int "max") {fs : List Finding} (h : (r.check vs t l).outcome = .ok fs) :
    PointInto t fs := by
  cases r with
  | trailingSpaces => cases h; exact TrailingSpaces.pointInto_check hl
  | newLineAtEndOfFile => cases h; exact FinalBreak.pointInto_check hl
  | newLines => cases h; exact LineBreaks.pointInto_check hl _
  | lineLength => exact LineLength.pointInto_check hl (hlength rfl) h
  | emptyLines => cases h; exact EmptyLines.pointInto_check hl _

end YamlStyle
