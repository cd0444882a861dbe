import YamlStyle.Proofs.Journal
import YamlStyle.Proofs.Lexeme.Spelling
import YamlStyle.Proofs.Text.Words
import YamlStyle.Rule.Catalog

/-!
# Where rules trip

A rule trips over a pattern that is none, over a key that has no place in the order of keys, and over a
text that it tries out and that cannot be read (`LexemeRule.Trips`, `LineRule.Trips`). On the lexemes and
the lines of a text no rule fails otherwise.
-/

namespace YamlStyle

open Yaml (TokenHazard)
open Yaml.Lex (IsDirective IsNumber IsVersion)

/-! ## Printable characters -/

namespace Text

/-- A printable character of ASCII other than the space. -/
def IsGraphic (c : Char) : Prop := 0x20 < c.toNat ∧ c.toNat < 0x7f

instance (c : Char) : Decidable (IsGraphic c) := inferInstanceAs (Decidable (_ ∧ _))

theorem isSpace_of_isGraphic {c : Char} (h : IsGraphic c) : isSpace c = false := by
  have : 0x20 < c.toNat ∧ c.toNat < 0x7f := h
  simp only [isSpace, Bool.or_eq_false_iff, Bool.and_eq_false_iff, decide_eq_false_iff_not, beq_eq_false_iff_ne]
  omega

theorem isGraphic_of_isDigit {c : Char} (h : isDigit c = true) : IsGraphic c := by
  have := toNat_of_isDigit h
  exact ⟨by omega, by omega⟩

theorem isGraphic_of_isAsciiLetter {c : Char} (h : isAsciiLetter c = true) : IsGraphic c := by
  simp only [isAsciiLetter, Bool.or_eq_true, Bool.and_eq_true, decide_eq_true_eq] at h
  have h : 97 ≤ c.toNat ∧ c.toNat ≤ 122 ∨ 65 ≤ c.toNat ∧ c.toNat ≤ 90 := h
  exact ⟨by omega, by omega⟩

theorem isGraphic_of_isWordChar {c : Char} (h : Yaml.isWordChar c = true) : IsGraphic c := by
  simp only [Yaml.isWordChar, Bool.or_eq_true, beq_iff_eq] at h
  rcases h with ((h | h) | rfl) | rfl
  · exact isGraphic_of_isDigit h
  · exact isGraphic_of_isAsciiLetter h
  · decide
  · decide

end Text

/-- A lexeme and the one after it are among some lexemes. -/
structure Window.IsOf (xs : List Lexeme) (w : Window) : Prop where
  curr : w.curr ∈ xs
  next : ∀ x ∈ w.next, x ∈ xs

namespace Rule

variable {t : Text} {w : Window} {xs : List Lexeme}

/-! ## Versions -/

namespace Truthy

theorem directiveVersion?_of_word {word : Text} (h : ∀ c ∈ word, Text.IsGraphic c) (hne : word ≠ []) :
    directiveVersion? word = .ok none := by
  rw [directiveVersion?, Text.words_of_word (fun c hc => Text.isSpace_of_isGraphic (h c hc)) hne]
  rfl

theorem isGraphic_of_version {major minor : Text} (hmajor : IsNumber major) (hminor : IsNumber minor) :
    ∀ c ∈ major ++ '.' :: minor, Text.IsGraphic c := by
  intro c hc
  rcases List.mem_append.1 hc with hc | hc
  · exact Text.isGraphic_of_isDigit (hmajor.2.1 c hc)
  · rcases List.mem_cons.1 hc with rfl | hc
    · decide
    · exact Text.isGraphic_of_isDigit (hminor.2.1 c hc)

theorem ofText_of_isNumber {digits : Text} (h : IsNumber digits) :
    Numeral.ofText 10 digits = .ok (Text.numberIn 10 digits) := by
  rw [Numeral.ofText_digits h.2.1 h.1, if_neg (Nat.not_lt.2 h.2.2)]

/-- The two numbers of a version are numerals. -/
theorem exists_directiveVersion?_of_version {written : Text} (h : IsVersion written) :
    ∃ v, directiveVersion? ("%YAML".toList ++ written) = .ok v := by
  obtain ⟨spaces, major, minor, hspaces, hmajor, hminor, rfl⟩ := h
  have hname : ∀ c ∈ "%YAML".toList, Text.IsGraphic c := by simp [Text.IsGraphic]
  have hversion := isGraphic_of_version hmajor hminor
  cases spaces with
  | nil => exact ⟨none, directiveVersion?_of_word (List.forall_mem_append.2 ⟨hname, hversion⟩) (by simp)⟩
  | cons space spaces =>
    have hwords : Text.words Text.isSpace ("%YAML".toList ++ (space :: spaces ++ (major ++ '.' :: minor))) =
        ["%YAML".toList, major ++ '.' :: minor] := by
      have hblank : ∀ c ∈ spaces, Text.isSpace c = true := by
        intro c hc
        rw [hspaces c (.tail _ hc)]
        decide
      rw [Text.words, Text.words_go_append fun c hc => Text.isSpace_of_isGraphic (hname c hc), hspaces space (.head _), List.cons_append, Text.words.go,
        if_pos (by decide), Text.words_go_blanks hblank]
      exact congrArg ("%YAML".toList :: ·) (Text.words_of_word (fun c hc => Text.isSpace_of_isGraphic (hversion c hc)) (by simp))
    have hmajor' : (major ++ '.' :: minor).takeWhile (· != '.') = major := by
      have hpoint : ∀ c ∈ major, (c != '.') = true := by
        intro c hc
        rw [bne_iff_ne]
        rintro rfl
        exact absurd (hmajor.2.1 '.' hc) (by decide)
      rw [List.takeWhile_append_of_pos hpoint]
      simp
    have hminor' : (major ++ '.' :: minor).drop (major.length + 1) = minor := by simp
    rw [directiveVersion?, hwords]
    dsimp only
    rw [hmajor', hminor', ofText_of_isNumber hmajor, ofText_of_isNumber hminor]
    split
    · exact ⟨_, rfl⟩
    · exact ⟨_, rfl⟩

/-- A directive has a version that can be had, or none. -/
theorem exists_directiveVersion? {written : Text} (h : IsDirective written) : ∃ v, directiveVersion? written = .ok v := by
  cases h with
  | version h => exact exists_directiveVersion?_of_version h
  | tag written =>
    have hgraphic : ∀ c ∈ "%TAG".toList, Text.IsGraphic c := by simp [Text.IsGraphic]
    have hname := fun c hc => Text.isSpace_of_isGraphic (hgraphic c hc)
    have hread : "%TAG".toList.reverse ++ [] ≠ [] := by decide
    obtain ⟨more, others, hwords⟩ := Text.exists_words_go (p := Text.isSpace) written hread
    rw [directiveVersion?, Text.words, Text.words_go_append hname, hwords]
    split
    · next name version hmatch =>
      have hother : (name == "%YAML".toList) = false := by
        obtain ⟨rfl, -⟩ := List.cons.inj hmatch
        rfl
      rw [hother]
      exact ⟨none, rfl⟩
    · exact ⟨none, rfl⟩
  | @reserved name hname =>
    refine ⟨none, directiveVersion?_of_word (fun c hc => ?_) (List.cons_ne_nil _ _)⟩
    rcases List.mem_cons.1 hc with rfl | hc
    · decide
    · have hchar := hname c hc
      simp only [Bool.or_eq_true, beq_iff_eq] at hchar
      rcases hchar with (hchar | rfl) | rfl
      · exact Text.isGraphic_of_isWordChar hchar
      · decide
      · decide

end Truthy

/-! ## Patterns and texts that are tried out -/

/-- A failure over one of some patterns that is none. -/
inductive IsBadPattern (patterns : List String) : Failure → Prop
  | intro {pattern : String} {fault : Regex.Fault} (hmem : pattern ∈ patterns)
      (hfault : Regex.Pattern.ofText pattern.toList = .error fault) :
      IsBadPattern patterns (.badPattern pattern.toList fault)

/-- A failure over a text in which a value stands that no text may carry. -/
inductive IsUnreadable (source : Text) : Failure → Prop
  | intro {f : Yaml.Failure} (h : TokenHazard source f) : IsUnreadable source (.unreadable source f)

theorem IsBadPattern.mono {ps qs : List String} {e : Failure} (h : IsBadPattern ps e) (hsub : ps ⊆ qs) :
    IsBadPattern qs e := by
  obtain ⟨hmem, hfault⟩ := h
  exact ⟨hsub hmem, hfault⟩

theorem meets_search (pattern : String) : (search t pattern).Meets (fun _ => True) (IsBadPattern [pattern]) := by
  unfold search
  split
  · exact Logged.meets_pure trivial
  · next hfault => exact Logged.meets_throw ⟨.head _, hfault⟩

theorem meets_searchAny (patterns : List String) :
    (searchAny t patterns).Meets (fun _ => True) (IsBadPattern patterns) := by
  induction patterns with
  | nil => exact Logged.meets_pure trivial
  | cons p ps ih =>
    refine ((meets_search p).weaken fun _ he => he.mono (List.cons_subset_cons p (List.nil_subset ps))).bind fun b _ => ?_
    exact Logged.meets_ite (fun _ => Logged.meets_pure trivial) fun _ =>
      ih.weaken fun _ he => he.mono (List.subset_cons_self p ps)

theorem meets_probe (source : Text) : (Lexeme.probe source).Meets (fun _ => True) (IsUnreadable source) := by
  refine ⟨fun _ _ => trivial, fun e he => ?_⟩
  obtain ⟨f, hf, rfl⟩ := Logged.outcome_mapError_eq_error.1 he
  exact ⟨Tree.hazard_of_build (Lexeme.outcome_ofText_eq_error.1 hf)⟩

/-! ## Keys in order -/

/-- A value that a scalar among some lexemes has. -/
def IsScalarOf (xs : List Lexeme) (value : String) : Prop := ∃ x ∈ xs, x.kind = .scalar ∧ x.value = some value

/-- All keys noted are scalars among some lexemes. -/
def Keys.State.IsOf (xs : List Lexeme) (s : Keys.State) : Prop := ∀ c ∈ s, ∀ key ∈ c.keys, IsScalarOf xs key

namespace Keys

variable {s : State} {key : String}

theorem State.IsOf.follow (h : s.IsOf xs) (x : Lexeme) : (s.follow x).IsOf xs := by
  have hopen : ∀ isMapping, State.IsOf xs (⟨isMapping, []⟩ :: s) := by
    intro isMapping c hc
    rcases List.mem_cons.1 hc with rfl | hc
    · intro key hkey
      cases hkey
    · exact h c hc
  unfold State.follow
  split
  · exact hopen true
  · split
    · exact hopen false
    · split
      · exact fun c hc => h c (List.mem_of_mem_tail hc)
      · exact h

theorem State.IsOf.add (h : s.IsOf xs) (hkey : IsScalarOf xs key) : (s.add key).IsOf xs := by
  unfold State.add
  split
  · next c rest =>
    intro d hd
    rcases List.mem_cons.1 hd with rfl | hd
    · exact List.forall_mem_append.2 ⟨h c (.head _), by simpa using hkey⟩
    · exact h d (.tail _ hd)
  · exact h

theorem isScalarOf_of_key? (hw : w.IsOf xs) {x : Lexeme} {keys : List String} (h : key? w s = some (x, key, keys)) :
    IsScalarOf xs key ∧ (s.IsOf xs → ∀ other ∈ keys, IsScalarOf xs other) := by
  unfold key? at h
  split at h
  · next next keys' rest hkind hnext =>
    split at h
    · next hscalar =>
      obtain ⟨value, hvalue, h⟩ := Option.map_eq_some_iff.1 h
      cases h
      exact ⟨⟨x, hw.next x hnext, eq_of_beq hscalar, hvalue⟩, fun hs => hs _ (.head _)⟩
    · cases h
  · cases h

end Keys

namespace KeyOrdering

/-- Where keys cannot be put in order: a pattern for keys is none, or a key has a NUL character. -/
inductive Trips (xs : List Lexeme) (o : Options) : Failure → Prop
  | pattern {e : Failure} (h : IsBadPattern o.ignored e) : Trips xs o e
  | key {value : String} (hkey : IsScalarOf xs value) (h : '\x00' ∈ value.toList) : Trips xs o .unorderedKey

variable {o : Options} {key : String} {others : List String}

theorem meets_isLess {other : String} (hkey : IsScalarOf xs key) (hother : IsScalarOf xs other) :
    (isLess key other).Meets (fun _ => True) (Trips xs o) := by
  refine Logged.meets_ite (fun hnul => Logged.meets_throw ?_) fun _ => Logged.meets_pure trivial
  rcases Bool.or_eq_true_iff.1 hnul with hnul | hnul
  · exact .key hkey (List.contains_iff_mem.1 hnul)
  · exact .key hother (List.contains_iff_mem.1 hnul)

theorem meets_isLessThanAny (hkey : IsScalarOf xs key) (hothers : ∀ other ∈ others, IsScalarOf xs other) :
    (isLessThanAny key others).Meets (fun _ => True) (Trips xs o) := by
  induction others with
  | nil => exact Logged.meets_pure trivial
  | cons other rest ih =>
    refine (meets_isLess hkey (hothers other (.head _))).bind fun less _ => ?_
    exact Logged.meets_ite (fun _ => Logged.meets_pure trivial) fun _ => ih fun k hk => hothers k (.tail _ hk)

theorem meets_check (hw : w.IsOf xs) {s : Keys.State} (hs : s.IsOf xs) :
    (check o w s).Meets (fun r => r.1.IsOf xs) (Trips xs o) := by
  have hs' := hs.follow w.curr
  unfold check
  dsimp only
  split
  · next x key keys hkey =>
    obtain ⟨hscalar, hkeys⟩ := Keys.isScalarOf_of_key? hw hkey
    refine ((meets_searchAny o.ignored).weaken fun _ he => .pattern he).bind fun ignored _ => ?_
    refine Logged.meets_ite (fun _ => Logged.meets_pure hs') fun _ => ?_
    refine (meets_isLessThanAny hscalar (hkeys hs')).bind fun less _ => ?_
    exact Logged.meets_ite (fun _ => Logged.meets_pure hs') fun _ => Logged.meets_pure (hs'.add hscalar)
  · exact Logged.meets_pure hs'

end KeyOrdering

/-! ## Quotes -/

namespace Quotes

/-- The patterns that are searched for. -/
def patterns (o : Options) : List String :=
  match o.need with
  | .always => []
  | .free => o.extraRequired
  | .onlyWhenNeeded => o.extraRequired ++ o.extraAllowed

/-- The text in which a value is tried out without quotes. -/
abbrev unquoted (value : String) : Text := "key: ".toList ++ value.toList

/-- Where quotes cannot be judged: a pattern for strings is none, or a quoted string cannot be read without
its quotes. -/
inductive Trips (xs : List Lexeme) (o : Options) : Failure → Prop
  | pattern {e : Failure} (h : IsBadPattern (patterns o) e) : Trips xs o e
  | value {x : Lexeme} {e : Failure} (hx : x ∈ xs) (hscalar : x.kind = .scalar) (hquoted : x.style.any (·.isQuoted) = true)
      (hneed : o.need = .onlyWhenNeeded) (h : IsUnreadable (unquoted (x.value.getD "")) e) : Trips xs o e

theorem meets_needsQuotes (value : String) (inFlow : Bool) :
    (needsQuotes value inFlow).Meets (fun _ => True) (IsUnreadable (unquoted value)) := by
  refine Logged.meets_ite (fun _ => Logged.meets_pure trivial) fun _ => ?_
  refine (meets_probe _).bind fun xs _ => ?_
  exact Logged.meets_ite (fun _ => Logged.meets_pure trivial) fun _ => Logged.meets_pure trivial

theorem meets_complaint (o : Options) (node value : String) (isQuoted isText isOk inFlow : Bool) :
    (complaint o node value isQuoted isText isOk inFlow).Meets (fun _ => True) fun e =>
      IsBadPattern (patterns o) e ∨ o.need = .onlyWhenNeeded ∧ isQuoted = true ∧ IsUnreadable (unquoted value) e := by
  have hsearch : ∀ ps, ps ⊆ patterns o → (searchAny value.toList ps).Meets (fun _ => True) fun e =>
      IsBadPattern (patterns o) e ∨ o.need = .onlyWhenNeeded ∧ isQuoted = true ∧ IsUnreadable (unquoted value) e :=
    fun ps hsub => (meets_searchAny ps).weaken fun _ he => .inl (he.mono hsub)
  unfold complaint
  dsimp only
  split
  · exact Logged.meets_pure trivial
  · next hneed =>
    have hrequired : o.extraRequired ⊆ patterns o := by rw [patterns, hneed]; exact fun _ h => h
    refine Logged.meets_ite (fun _ => Logged.meets_pure trivial) fun _ => ?_
    exact (hsearch _ hrequired).bind fun _ _ => Logged.meets_pure trivial
  · next hneed =>
    have hrequired : o.extraRequired ⊆ patterns o := by rw [patterns, hneed]; exact List.subset_append_left _ _
    have hallowed : o.extraAllowed ⊆ patterns o := by rw [patterns, hneed]; exact List.subset_append_right _ _
    refine Logged.meets_ite (fun hquoted => Logged.meets_ite (fun _ => ?_) fun _ => Logged.meets_pure trivial) fun _ => ?_
    · refine ((meets_needsQuotes value inFlow).weaken fun _ he => .inr ⟨hneed, hquoted, he⟩).bind fun needs _ => ?_
      refine Logged.meets_ite (fun _ => ?_) fun _ => Logged.meets_pure trivial
      refine (hsearch _ hrequired).bind fun required _ => Logged.meets_ite (fun _ => Logged.meets_pure trivial) fun _ => ?_
      refine (hsearch _ hallowed).bind fun allowed _ => ?_
      exact Logged.meets_ite (fun _ => Logged.meets_pure trivial) fun _ => Logged.meets_pure trivial
    · exact (hsearch _ hrequired).bind fun _ _ => Logged.meets_pure trivial

theorem meets_check {o : Options} {s : State} (hw : w.IsOf xs) :
    (check o w s).Meets (fun _ => True) (Trips xs o) := by
  unfold check
  dsimp only
  refine Logged.meets_ite (fun _ => Logged.meets_pure trivial) fun hcandidate => ?_
  have hcandidate : isCandidate o w = true := by simpa using hcandidate
  simp only [isCandidate, Bool.and_eq_true, beq_iff_eq] at hcandidate
  refine Logged.meets_ite (fun _ => Logged.meets_pure trivial) fun _ => ?_
  refine ((meets_complaint _ _ _ _ _ _ _).weaken fun e he => ?_).bind fun found _ => ?_
  · rcases he with he | ⟨hneed, hquoted, he⟩
    · exact .pattern he
    · exact .value hw.curr hcandidate.1.1.1 hquoted hneed he
  · split
    · exact Logged.meets_pure trivial
    · exact Logged.meets_pure trivial

end Quotes

/-! ## Long lines -/

namespace LineLength

/-- Where the length of a line cannot be judged: a line that is too long cannot be read on its own. -/
inductive Trips (t : Text) (o : Options) : Failure → Prop
  | line {l : Line} {e : Failure} (hl : l ∈ Line.ofText t) (hmappings : o.allowMappings = true)
      (hlong : o.most < ((l.stop - l.start : Nat) : Int)) (h : IsUnreadable (l.content t) e) : Trips t o e

theorem meets_isInlineMapping (content : Text) :
    (isInlineMapping content).Meets (fun _ => True) (IsUnreadable content) := by
  refine (meets_probe content).bind fun xs _ => ?_
  split
  · split
    · exact Logged.meets_pure trivial
    · exact Logged.meets_pure trivial
  · exact Logged.meets_pure trivial

theorem meets_isUnbreakable (o : Options) (content : Text) : (isUnbreakable o content).Meets (fun _ => True)
    fun e => o.allowMappings = true ∧ IsUnreadable content e := by
  refine Logged.meets_ite (fun _ => Logged.meets_pure trivial) fun _ => ?_
  refine Logged.meets_ite (fun _ => Logged.meets_pure trivial) fun _ => ?_
  exact Logged.meets_ite (fun hmappings => (meets_isInlineMapping content).weaken fun _ he => ⟨hmappings, he⟩)
    fun _ => Logged.meets_pure trivial

theorem meets_check {o : Options} {l : Line} (hl : l ∈ Line.ofText t) :
    (check o t l).Meets (fun _ => True) (Trips t o) := by
  unfold check
  dsimp only
  refine Logged.meets_ite (fun _ => Logged.meets_pure trivial) fun hlong => ?_
  refine ((meets_isUnbreakable o _).weaken fun e he => ?_).bind fun unbreakable _ => ?_
  · exact .line hl he.1 (by omega) he.2
  · exact Logged.meets_ite (fun _ => Logged.meets_pure trivial) fun _ => Logged.meets_pure trivial

end LineLength

end Rule

open Rule

variable {t : Text} {w : Window} {xs : List Lexeme}

/-! ## All rules -/

/-- Where a rule for lexemes trips over some lexemes. -/
def LexemeRule.Trips (xs : List Lexeme) : (r : LexemeRule) → r.Options → Rule.Failure → Prop
  | .keyOrdering, o, e => KeyOrdering.Trips xs o e
  | .quotedStrings, o, e => Quotes.Trips xs o e
  | _, _, _ => False

/-- What the state of a rule holds comes from some lexemes. -/
def LexemeRule.Follows (xs : List Lexeme) : (r : LexemeRule) → r.State → Prop
  | .keyOrdering, s => Keys.State.IsOf xs s
  | _, _ => True

theorem LexemeRule.follows_start (xs : List Lexeme) (r : LexemeRule) (o : r.Options) : r.Follows xs (r.start o) := by
  cases r with
  | keyOrdering =>
    intro c hc
    cases hc
  | _ => trivial

/-- Directives among some lexemes are written as directives are. -/
def Lexeme.Directed (xs : List Lexeme) : Prop :=
  ∀ x ∈ xs, x.kind = .directive → ∃ value, x.value = some value ∧ IsDirective value.toList

theorem Rule.Truthy.meets_check (hxs : Lexeme.Directed xs) (hw : w.IsOf xs) (o : Truthy.Options) (s : Truthy.State)
    (E : Rule.Failure → Prop) : (Truthy.check o w s).Meets (fun _ => True) E := by
  have hfollow : ∃ s', s.follow w.curr = .ok s' := by
    unfold State.follow
    split
    · next hkind =>
      obtain ⟨value, hvalue, hdirective⟩ := hxs _ hw.curr hkind
      obtain ⟨v, hv⟩ := exists_directiveVersion? hdirective
      rw [hvalue, Option.getD_some, hv]
      exact ⟨_, rfl⟩
    · exact ⟨_, rfl⟩
    · exact ⟨_, rfl⟩
  obtain ⟨s', hs'⟩ := hfollow
  unfold Truthy.check
  rw [hs']
  exact Logged.meets_pure trivial

/-- A rule for lexemes fails only where it trips. -/
theorem LexemeRule.meets_check (hxs : Lexeme.Directed xs) (hw : w.IsOf xs) (r : LexemeRule) {o : r.Options} {s : r.State}
    (hs : r.Follows xs s) : (r.check t w o s).Meets (fun result => r.Follows xs result.1) (r.Trips xs o) := by
  cases r with
  | truthy => exact Truthy.meets_check hxs hw o s _
  | keyOrdering => exact KeyOrdering.meets_check hw hs
  | quotedStrings => exact Quotes.meets_check hw
  | _ => exact Logged.meets_pure trivial

/-- Where a rule for lines trips over the lines of a text. -/
def LineRule.Trips (t : Text) (vs : OptionValues) : LineRule → Rule.Failure → Prop
  | .lineLength, e => LineLength.Trips t (.ofValues vs) e
  | _, _ => False

theorem LineRule.meets_check {vs : OptionValues} {l : Line} (hl : l ∈ Line.ofText t) (r : LineRule) :
    (r.check vs t l).Meets (fun _ => True) (r.Trips t vs) := by
  cases r with
  | lineLength => exact LineLength.meets_check hl
  | _ => exact Logged.meets_pure trivial

end YamlStyle
