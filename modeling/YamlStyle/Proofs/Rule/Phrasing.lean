import YamlStyle.Proofs.Lexeme.Spelling
import YamlStyle.Proofs.Rule.Pointing
import YamlStyle.Proofs.Rule.Trips

/-!
# What rules say

Rules say in one line what is wrong, over legible lexemes and with the values that they accept. Only keys
may stand in what they say with line feeds in them (`LexemeRule.phrased_check`).
-/

namespace YamlStyle

namespace Finding

/-- Findings that are told in one line. -/
def AreUnbroken (fs : List Finding) : Prop := ∀ f ∈ fs, Unbroken f.desc

variable {fs gs : List Finding} {line column : Int} {desc : String}

theorem areUnbroken_nil : AreUnbroken [] := List.forall_mem_nil _

theorem areUnbroken_singleton (h : Unbroken desc) : AreUnbroken [⟨line, column, desc⟩] :=
  List.forall_mem_singleton.2 h

theorem AreUnbroken.append (hf : AreUnbroken fs) (hg : AreUnbroken gs) : AreUnbroken (fs ++ gs) :=
  List.forall_mem_append.2 ⟨hf, hg⟩

theorem areUnbroken_ite {b : Prop} [Decidable b] (hf : AreUnbroken fs) (hg : AreUnbroken gs) :
    AreUnbroken (if b then fs else gs) := by
  split
  · exact hf
  · exact hg

/-- A finding that is reported if a condition holds. -/
theorem areUnbroken_if {b : Prop} [Decidable b] (h : b → Unbroken desc) :
    AreUnbroken (if b then [⟨line, column, desc⟩] else []) := by
  split
  · next hb => exact areUnbroken_singleton (h hb)
  · exact areUnbroken_nil

end Finding

namespace Rule

open Finding

variable {t : Text} {w : Window} {xs : List Lexeme}

/-! ## Spaces and marks -/

namespace Spacing

/-- Limits that are told in one line where they are broken. -/
structure Limits.AreUnbroken (l : Limits) : Prop where
  tooFew : Unbroken l.tooFew
  tooMany : Unbroken l.tooMany

variable {l : Limits}

theorem unbroken_check (h : l.AreUnbroken) (line column : Nat) (spaces : Int) :
    AreUnbroken (l.check line column spaces) :=
  areUnbroken_ite (areUnbroken_singleton h.tooMany) (areUnbroken_if fun _ => h.tooFew)

theorem unbroken_after (h : l.AreUnbroken) : AreUnbroken (after w l) := by
  unfold after
  split
  · exact areUnbroken_ite (unbroken_check h _ _ _) areUnbroken_nil
  · exact areUnbroken_nil

theorem unbroken_before (h : l.AreUnbroken) : AreUnbroken (before t w l) := by
  unfold before
  split
  · exact areUnbroken_ite (unbroken_check h _ _ _) areUnbroken_nil
  · exact areUnbroken_nil

end Spacing

theorem Colons.unbroken_check (o : Colons.Options) : AreUnbroken (Colons.check o t w) := by
  unfold Colons.check
  split
  · refine AreUnbroken.append (areUnbroken_ite areUnbroken_nil ?_) ?_
    · exact Spacing.unbroken_before ⟨.literal rfl, .literal rfl⟩
    · exact Spacing.unbroken_after ⟨.literal rfl, .literal rfl⟩
  · exact areUnbroken_ite (Spacing.unbroken_after ⟨.literal rfl, .literal rfl⟩) areUnbroken_nil
  · exact areUnbroken_nil

theorem Commas.unbroken_check (o : Commas.Options) : AreUnbroken (Commas.check o t w) := by
  unfold Commas.check
  refine areUnbroken_ite areUnbroken_nil (AreUnbroken.append ?_ (Spacing.unbroken_after ⟨.literal rfl, .literal rfl⟩))
  exact areUnbroken_ite (areUnbroken_singleton (.literal rfl)) (Spacing.unbroken_before ⟨.literal rfl, .literal rfl⟩)

theorem Hyphens.unbroken_check (o : Hyphens.Options) : AreUnbroken (Hyphens.check o w) :=
  areUnbroken_ite (Spacing.unbroken_after ⟨.literal rfl, .literal rfl⟩) areUnbroken_nil

theorem FlowCollections.unbroken_limits {s : Form} (hs : Unbroken s.brackets) {place : String} (hplace : Unbroken place)
    (least most : Int) : (s.limits least most place).AreUnbroken where
  tooFew := by
    unfold Form.limits
    simp [hs, hplace]
    exact .literal rfl
  tooMany := by
    unfold Form.limits
    simp [hs, hplace]
    exact .literal rfl

theorem FlowCollections.unbroken_check {s : Form} (hbrackets : Unbroken s.brackets)
    (hcollection : Unbroken s.collection) (o : FlowCollections.Options) :
    AreUnbroken (FlowCollections.check s o t w) := by
  have hforbidden : Unbroken s!"forbidden {s.collection}" := Unbroken.append_iff.2 ⟨.literal rfl, hcollection⟩
  have hlimits : ∀ {place : String}, Unbroken place → ∀ least most, (s.limits least most place).AreUnbroken :=
    unbroken_limits hbrackets
  unfold FlowCollections.check
  refine areUnbroken_ite (areUnbroken_ite (areUnbroken_singleton hforbidden) (areUnbroken_ite ?_ ?_))
    (areUnbroken_ite ?_ areUnbroken_nil)
  · exact Spacing.unbroken_after (hlimits (.literal rfl) _ _)
  · exact Spacing.unbroken_after (hlimits (.literal rfl) _ _)
  · exact Spacing.unbroken_before (hlimits (.literal rfl) _ _)

theorem DocumentMark.unbroken_checkStart (o : DocumentMark) : AreUnbroken (o.checkStart w) :=
  areUnbroken_ite (areUnbroken_if fun _ => .literal rfl) (areUnbroken_if fun _ => .literal rfl)

theorem DocumentMark.unbroken_checkStop (o : DocumentMark) : AreUnbroken (o.checkStop w) :=
  areUnbroken_ite (areUnbroken_ite (areUnbroken_singleton (.literal rfl)) (areUnbroken_if fun _ => .literal rfl))
    (areUnbroken_if fun _ => .literal rfl)

/-! ## Scalars -/

theorem EmptyValues.unbroken_check (o : EmptyValues.Options) : AreUnbroken (EmptyValues.check o w) := by
  have hfinding : ∀ {b : Bool} {place : String}, Unbroken place →
      AreUnbroken (if b then [.atStop w.curr s!"empty value in {place}"] else []) := fun hplace =>
    areUnbroken_if fun _ => Unbroken.append_iff.2 ⟨.literal rfl, hplace⟩
  exact ((hfinding (.literal rfl)).append (hfinding (.literal rfl))).append (hfinding (.literal rfl))

theorem Truthy.unbroken_findings {o : Truthy.Options} (ho : ∀ value ∈ o.allowed, Unbroken value) (s : Truthy.State) :
    AreUnbroken (Truthy.findings o w s) := by
  have hdesc : Unbroken (desc o) := by
    have hallowed : ∀ value ∈ o.allowed.mergeSort fun a b => a ≤ b, Unbroken value :=
      fun value hvalue => ho value (List.mem_mergeSort.1 hvalue)
    exact Unbroken.append_iff.2 ⟨Unbroken.append_iff.2 ⟨.literal rfl, .intercalate (.literal rfl) hallowed⟩, .literal rfl⟩
  unfold Truthy.findings
  split
  · exact areUnbroken_if fun _ => hdesc
  · exact areUnbroken_nil

/-! ## Numbers -/

theorem not_mem_of_dropLast {v : Text} (h : '\n' ∉ v.dropLast) (hlast : v.getLast? ≠ some '\n') : '\n' ∉ v := by
  intro hmem
  have hne : v ≠ [] := List.ne_nil_of_mem hmem
  rw [← List.dropLast_append_getLast hne, List.mem_append, List.mem_singleton] at hmem
  refine hlast ?_
  rw [List.getLast?_eq_some_getLast hne, hmem.resolve_left h]

theorem not_mem_of_all {p : Char → Bool} {v : Text} (h : v.all p = true) (hp : p '\n' = false) : '\n' ∉ v := by
  intro hmem
  rw [List.all_eq_true.1 h '\n' hmem] at hp
  cases hp

theorem dropFinalBreak_of_getLast? {v : Text} (h : v.getLast? ≠ some '\n') : dropFinalBreak v = v :=
  if_neg (by simpa using h)

namespace Octals

theorem not_mem_of_isImplicit {v : Text} (h : isImplicit v = true) : '\n' ∉ v := by
  intro hmem
  exact absurd (isOctalDigit_of_isImplicit h _ hmem) (by decide)

theorem not_mem_of_isExplicit {v : Text} (h : isExplicit v = true) (hlast : v.getLast? ≠ some '\n') : '\n' ∉ v := by
  refine not_mem_of_dropLast (fun hmem => ?_) hlast
  exact absurd (isOctalDigit_of_isExplicit h _ hmem) (by decide)

theorem unbroken_check (hw : w.curr.IsLegible) (o : Octals.Options) : AreUnbroken (Octals.check o w) := by
  unfold Octals.check
  split
  · next value hvalue =>
    obtain ⟨hstyle, hvalue⟩ := eq_some_of_untaggedPlain? hvalue
    have hlast := hw.plain hstyle value hvalue
    have hfinding : ∀ {forbidden holds : Bool} {sort : String}, Unbroken sort → (holds = true → Unbroken value) →
        AreUnbroken (if forbidden && holds then
          [.atStop w.curr s!"forbidden {sort} octal value \"{value}\""] else []) := by
      intro forbidden holds sort hsort hholds
      refine areUnbroken_if fun h => ?_
      simp [hsort, hholds (Bool.and_eq_true_iff.1 h).2]
      and_intros <;> exact .literal rfl
    refine AreUnbroken.append (hfinding (.literal rfl) fun h => ?_) (hfinding (.literal rfl) fun h => ?_)
    · exact not_mem_of_isImplicit h
    · exact not_mem_of_isExplicit h hlast
  · exact areUnbroken_nil

end Octals

namespace Floats

open Yaml.Plain (isAllSome isExponent isInfinite isNotANumber unsigned)

theorem not_mem_of_isAllSome {v : Text} (h : isAllSome Text.isDigit v = true) : '\n' ∉ v :=
  not_mem_of_all (Bool.and_eq_true_iff.1 h).2 (by decide)

theorem not_mem_of_isExponent {v : Text} (h : isExponent true v = true) : '\n' ∉ v := by
  have hletter : ∀ {c d e : Char}, (c == d || c == e) = true → d ≠ '\n' → e ≠ '\n' → '\n' ≠ c := by
    rintro c d e hc hd he rfl
    simp [hd.symm, he.symm] at hc
  unfold isExponent at h
  split at h
  · cases h
  · obtain ⟨he, h⟩ := Bool.and_eq_true_iff.1 h
    refine List.not_mem_cons_of_ne_of_not_mem (hletter he (by decide) (by decide)) ?_
    split at h
    · cases h
    · split at h
      · next hsign =>
        exact List.not_mem_cons_of_ne_of_not_mem (hletter hsign (by decide) (by decide)) (not_mem_of_isAllSome h)
      · exact not_mem_of_isAllSome h

theorem not_mem_of_unsigned {v : Text} (h : '\n' ∉ unsigned v) : '\n' ∉ v := by
  unfold unsigned at h
  split at h
  · exact List.not_mem_nil
  · split at h
    · next hsign =>
      refine List.not_mem_cons_of_ne_of_not_mem ?_ h
      rintro rfl
      simp at hsign
    · exact h

/-- Only what follows the digits may have a line feed. -/
theorem not_mem_of_digits {v : Text} (h : '\n' ∉ (digits v).2) : '\n' ∉ v := by
  intro hmem
  rw [← List.takeWhile_append_dropWhile (p := Text.isDigit) (l := v)] at hmem
  rcases List.mem_append.1 hmem with hmem | hmem
  · exact absurd (List.mem_takeWhile_imp hmem) (by decide)
  · exact h hmem

theorem not_mem_of_lacksNumeral {v : Text} (h : lacksNumeral v = true) : '\n' ∉ v := by
  refine not_mem_of_unsigned ?_
  unfold lacksNumeral at h
  split at h
  · next r hr =>
    rw [hr]
    refine List.not_mem_cons_of_ne_of_not_mem (by decide) (not_mem_of_digits ?_)
    rcases Bool.or_eq_true_iff.1 (Bool.and_eq_true_iff.1 h).2 with hnil | hexponent
    · have hnil : (digits r).2 = [] := List.isEmpty_iff.1 hnil
      rw [hnil]
      exact List.not_mem_nil
    · exact not_mem_of_isExponent hexponent
  · cases h

theorem not_mem_of_isScientific {v : Text} (h : isScientific v = true) : '\n' ∉ v := by
  refine not_mem_of_unsigned (not_mem_of_digits ?_)
  unfold isScientific at h
  dsimp only at h
  split at h
  · next r hr =>
    rw [hr]
    refine List.not_mem_cons_of_ne_of_not_mem (by decide) (not_mem_of_digits ?_)
    exact not_mem_of_isExponent (Bool.and_eq_true_iff.1 h).2
  · exact not_mem_of_isExponent (Bool.and_eq_true_iff.1 h).2

theorem not_mem_of_contains {names : List String} (hnames : ∀ s ∈ names, Unbroken s) {v : Text}
    (h : names.contains (String.ofList v) = true) : '\n' ∉ v :=
  Unbroken.ofList_iff.1 (hnames _ (List.contains_iff_mem.1 h))

theorem unbroken_check (hw : w.curr.IsLegible) (o : Floats.Options) : AreUnbroken (Floats.check o w) := by
  unfold Floats.check
  split
  · next value hvalue =>
    obtain ⟨hstyle, hvalue⟩ := eq_some_of_untaggedPlain? hvalue
    rw [dropFinalBreak_of_getLast? (hw.plain hstyle value hvalue)]
    have hfinding : ∀ {forbidden holds : Bool} {desc : String}, Unbroken desc → (holds = true → Unbroken value) →
        AreUnbroken (if forbidden && holds then [.atStart w.curr s!"{desc} \"{value}\""] else []) := by
      intro forbidden holds desc hdesc hholds
      refine areUnbroken_if fun h => ?_
      simp [hdesc, hholds (Bool.and_eq_true_iff.1 h).2]
      and_intros <;> exact .literal rfl
    refine AreUnbroken.append (AreUnbroken.append (AreUnbroken.append ?_ ?_) ?_) ?_
    · exact hfinding (.literal rfl) fun h => not_mem_of_contains (by decide) h
    · exact hfinding (.literal rfl) fun h => not_mem_of_unsigned (not_mem_of_contains (by decide) h)
    · exact hfinding (.literal rfl) fun h => not_mem_of_isScientific h
    · exact hfinding (.literal rfl) fun h => not_mem_of_lacksNumeral h
  · exact areUnbroken_nil

end Floats

/-! ## Quotes -/

theorem Quotes.unbroken_name (q : Quotes.QuoteType) : Unbroken q.name := by
  cases q <;> exact .literal rfl

theorem Quotes.unbroken_complaint {o : Quotes.Options} {node value : String} {isQuoted isText isOk inFlow : Bool}
    (hnode : Unbroken node) : (complaint o node value isQuoted isText isOk inFlow).Meets
      (fun found => ∀ desc ∈ found, Unbroken desc) fun _ => True := by
  have hname := unbroken_name o.quoteType
  have hwrong : Unbroken s!"string {node} is not quoted with {o.quoteType.name} quotes" := by
    simp [hnode, hname]
    and_intros <;> exact .literal rfl
  have hnot : Unbroken s!"string {node} is not quoted" := by
    simp [hnode]
    and_intros <;> exact .literal rfl
  have hredundant : Unbroken s!"string {node} is redundantly quoted with {o.quoteType.name} quotes" := by
    simp [hnode, hname]
    and_intros <;> exact .literal rfl
  have hif : ∀ {b : Prop} [Decidable b] {first second : Option String}, (∀ desc ∈ first, Unbroken desc) →
      (∀ desc ∈ second, Unbroken desc) → ∀ desc ∈ if b then first else second, Unbroken desc := by
    intro b _ first second hfirst hsecond
    split
    · exact hfirst
    · exact hsecond
  have hnone : ∀ desc ∈ (none : Option String), Unbroken desc := fun desc h => by cases h
  have hsome : ∀ {told : String}, Unbroken told → ∀ desc ∈ some told, Unbroken desc := by
    rintro told h desc ⟨⟩
    exact h
  have hany : ∀ {α : Type} (x : Check α), x.Meets (fun _ => True) fun _ => True :=
    fun _ => Logged.meets_of_ok fun _ _ => trivial
  unfold complaint
  dsimp only
  split
  · exact Logged.meets_pure (hif (hsome hwrong) hnone)
  · refine Logged.meets_ite (fun _ => Logged.meets_pure (hif hnone (hsome hwrong))) fun _ => ?_
    exact (hany _).bind fun _ _ => Logged.meets_pure (hif (hsome hnot) hnone)
  · refine Logged.meets_ite (fun _ => Logged.meets_ite (fun _ => ?_) fun _ => Logged.meets_pure (hif hnone (hsome hwrong)))
      fun _ => ?_
    · refine (hany _).bind fun needs _ => Logged.meets_ite (fun _ => ?_) fun _ => Logged.meets_pure (hif hnone (hsome hwrong))
      refine (hany _).bind fun required _ => Logged.meets_ite (fun _ => Logged.meets_pure hnone) fun _ => ?_
      refine (hany _).bind fun allowed _ => ?_
      exact Logged.meets_ite (fun _ => Logged.meets_pure hnone) fun _ => Logged.meets_pure (hsome hredundant)
    · exact (hany _).bind fun _ _ => Logged.meets_pure (hif (hsome hnot) hnone)

theorem Quotes.unbroken_check {o : Quotes.Options} {s s' : Quotes.State} {fs : List Finding}
    (h : (Quotes.check o w s).outcome = .ok (s', fs)) : AreUnbroken fs := by
  unfold Quotes.check at h
  dsimp only at h
  split at h
  · cases h
    exact areUnbroken_nil
  · split at h
    · cases h
      exact areUnbroken_nil
    · obtain ⟨found, hfound, h⟩ := Logged.outcome_bind_eq_ok.1 h
      have hnode : Unbroken (if isOneOf w.prev [.key] then "key" else "value") := by
        split <;> exact .literal rfl
      have htold := (unbroken_complaint hnode).1 _ hfound
      split at h
      · cases h
        exact areUnbroken_singleton (htold _ rfl)
      · cases h
        exact areUnbroken_nil

/-! ## Indentation -/

theorem Indentation.unbroken_wrong (line expected found : Int) : AreUnbroken [Indentation.wrong line expected found] := by
  refine areUnbroken_singleton ?_
  split
  · simp
    exact .literal rfl
  · simp
    and_intros <;> exact .literal rfl

theorem Indentation.unbroken_checkColumn (s : Indentation.State) :
    AreUnbroken (Indentation.checkColumn w.curr s).2 := by
  unfold checkColumn
  split
  · exact areUnbroken_ite (unbroken_wrong _ _ _) areUnbroken_nil
  · exact areUnbroken_nil

theorem Indentation.unbroken_checkScalar (s : Indentation.State) :
    AreUnbroken (Indentation.checkScalar t w.curr s).2 := by
  unfold checkScalar
  split
  · exact areUnbroken_nil
  · dsimp only
    split
    · exact areUnbroken_nil
    · intro f hf
      obtain ⟨⟨i, spaces⟩, -, rfl⟩ := List.mem_map.1 hf
      simp
      and_intros <;> exact .literal rfl

theorem Indentation.unbroken_check (o : Indentation.Options) (s : Indentation.State) :
    AreUnbroken (Indentation.check o t w s).2 := by
  unfold Indentation.check
  dsimp only
  refine ((unbroken_checkColumn s).append ?_).append (areUnbroken_ite areUnbroken_nil (areUnbroken_singleton (.literal rfl)))
  split
  · exact unbroken_checkScalar _
  · exact areUnbroken_nil

/-! ## Anchors -/

namespace Anchors

/-- The anchors of the document at hand have names of one line. -/
def State.IsLegible (s : Anchors.State) : Prop := ∀ a ∈ s, Unbroken a.name

variable {s s' : Anchors.State}

theorem unbroken_unused (hs : s.IsLegible) : AreUnbroken (unused s) := by
  intro f hf
  obtain ⟨a, ha, rfl⟩ := List.mem_map.1 hf
  simp [hs a (List.mem_filter.1 ha).1]
  and_intros <;> exact .literal rfl

theorem State.isLegible_ite {b : Prop} [Decidable b] (hs : s.IsLegible) (hs' : s'.IsLegible) :
    (if b then s else s').IsLegible := by
  split
  · exact hs
  · exact hs'

theorem State.IsLegible.use (hs : s.IsLegible) (name : Option String) : (s.use name).IsLegible := by
  intro a ha
  obtain ⟨b, hb, rfl⟩ := List.mem_map.1 ha
  split
  · exact hs b hb
  · exact hs b hb

theorem State.IsLegible.declare (hs : s.IsLegible) {a : Declared} (ha : Unbroken a.name) : (s.declare a).IsLegible := by
  unfold State.declare
  split
  · intro b hb
    obtain ⟨c, hc, rfl⟩ := List.mem_map.1 hb
    split
    · exact ha
    · exact hs c hc
  · exact List.forall_mem_append.2 ⟨hs, List.forall_mem_singleton.2 ha⟩

theorem unbroken_check (hw : w.curr.IsLegible) (o : Anchors.Options) (hs : s.IsLegible) :
    AreUnbroken (Anchors.check o w s).2 ∧ (Anchors.check o w s).1.IsLegible := by
  have hshown : w.curr.kind = .anchor ∨ w.curr.kind = .alias → Unbroken (w.curr.value.getD "None") := by
    intro hkind
    cases hvalue : w.curr.value with
    | none => exact .literal rfl
    | some name => exact hw.name hkind name hvalue
  unfold Anchors.check
  split
  · exact ⟨areUnbroken_nil, hs⟩
  · have hopened : State.IsLegible (if isBoundary w.curr.kind then [] else s) :=
      State.isLegible_ite (List.forall_mem_nil _) hs
    refine ⟨AreUnbroken.append (AreUnbroken.append (areUnbroken_if fun h => ?_) (areUnbroken_if fun h => ?_)) ?_, ?_⟩
    · simp only [Bool.and_eq_true, beq_iff_eq] at h
      simp [hshown (.inr h.1.2)]
      and_intros <;> exact .literal rfl
    · simp only [Bool.and_eq_true, beq_iff_eq] at h
      simp [hshown (.inl h.1.2)]
      and_intros <;> exact .literal rfl
    · exact areUnbroken_ite (unbroken_unused hopened) areUnbroken_nil
    · dsimp only
      split
      · next name hkind hname =>
        exact (State.isLegible_ite (hopened.use _) hopened).declare (hw.name (.inl hkind) name hname)
      · exact State.isLegible_ite (hopened.use _) hopened

end Anchors

/-! ## Comments and lines -/

theorem Comments.unbroken_check (o : Comments.Options) (c : Comment) : AreUnbroken (Comments.check o t c) := by
  refine AreUnbroken.append (areUnbroken_if fun _ => ?_) ?_
  · simp
    exact .literal rfl
  · unfold checkStart
    dsimp only
    split
    · exact areUnbroken_nil
    · exact areUnbroken_ite areUnbroken_nil
        (areUnbroken_ite areUnbroken_nil (areUnbroken_ite areUnbroken_nil (areUnbroken_singleton (.literal rfl))))

theorem CommentIndentation.unbroken_check (c : Comment) : AreUnbroken (CommentIndentation.check t c) :=
  areUnbroken_ite areUnbroken_nil (areUnbroken_singleton (.literal rfl))

variable {l : Line}

theorem TrailingSpaces.unbroken_check : AreUnbroken (TrailingSpaces.check t l) := by
  unfold TrailingSpaces.check
  dsimp only
  split
  · exact areUnbroken_if fun _ => .literal rfl
  · exact areUnbroken_nil

theorem FinalBreak.unbroken_check : AreUnbroken (FinalBreak.check t l) := areUnbroken_if fun _ => .literal rfl

theorem LineBreaks.unbroken_check (o : LineBreaks.Options) : AreUnbroken (LineBreaks.check o t l) := by
  have hshown : Unbroken o.wanted.shown := by
    cases o.wanted <;> exact .literal rfl
  exact areUnbroken_if fun _ => Unbroken.append_iff.2 ⟨.literal rfl, hshown⟩

theorem EmptyLines.unbroken_check (o : EmptyLines.Options) : AreUnbroken (EmptyLines.check o t l) := by
  refine areUnbroken_ite areUnbroken_nil (areUnbroken_if fun _ => ?_)
  simp
  and_intros <;> exact .literal rfl

theorem LineLength.unbroken_check {o : LineLength.Options} {fs : List Finding}
    (h : (LineLength.check o t l).outcome = .ok fs) : AreUnbroken fs := by
  unfold LineLength.check at h
  dsimp only at h
  split at h
  · cases h
    exact areUnbroken_nil
  · obtain ⟨unbreakable, -, h⟩ := Logged.outcome_bind_eq_ok.1 h
    split at h
    · cases h
      exact areUnbroken_nil
    · cases h
      refine areUnbroken_singleton ?_
      simp
      and_intros <;> exact .literal rfl

/-! ## Keys -/

/-- What is said of a key that occurs again. -/
def KeyDuplicates.desc (key : String) : String := s!"duplication of key \"{key}\" in mapping"

/-- What is said of a key out of order. -/
def KeyOrdering.desc (key : String) : String := s!"wrong ordering of key \"{key}\" in mapping"

/-- A message around a key is on one line if the key is. -/
theorem unbroken_around {head tail key : String} (hhead : Unbroken head) (htail : Unbroken tail) :
    Unbroken (head ++ key ++ tail) ↔ Unbroken key := by
  simp [hhead, htail]

theorem KeyDuplicates.unbroken_desc {key : String} : Unbroken (desc key) ↔ Unbroken key :=
  unbroken_around (.literal rfl) (.literal rfl)

theorem KeyOrdering.unbroken_desc {key : String} : Unbroken (desc key) ↔ Unbroken key :=
  unbroken_around (.literal rfl) (.literal rfl)

theorem KeyDuplicates.phrased_check (hw : w.IsOf xs) {o : KeyDuplicates.Options} {s : Keys.State} {f : Finding}
    (h : f ∈ (KeyDuplicates.check o w s).2) : ∃ key, IsScalarOf xs key ∧ f.desc = desc key := by
  unfold KeyDuplicates.check at h
  dsimp only at h
  split at h
  · next x key keys hkey =>
    split at h
    · rw [List.mem_singleton.1 h]
      exact ⟨key, (Keys.isScalarOf_of_key? hw hkey).1, rfl⟩
    · cases h
  · cases h

theorem KeyOrdering.phrased_check (hw : w.IsOf xs) {o : KeyOrdering.Options} {s s' : Keys.State} {fs : List Finding}
    (h : (KeyOrdering.check o w s).outcome = .ok (s', fs)) :
    ∀ f ∈ fs, ∃ key, IsScalarOf xs key ∧ f.desc = desc key := by
  unfold KeyOrdering.check at h
  dsimp only at h
  intro f hf
  split at h
  · next x key keys hkey =>
    obtain ⟨ignored, -, h⟩ := Logged.outcome_bind_eq_ok.1 h
    split at h
    · cases h
      cases hf
    · obtain ⟨less, -, h⟩ := Logged.outcome_bind_eq_ok.1 h
      split at h
      · cases h
        rw [List.mem_singleton.1 hf]
        exact ⟨key, (Keys.isScalarOf_of_key? hw hkey).1, rfl⟩
      · cases h
        cases hf
  · cases h
    cases hf

end Rule

open Finding Rule

variable {t : Text} {w : Window} {xs : List Lexeme} {vs : OptionValues}

/-! ## All rules -/

/-- What a rule keeps is told in one line. -/
def LexemeRule.KeepsLegible : (r : LexemeRule) → r.State → Prop
  | .anchors, s => Anchors.State.IsLegible s
  | _, _ => True

theorem LexemeRule.keepsLegible_start (r : LexemeRule) (o : r.Options) : r.KeepsLegible (r.start o) := by
  cases r with
  | anchors => exact List.forall_mem_nil _
  | _ => trivial

/-- What a rule says of a key among some lexemes. -/
def LexemeRule.OfKey (xs : List Lexeme) (r : LexemeRule) (desc : String) : Prop :=
  ∃ key, IsScalarOf xs key ∧
    (r = .keyDuplicates ∧ desc = KeyDuplicates.desc key ∨ r = .keyOrdering ∧ desc = KeyOrdering.desc key)

/-- A rule for lexemes says what is wrong in one line, or names a key. -/
theorem LexemeRule.phrased_check (hw : w.IsOf xs) (hlegible : w.curr.IsLegible) (r : LexemeRule)
    (hallowed : r = .truthy → ∀ value ∈ vs.list "allowed-values", Unbroken value) {s s' : r.State} {fs : List Finding}
    (hs : r.KeepsLegible s) (h : (r.check t w (r.options vs) s).outcome = .ok (s', fs)) :
    (∀ f ∈ fs, Unbroken f.desc ∨ r.OfKey xs f.desc) ∧ r.KeepsLegible s' := by
  have hunbroken : ∀ {fs : List Finding}, AreUnbroken fs → ∀ f ∈ fs, Unbroken f.desc ∨ r.OfKey xs f.desc :=
    fun h f hf => .inl (h f hf)
  cases r with
  | braces =>
    cases h
    refine ⟨hunbroken (FlowCollections.unbroken_check ?_ ?_ _), trivial⟩
    · exact .literal rfl
    · exact .literal rfl
  | brackets =>
    cases h
    refine ⟨hunbroken (FlowCollections.unbroken_check ?_ ?_ _), trivial⟩
    · exact .literal rfl
    · exact .literal rfl
  | colons => cases h; exact ⟨hunbroken (Colons.unbroken_check _), trivial⟩
  | commas => cases h; exact ⟨hunbroken (Commas.unbroken_check _), trivial⟩
  | hyphens => cases h; exact ⟨hunbroken (Hyphens.unbroken_check _), trivial⟩
  | documentStart => cases h; exact ⟨hunbroken (DocumentMark.unbroken_checkStart _), trivial⟩
  | documentEnd => cases h; exact ⟨hunbroken (DocumentMark.unbroken_checkStop _), trivial⟩
  | emptyValues => cases h; exact ⟨hunbroken (EmptyValues.unbroken_check _), trivial⟩
  | truthy =>
    obtain ⟨s, -, h⟩ := Logged.outcome_bind_eq_ok.1 h
    cases h
    exact ⟨hunbroken (Truthy.unbroken_findings (hallowed rfl) _), trivial⟩
  | octalValues => cases h; exact ⟨hunbroken (Octals.unbroken_check hlegible _), trivial⟩
  | floatValues => cases h; exact ⟨hunbroken (Floats.unbroken_check hlegible _), trivial⟩
  | keyDuplicates =>
    have h : KeyDuplicates.check (.ofValues vs) w s = (s', fs) := Except.ok.inj h
    refine ⟨fun f hf => ?_, trivial⟩
    obtain ⟨key, hkey, hdesc⟩ := KeyDuplicates.phrased_check hw (by rw [h]; exact hf)
    exact .inr ⟨key, hkey, .inl ⟨rfl, hdesc⟩⟩
  | anchors =>
    have h : Anchors.check (.ofValues vs) w s = (s', fs) := Except.ok.inj h
    have hcheck := Anchors.unbroken_check hlegible (.ofValues vs) hs
    rw [h] at hcheck
    exact ⟨hunbroken hcheck.1, hcheck.2⟩
  | keyOrdering =>
    refine ⟨fun f hf => ?_, trivial⟩
    obtain ⟨key, hkey, hdesc⟩ := KeyOrdering.phrased_check hw h f hf
    exact .inr ⟨key, hkey, .inr ⟨rfl, hdesc⟩⟩
  | quotedStrings => exact ⟨hunbroken (Quotes.unbroken_check h), trivial⟩
  | indentation =>
    have h : Indentation.check (.ofValues vs) t w s = (s', fs) := Except.ok.inj h
    have hcheck := Indentation.unbroken_check (t := t) (w := w) (.ofValues vs) s
    rw [h] at hcheck
    exact ⟨hunbroken hcheck, trivial⟩

theorem CommentRule.unbroken_check (vs : OptionValues) (c : Comment) (r : CommentRule) :
    AreUnbroken (r.check vs t c) := by
  cases r with
  | comments => exact Comments.unbroken_check _ c
  | commentsIndentation => exact CommentIndentation.unbroken_check c

theorem LineRule.unbroken_check {l : Line} {r : LineRule} {fs : List Finding}
    (h : (r.check vs t l).outcome = .ok fs) : AreUnbroken fs := by
  cases r with
  | trailingSpaces => cases h; exact TrailingSpaces.unbroken_check
  | newLineAtEndOfFile => cases h; exact FinalBreak.unbroken_check
  | newLines => cases h; exact LineBreaks.unbroken_check _
  | lineLength => exact LineLength.unbroken_check h
  | emptyLines => cases h; exact EmptyLines.unbroken_check _

end YamlStyle
