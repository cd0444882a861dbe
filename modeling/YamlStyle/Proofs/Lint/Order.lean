import YamlStyle.Proofs.Lint.Release
import YamlStyle.Proofs.Lint.Strays

/-!
# Problems come in the order of the text

Each rule reports in time for release, which waits for one line, but for anchors without an alias
(`line_le_of_emissionsOn`). Where these are not looked for, what is given out is the stable sort of
all problems that directives leave (`cosmeticProblems_eq_sort`). Where they are, no other problem is
given out after one further down (`problems_sorted`).
-/

namespace YamlStyle

namespace Lint

open Rule

variable {t : Text} {rules : List ConfiguredRule}

/-! ## Where problems are -/

/-- A report of an anchor without an alias, by a rule of the run that looks for them. -/
def IsUnusedAnchor (rules : List ConfiguredRule) (p : Problem) : Prop :=
  ∃ r ∈ rules, r.rule = .lexeme .anchors ∧ (Anchors.Options.ofValues r.options).forbidUnused = true ∧
    p.rule = some "anchors" ∧ ∃ name : String, p.desc = s!"found unused anchor \"{name}\""

theorem isUnusedAnchor_stamp {c : ConfiguredRule} {r : LexemeRule} {f : Finding} (hc : c ∈ rules)
    (hr : c.rule = .lexeme r) (h : r.KeepsBack (r.options c.options) f) :
    IsUnusedAnchor rules (stamp r.name c.level f) := by
  cases r with
  | anchors => exact ⟨c, hc, hr, h.1, rfl, h.2⟩
  | _ => cases h

/-- What strays from an element is on the line before it or further down, or is an anchor without an
alias. -/
theorem IsStray.line_le {e : Element} {p : Problem} (he : e.IsPlaced) (h : IsStray rules e p) :
    (e.lineNumber : Int) ≤ p.line + 1 ∨ IsUnusedAnchor rules p := by
  obtain ⟨c, hc, r, w, f, hr, rfl, hstray, rfl⟩ := h
  rcases hstray.line_le he with hline | hback
  · left
    simp only [Element.lineNumber, stamp]
    omega
  · exact .inr (isUnusedAnchor_stamp hc hr hback)

/-! ## Problems given out -/

theorem line_le_of_emissionsOn {emitted : List (Element × List Problem)}
    (h : (emissionsOn t rules).outcome = .ok emitted) :
    ∀ x ∈ emitted, ∀ p ∈ x.2, (x.1.lineNumber : Int) ≤ p.line + 1 ∨ IsUnusedAnchor rules p := by
  intro x hx p hp
  obtain ⟨hplaced, hline⟩ := line_of_emissionsOn h x hx
  rcases hline p hp with hline | hstray
  · left
    omega
  · exact hstray.line_le hplaced

/-- What rules emit on a text comes page by page. -/
theorem paged_of_emissionsOn {emitted : List (Element × List Problem)}
    (h : (emissionsOn t rules).outcome = .ok emitted) : Element.Paged 1 (emitted.map (·.1)) := by
  obtain ⟨xs, hxs, h⟩ := emissionsOn_eq_ok.1 h
  rw [(emissions_signed (Watches.named_ofRules rules) h).1]
  exact paged_of_ofText hxs

theorem timely_of_emissionsOn {emitted : List (Element × List Problem)} (all : List String)
    (h : (emissionsOn t rules).outcome = .ok emitted) :
    Timely (IsUnusedAnchor rules) (sift t all .start emitted) :=
  (timely_sift (paged_of_emissionsOn h) (by simp [Sieve.start]) (line_le_of_emissionsOn h)).1

/-- What the sieve leaves of the problems on a text are the unsilenced ones, in their order. -/
theorem flatMap_sift_of_emissionsOn {emitted : List (Element × List Problem)}
    (h : (emissionsOn t rules).outcome = .ok emitted) :
    (sift t (rules.map (·.rule.name)) .start emitted).flatMap (·.2) =
      unsilenced t (Element.comments (emitted.map (·.1))) emitted := by
  obtain ⟨xs, hxs, he⟩ := emissionsOn_eq_ok.1 h
  have hsigned := (emissions_signed (Watches.named_ofRules rules) he).2
  exact sift_paged (paged_of_emissionsOn h) (follows_start t _ 1) signed_nil hsigned (fun _ => rfl) rfl

/-- Rules for the ends of documents and of lines, with or without anchors that have no alias. -/
def endRules (unused : Bool) : Config := { Config.nothing with rules := [
  ("anchors", some ⟨.lexeme .anchors, .error, [("forbid-undeclared-aliases", .bool true),
    ("forbid-duplicated-anchors", .bool false), ("forbid-unused-anchors", .bool unused)], none⟩),
  ("document-end", some ⟨.lexeme .documentEnd, .error, [("present", .bool true)], none⟩),
  ("trailing-spaces", some ⟨.line .trailingSpaces, .error, [], none⟩)] }

/-- Unless anchors without an alias are looked for, every problem is on the line before that of its
element or further down, and what is given out is the stable sort of the problems that directives
leave, in the order in which they are emitted. -/
theorem cosmeticProblems_eq_sort (t : Text) (c : Config) (path : Option String)
    (h : ∀ r ∈ c.rulesFor path, r.rule = .lexeme .anchors →
      (Anchors.Options.ofValues r.options).forbidUnused = false) :
    ((cosmeticProblems t (c.rulesFor path)).outcome = (emissionsOn t (c.rulesFor path)).outcome.map fun emitted =>
      Problem.sort (unsilenced t (Element.comments (emitted.map (·.1))) emitted)) ∧
    ∀ emitted, (emissionsOn t (c.rulesFor path)).outcome = .ok emitted →
      ∀ x ∈ emitted, ∀ p ∈ x.2, (x.1.lineNumber : Int) - 1 ≤ p.line := by
  have hnone : ∀ p, ¬IsUnusedAnchor (c.rulesFor path) p := by
    rintro p ⟨r, hr, hrule, hon, -⟩
    rw [h r hr hrule] at hon
    cases hon
  constructor
  · rw [outcome_cosmeticProblems]
    cases he : (emissionsOn t (c.rulesFor path)).outcome with
    | error e => rfl
    | ok emitted =>
      have ht := timely_of_emissionsOn ((c.rulesFor path).map (·.rule.name)) he
      have ht' : Timely (fun _ => False) (sift t ((c.rulesFor path).map (·.rule.name)) .start emitted) :=
        ⟨ht.numbers, fun x hx p hp => (ht.lines x hx p hp).imp_right (hnone p)⟩
      simp only [Except.map]
      rw [release_eq_sort ht', flatMap_sift_of_emissionsOn he]
  · intro emitted he x hx p hp
    rcases line_le_of_emissionsOn he x hx p hp with hline | hunused
    · omega
    · exact absurd hunused (hnone p)

/-- The end that a document misses is found after the space at the end of its last line, and is
given out before it. -/
theorem cosmeticProblems_eq_sort_of_document_end :
    (∀ r ∈ (endRules false).rulesFor none, r.rule = .lexeme .anchors →
      (Anchors.Options.ofValues r.options).forbidUnused = false) ∧
    (cosmeticProblems "a: 1\nb: 2 \n".toList ((endRules false).rulesFor none)).outcome.toOption.map
      (·.map fun p => (p.line, p.column)) = some [(2, 1), (2, 5)] := by
  have hoff : ∀ r ∈ (endRules false).rulesFor none, r.rule = .lexeme .anchors →
      (Anchors.Options.ofValues r.options).forbidUnused = false := by decide +kernel
  refine ⟨hoff, ?_⟩
  rw [(cosmeticProblems_eq_sort _ _ none hoff).1, outcome_emissionsOn_eq_reckoned]
  simp only [sort_eq_reckonedSort]
  decide +kernel

/-! ## The fault of syntax among problems -/

theorem mem_splice {fault : Option Problem} {p : Problem} {ps : List Problem} (h : p ∈ splice fault ps) :
    fault = some p ∨ p ∈ ps := by
  induction ps with
  | nil => exact .inl (Option.mem_toList.1 h)
  | cons q ps ih =>
    cases fault with
    | none => exact .inr h
    | some f =>
      rw [splice_cons] at h
      split at h
      · rcases List.mem_cons.1 h with rfl | h
        · exact .inr (.head _)
        · exact (ih h).imp_right (.tail _)
      · split at h
        · rcases List.mem_cons.1 h with rfl | h
          · exact .inl rfl
          · exact .inr (.tail _ h)
        · rcases List.mem_cons.1 h with rfl | h
          · exact .inl rfl
          · exact .inr h

/-- The fault of syntax is put in its place. -/
theorem splice_sorted {late : Problem → Prop} {ps : List Problem}
    (h : ps.Pairwise fun p q => q.isBefore p = true → late q) (fault : Option Problem) :
    (splice fault ps).Pairwise fun p q => q.isBefore p = true → late q := by
  induction ps with
  | nil =>
    cases fault with
    | none => exact .nil
    | some f => exact List.pairwise_singleton _ f
  | cons p ps ih =>
    cases fault with
    | none => exact h
    | some f =>
      rw [splice_cons]
      split
      · next hbefore =>
        refine .cons (fun q hq hqp => ?_) (ih h.of_cons)
        rcases mem_splice hq with hf | hq
        · cases hf
          rw [Problem.isBefore_iff] at hbefore hqp
          omega
        · exact List.rel_of_pairwise_cons h hq hqp
      · next hafter =>
        -- What comes after the fault and before its place also comes after `p` and before that.
        have hrest : ∀ q ∈ ps, q.isBefore f = true → late q := by
          intro q hq hqf
          refine List.rel_of_pairwise_cons h hq ?_
          rw [Problem.isBefore_iff] at hafter hqf ⊢
          omega
        split
        · exact .cons hrest h.of_cons
        · refine .cons (fun q hq hqf => ?_) h
          rcases List.mem_cons.1 hq with rfl | hq
          · exact absurd hqf hafter
          · exact hrest q hq hqf

theorem cosmeticProblems_sorted {ps : List Problem} (h : (cosmeticProblems t rules).outcome = .ok ps) :
    ps.Pairwise fun p q => q.isBefore p = true → IsUnusedAnchor rules q := by
  rw [outcome_cosmeticProblems] at h
  cases he : (emissionsOn t rules).outcome with
  | error e => rw [he] at h; cases h
  | ok emitted =>
    rw [he] at h
    cases h
    exact release_sorted (timely_of_emissionsOn _ he) []

theorem ofText_sorted {c : Config} {path : Option String} {ps : List Problem}
    (h : (ofText t c path).outcome = .ok ps) :
    ps.Pairwise fun p q => q.isBefore p = true → IsUnusedAnchor (c.rulesFor path) q := by
  unfold ofText at h
  split at h
  · obtain ⟨-, -, h⟩ := Logged.outcome_bind_eq_ok.1 h
    cases h
    exact .nil
  · obtain ⟨fault, -, h⟩ := Logged.outcome_bind_eq_ok.1 h
    obtain ⟨found, hfound, h⟩ := Logged.outcome_bind_eq_ok.1 h
    cases h
    exact splice_sorted (cosmeticProblems_sorted hfound) fault

/-- No problem of the rules and none of a whole run is given out after one further down, but for
anchors without an alias, where these are looked for. -/
theorem problems_sorted (c : Config) (path : Option String) :
    (∀ t ps, (cosmeticProblems t (c.rulesFor path)).outcome = .ok ps →
      ps.Pairwise fun p q => q.isBefore p = true → IsUnusedAnchor (c.rulesFor path) q) ∧
    ∀ asked input ps, (run asked input c path).outcome = .ok ps →
      ps.Pairwise fun p q => q.isBefore p = true → IsUnusedAnchor (c.rulesFor path) q := by
  refine ⟨fun t ps h => cosmeticProblems_sorted h, fun asked input ps h => ?_⟩
  unfold run at h
  split at h
  · obtain ⟨-, -, h⟩ := Logged.outcome_bind_eq_ok.1 h
    cases h
    exact .nil
  · obtain ⟨t, -, h⟩ := Logged.outcome_bind_eq_ok.1 h
    obtain ⟨-, -, h⟩ := Logged.outcome_bind_eq_ok.1 h
    exact ofText_sorted (Logged.outcome_mapError_eq_ok.1 h)

/-- An anchor without an alias is found at the end of the document, two lines too late. -/
def unusedAtEnd : List Problem := [
  ⟨2, 5, "trailing spaces", some "trailing-spaces", some .error⟩,
  ⟨1, 4, "found unused anchor \"x\"", some "anchors", some .error⟩,
  ⟨3, 1, "missing document end \"...\"", some "document-end", some .error⟩]

theorem cosmeticProblems_unusedAtEnd :
    (cosmeticProblems "a: &x 1\nb: 2 \nc: 3\n".toList ((endRules true).rulesFor none)).outcome =
      .ok unusedAtEnd := by
  rw [outcome_cosmeticProblems_eq_reckoned]
  decide +kernel

theorem run_unusedAtEnd :
    (run (pure none) (.text "a: &x 1\nb: 2 \nc: 3\n".toList) (endRules true) none).outcome = .ok unusedAtEnd := by
  have hdisable : Directive.isDisableFile (firstLine "a: &x 1\nb: 2 \nc: 3\n".toList) = false := by cbv
  have hfault : (syntaxError "a: &x 1\nb: 2 \nc: 3\n".toList).outcome = .ok none := by cbv
  rw [outcome_run rfl hdisable hfault, cosmeticProblems_unusedAtEnd]
  rfl

theorem problems_sorted_of_unused_anchor :
    (cosmeticProblems "a: &x 1\nb: 2 \nc: 3\n".toList ((endRules true).rulesFor none)).outcome = .ok unusedAtEnd ∧
      (run (pure none) (.text "a: &x 1\nb: 2 \nc: 3\n".toList) (endRules true) none).outcome = .ok unusedAtEnd ∧
      unusedAtEnd.Pairwise fun p q => q.isBefore p = true → IsUnusedAnchor ((endRules true).rulesFor none) q := by
  obtain ⟨-, hrun⟩ := problems_sorted (endRules true) none
  exact ⟨cosmeticProblems_unusedAtEnd, run_unusedAtEnd, hrun _ _ _ run_unusedAtEnd⟩

/-- The anchor stands on the first line and comes after the space on the second. -/
theorem not_sorted_of_unused_anchor :
    ∃ ps, (cosmeticProblems "a: &x 1\nb: 2 \nc: 3\n".toList ((endRules true).rulesFor none)).outcome = .ok ps ∧
      (run (pure none) (.text "a: &x 1\nb: 2 \nc: 3\n".toList) (endRules true) none).outcome = .ok ps ∧
      ¬Problem.Sorted ps :=
  ⟨unusedAtEnd, cosmeticProblems_unusedAtEnd, run_unusedAtEnd, by decide⟩

end Lint

end YamlStyle
