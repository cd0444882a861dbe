import YamlStyle.Proofs.Lint.DisabledLines
import YamlStyle.Proofs.Rule.Pointing

/-!
# Problems point into the text

Under rules with limits of -1 or more, and none below zero on the length of lines, each problem of a text
is on one of its lines, at one of the columns of that line or right after them. This holds of malformed
texts too, and of what has been emitted before a rule fails (`cosmeticProblems_pointInto`).
-/

namespace YamlStyle

/-- A rule whose limits are -1 or more; the length of lines cannot do without one. -/
structure ConfiguredRule.IsLimited (c : ConfiguredRule) : Prop where
  options : c.options.IsLimited
  length : c.rule = .line .lineLength → ∀ n, ("max", .int n) ∈ c.options → 0 ≤ n

namespace Lint

variable {t : Text} {rules : List ConfiguredRule}

/-! ## One element -/

/-- A watch of a run that keeps only what points into the text. -/
def Watch.KeepsIn (t : Text) (rules : List ConfiguredRule) (watch : Watch) : Prop :=
  watch.IsFrom rules ∧ watch.rule.KeepsIn t watch.state

/-- Watches of a run that keep only what points into the text. -/
structure Watches.KeepIn (t : Text) (rules : List ConfiguredRule) (ws : Watches) : Prop where
  lexeme : ∀ watch ∈ ws.lexeme, watch.KeepsIn t rules
  line : ∀ x ∈ ws.line, x.2 ∈ rules ∧ x.2.rule = .line x.1

theorem Watches.keepIn_ofRules : (ofRules rules).KeepIn t rules where
  lexeme watch hw := by
    obtain ⟨c, hc, r, hr, rfl⟩ := mem_lexeme_ofRules hw
    exact ⟨⟨c, hc, r, _, hr, rfl⟩, r.keepsIn_start t _⟩
  line _ hx := mem_line_ofRules hx

theorem Watch.pointInto_check (hrules : ∀ c ∈ rules, c.IsLimited) {w : Window} (hw : w.IsIn t) {watch : Watch}
    (h : watch.KeepsIn t rules) : (watch.check t w).Meets
      (fun r => r.1.KeepsIn t rules ∧ ∀ p ∈ r.2, t.IsPlace p.line p.column) fun _ => True := by
  refine Logged.meets_of_ok fun result hresult => ?_
  obtain ⟨⟨c, hc, r, state, hr, rfl⟩, hstate⟩ := h
  obtain ⟨⟨state', findings⟩, hcheck, hresult⟩ := Logged.outcome_bind_eq_ok.1 hresult
  cases hresult
  obtain ⟨hpoint, hstate'⟩ := r.pointInto_check hw (hrules c hc).options hstate hcheck
  refine ⟨⟨⟨c, hc, r, state', hr, rfl⟩, hstate'⟩, fun p hp => ?_⟩
  obtain ⟨f, hf, rfl⟩ := List.mem_map.1 hp
  exact hpoint f hf

theorem Watches.pointInto_check (hrules : ∀ c ∈ rules, c.IsLimited) {e : Element} (he : e.IsIn t) {ws : Watches}
    (h : ws.KeepIn t rules) : (ws.check t e).Meets
      (fun r => r.1.KeepIn t rules ∧ ∀ p ∈ r.2, t.IsPlace p.line p.column) fun _ => True := by
  cases e with
  | lexeme w =>
    have hcheck := meets_checkLexeme (fun watch hw => Watch.pointInto_check hrules he hw) h.lexeme
    refine hcheck.bind fun r ⟨hkeep, hpoint⟩ => ?_
    exact Logged.meets_pure ⟨⟨hkeep, h.line⟩, hpoint⟩
  | comment c =>
    refine Logged.meets_pure ⟨h, fun p hp => ?_⟩
    obtain ⟨⟨r, configured⟩, -, hp⟩ := List.mem_flatMap.1 hp
    obtain ⟨f, hf, rfl⟩ := List.mem_map.1 hp
    exact CommentRule.pointInto_check he _ r f hf
  | line l =>
    have hcheck : ∀ x ∈ ws.line, (x.1.check x.2.options t l).Meets (fun fs => ∀ f ∈ fs,
        t.IsPlace (stamp x.1.name x.2.level f).line (stamp x.1.name x.2.level f).column) fun _ => True := by
      intro x hx
      obtain ⟨hmem, hrule⟩ := h.line x hx
      refine Logged.meets_of_ok fun fs hfs => LineRule.pointInto_check he (fun hlength => ?_) hfs
      exact OptionValues.le_int (Int.le_refl 0) ((hrules x.2 hmem).length (by rw [hrule, hlength]))
    have hwatch := meets_checkLine (Q := fun p => t.IsPlace p.line p.column) hcheck
    exact hwatch.bind fun ps hps => Logged.meets_pure ⟨h, hps⟩

/-! ## A text -/

/-- Whatever elements of a text are shown to rules, what these emit points into the text. -/
theorem isPlace_of_emissions (hrules : ∀ c ∈ rules, c.IsLimited) {es : List Element} (hes : ∀ e ∈ es, e.IsIn t)
    {emitted : List (Element × List Problem)} (h : (emissions t (.ofRules rules) es).outcome = .ok emitted) :
    ∀ x ∈ emitted, ∀ p ∈ x.2, t.IsPlace p.line p.column := by
  have hwalk := meets_emissions (t := t) (Q := fun _ p => t.IsPlace p.line p.column)
    (fun ws hws e he => Watches.pointInto_check hrules (hes e he) hws) Watches.keepIn_ofRules
  exact (hwalk.1 emitted h).2

/-- All problems of a text are at places of it, and so is all that is emitted up to any element, whether
or not a rule fails later. -/
theorem cosmeticProblems_pointInto (t : Text) (c : Config) (path : Option String)
    (hc : ∀ r ∈ c.rulesFor path, r.IsLimited) :
    (∀ ps, (cosmeticProblems t (c.rulesFor path)).outcome = .ok ps → ∀ p ∈ ps, t.IsPlace p.line p.column) ∧
      ∀ xs es emitted, (Lexeme.ofText t).outcome = .ok xs → es <+: Element.ofLexemes t xs →
        (emissions t (.ofRules (c.rulesFor path)) es).outcome = .ok emitted →
        ∀ x ∈ emitted, ∀ p ∈ x.2, t.IsPlace p.line p.column := by
  have hemits : ∀ xs es emitted, (Lexeme.ofText t).outcome = .ok xs → es <+: Element.ofLexemes t xs →
      (emissions t (.ofRules (c.rulesFor path)) es).outcome = .ok emitted →
      ∀ x ∈ emitted, ∀ p ∈ x.2, t.IsPlace p.line p.column := by
    intro xs es emitted hxs hes hemitted
    have hin := Element.isIn_of_mem_ofLexemes (fun x hx => Lexeme.isIn_of_ofText hxs hx)
    exact isPlace_of_emissions hc (fun e he => hin e (hes.subset he)) hemitted
  refine ⟨fun ps hps p hp => ?_, hemits⟩
  obtain ⟨emitted, hemitted, hperm⟩ := perm_of_cosmeticProblems hps
  obtain ⟨xs, hxs, hwalk⟩ := emissionsOn_eq_ok.1 hemitted
  obtain ⟨x, hx, hmem, -⟩ := mem_unsilenced (hperm.mem_iff.1 hp)
  exact hemits xs _ emitted hxs List.prefix_rfl hwalk x hx p hmem

theorem isLimited_strayingRules : ∀ r ∈ strayingRules.rulesFor none, r.IsLimited := by
  intro r hr
  have hr : r ∈ strayingRules.rules.filterMap (·.2) := List.mem_of_mem_filter hr
  obtain rfl | rfl | rfl : _ ∨ _ ∨ _ := by simpa [strayingRules] using hr
  · exact ⟨by simp [OptionValues.IsLimited], by simp⟩
  · exact ⟨by simp [OptionValues.IsLimited], by simp⟩
  · refine ⟨fun name n hn => ?_, fun _ n hn => ?_⟩
    · have hn : name = "max" ∧ n = 0 := by simpa using hn
      omega
    · have hn : n = 0 := by simpa using hn
      omega

/-- The line after a limit of zero, the line before the end of the text, and a later line of a scalar. -/
theorem cosmeticProblems_pointInto_of_two_line_scalar :
    (∀ r ∈ strayingRules.rulesFor none, r.IsLimited) ∧
      (cosmeticProblems twoLineScalar (strayingRules.rulesFor none)).outcome = .ok scalarProblems ∧
      ∀ p ∈ scalarProblems, twoLineScalar.IsPlace p.line p.column :=
  ⟨isLimited_strayingRules, cosmeticProblems_twoLineScalar,
    (cosmeticProblems_pointInto twoLineScalar strayingRules none isLimited_strayingRules).1 _
      cosmeticProblems_twoLineScalar⟩

end Lint

end YamlStyle
