import YamlStyle.Proofs.Lint.Independence
import YamlStyle.Proofs.Yaml.EventHazards

/-!
# What a text can do to a run

A text of any form has a tree, lexemes and at most one fault of syntax, unless a value that no text
may carry stands in it. Without rules a run has no other failure, and its only problem is the fault of
syntax (`run_tolerant`).
-/

namespace YamlStyle

open Yaml (Hazard TokenHazard)

variable {t : Text} {f : Yaml.Failure}

namespace Lint

/-! ## The fault of syntax -/

/-- An error of the text has a summary, so it is a problem and no failure. -/
theorem hazard_of_stops (h : Yaml.Stops t f) (hsummary : f.summary? t = none) : Hazard t f := by
  rcases h with hform | hhazard
  · cases f with
    | unprintable c offset => cases hsummary
    | fault f => obtain ⟨_, _, _ | _, _⟩ := f <;> cases hsummary
    | _ => exact hform.elim
  · exact hhazard

theorem hazard_of_syntaxError (h : (syntaxError t).outcome = .error f) : Hazard t f := by
  unfold syntaxError at h
  split at h
  · cases h
  · next f' hf =>
    split at h
    · next hsummary =>
      cases h
      exact hazard_of_stops (Yaml.stops_of_ofText hf) hsummary
    · cases h

theorem outcome_syntaxError {summary : String} (h : (Yaml.EventStream.ofText t).failure = some f)
    (hsummary : f.summary? t = some summary) : (syntaxError t).outcome = .ok (some (syntaxProblem f summary)) := by
  unfold syntaxError
  rw [h]
  dsimp only
  rw [hsummary]
  rfl

/-! ## Runs without rules -/

theorem cosmeticProblems_nil_of_ok {ps : List Problem} (h : (cosmeticProblems t []).outcome = .ok ps) : ps = [] := by
  refine List.eq_nil_iff_forall_not_mem.2 fun p hp => ?_
  obtain ⟨rule, hr, -⟩ := signed_of_cosmeticProblems h p hp
  cases hr

theorem cosmeticProblems_nil_of_error {e : Rule.Failure} (h : (cosmeticProblems t []).outcome = .error e) :
    ∃ f, (Lexeme.ofText t).outcome = .error f ∧ e = .unreadable t f := by
  rcases Logged.outcome_bind_eq_error.1 h with ht | ⟨xs, -, h⟩
  · obtain ⟨f, hf, rfl⟩ := Logged.outcome_mapError_eq_error.1 ht
    exact ⟨f, hf, rfl⟩
  · rcases Logged.outcome_bind_eq_error.1 h with he | ⟨_, -, h⟩
    · -- Only a rule can fail over lexemes.
      obtain ⟨rule, hr, -⟩ := (restricts_emissions (Watches.named_ofRules [])).error he
      cases hr
    · cases h

theorem ofText_nil_of_ok {c : Config} {path : Option String} {ps : List Problem} (hrules : c.rulesFor path = [])
    (h : (ofText t c path).outcome = .ok ps) :
    ps = [] ∧ Directive.isDisableFile (firstLine t) = true ∨
      ∃ fault, (syntaxError t).outcome = .ok fault ∧ ps = fault.toList := by
  unfold ofText at h
  split at h
  · next hdisable =>
    cases h
    exact .inl ⟨rfl, hdisable⟩
  · obtain ⟨fault, hfault, h⟩ := Logged.outcome_bind_eq_ok.1 h
    rw [hrules] at h
    obtain ⟨found, hfound, h⟩ := Logged.outcome_bind_eq_ok.1 h
    obtain rfl := cosmeticProblems_nil_of_ok hfound
    cases h
    exact .inr ⟨fault, Logged.outcome_mapError_eq_ok.1 hfault, rfl⟩

theorem ofText_nil_of_error {c : Config} {path : Option String} {e : Rule.Failure} (hrules : c.rulesFor path = [])
    (h : (ofText t c path).outcome = .error e) : ∃ f, e = .unreadable t f ∧ Hazard t f := by
  rcases ofText_eq_error h with ⟨f, hf, rfl⟩ | h
  · exact ⟨f, rfl, hazard_of_syntaxError hf⟩
  · rw [hrules] at h
    obtain ⟨f, hf, rfl⟩ := cosmeticProblems_nil_of_error h
    exact ⟨f, rfl, .ofToken (Tree.hazard_of_build (Lexeme.outcome_ofText_eq_error.1 hf))⟩

/-- A text of any form has a tree, lexemes and at most one fault of syntax, which is the only problem
of a run without rules, unless a value that no text may carry stands in the text. -/
theorem run_tolerant (t : Text) :
    (∀ f, (Tree.build t).root = .error f → TokenHazard t f) ∧
    (∀ f, (Lexeme.ofText t).outcome = .error f → TokenHazard t f) ∧
    (∀ f, (syntaxError t).outcome = .error f → Hazard t f) ∧
    ∀ asked c path, c.rulesFor path = [] →
      (∀ e, (run asked (.text t) c path).outcome = .error e → ∃ f, e = .rule (.unreadable t f) ∧ Hazard t f) ∧
      ∀ ps, (run asked (.text t) c path).outcome = .ok ps →
        ps = [] ∧ (path.any c.isIgnored = true ∨ Directive.isDisableFile (firstLine t) = true) ∨
          ∃ fault, (syntaxError t).outcome = .ok fault ∧ ps = fault.toList := by
  refine ⟨fun _ => Tree.hazard_of_build, fun _ h => Tree.hazard_of_build (Lexeme.outcome_ofText_eq_error.1 h),
    fun _ => hazard_of_syntaxError, fun asked c path hrules => ⟨fun e h => ?_, fun ps h => ?_⟩⟩
  · obtain ⟨e, rfl, he⟩ := run_eq_error h
    obtain ⟨f, rfl, hhazard⟩ := ofText_nil_of_error hrules he
    exact ⟨f, rfl, hhazard⟩
  · unfold run at h
    split at h
    · next hignored =>
      cases h
      exact .inl ⟨rfl, .inl hignored⟩
    · rcases ofText_nil_of_ok hrules (Logged.outcome_mapError_eq_ok.1 h) with ⟨hps, hdisable⟩ | hfault
      · exact .inl ⟨hps, .inr hdisable⟩
      · exact .inr hfault

/-- The fault of a sequence that is left open. -/
def leftOpen : Yaml.Failure :=
  .fault ⟨some .flowSequence, some ⟨0, 0, 0⟩, some (.expectedInSequence .streamEnd), some ⟨0, 2, 2⟩⟩

def leftOpenProblem : Problem := syntaxProblem leftOpen (Yaml.Cause.expectedInSequence .streamEnd).phrase

theorem syntaxError_leftOpen : (syntaxError "[a".toList).outcome = .ok (some leftOpenProblem) := by
  have hfailure : (Yaml.EventStream.ofText "[a".toList).failure = some leftOpen := by cbv
  exact outcome_syntaxError hfailure rfl

theorem cosmeticProblems_leftOpen : (cosmeticProblems "[a".toList []).outcome = .ok [] := by
  rw [outcome_cosmeticProblems_eq_reckoned]
  cbv

theorem run_leftOpen : (run (pure none) (.text "[a".toList) .nothing none).outcome = .ok [leftOpenProblem] := by
  have hdisable : Directive.isDisableFile (firstLine "[a".toList) = false := by cbv
  have hps : (cosmeticProblems "[a".toList (Config.nothing.rulesFor none)).outcome = .ok [] :=
    cosmeticProblems_leftOpen
  rw [outcome_run rfl hdisable syntaxError_leftOpen, hps]
  rfl

theorem run_tolerant_of_open_sequence :
    Config.nothing.rulesFor none = [] ∧
      (run (pure none) (.text "[a".toList) .nothing none).outcome = .ok [leftOpenProblem] ∧
      ∃ fault, (syntaxError "[a".toList).outcome = .ok fault ∧ [leftOpenProblem] = fault.toList := by
  refine ⟨rfl, run_leftOpen, ?_⟩
  obtain ⟨-, -, -, h⟩ := run_tolerant "[a".toList
  rcases (h (pure none) .nothing none rfl).2 _ run_leftOpen with ⟨hempty, -⟩ | hfault
  · exact absurd hempty (List.cons_ne_nil _ _)
  · exact hfault

/-- The escape for the code point after the last one. -/
theorem not_tolerant_of_long_escape :
    (Tree.build "\"\\U00110000\"".toList).root = .error .escapeBeyondUnicode ∧
      (Lexeme.ofText "\"\\U00110000\"".toList).outcome = .error .escapeBeyondUnicode ∧
      (syntaxError "\"\\U00110000\"".toList).outcome = .error .escapeBeyondUnicode := by
  have hreckoned : Lexeme.reckoned "\"\\U00110000\"".toList = .error .escapeBeyondUnicode := by decide +kernel
  refine ⟨?_, (Lexeme.outcome_ofText_eq_reckoned _).trans hreckoned, by decide +kernel⟩
  rw [Lexeme.reckoned] at hreckoned
  generalize (Tree.build "\"\\U00110000\"".toList).root = root at hreckoned ⊢
  cases root with
  | error f =>
    cases hreckoned
    rfl
  | ok root => cases hreckoned

end Lint

end YamlStyle
