import YamlStyle.Config.Load
import YamlStyle.Proofs.Lint.Strays
import YamlStyle.Proofs.Lint.Tolerance
import YamlStyle.Proofs.Rule.Trips

/-!
# A loaded configuration may still fail

Loading a configuration looks at the types of the options of rules and not at the patterns in them. On a
text that has a tree and whose syntax can be told, a run gives its problems unless one of its rules trips,
and it fails with what the rule trips over (`run_ok_or_trips`).
-/

namespace YamlStyle

variable {t : Text} {xs : List Lexeme}

theorem Window.isOf_of_mem_slide {prev : Option Lexeme} {w : Window} (h : w ∈ slide prev xs) : w.IsOf xs := by
  induction xs generalizing prev with
  | nil => cases h
  | cons x xs ih =>
    rcases List.mem_cons.1 h with rfl | h
    · exact ⟨.head _, fun y hy => .tail _ (List.mem_of_getElem? hy)⟩
    · exact ⟨.tail _ (ih h).curr, fun y hy => .tail _ ((ih h).next y hy)⟩

/-- A window on some lexemes, or a line of a text. -/
def Element.IsOf (t : Text) (xs : List Lexeme) : Element → Prop
  | lexeme w => w.IsOf xs
  | comment _ => True
  | line l => l ∈ Line.ofText t

theorem Element.isOf_of_mem_ofLexemes : ∀ e ∈ ofLexemes t xs, e.IsOf t xs :=
  forall_mem_ofLexemes (fun _ hw => Window.isOf_of_mem_slide hw) (fun _ => trivial) fun _ hl => hl

namespace Lint

variable {rules : List ConfiguredRule}

/-! ## One element -/

/-- What a rule of a run trips over on a text with some lexemes. -/
inductive Trips (t : Text) (xs : List Lexeme) (rules : List ConfiguredRule) : Rule.Failure → Prop
  | lexeme {c : ConfiguredRule} {r : LexemeRule} {e : Rule.Failure} (hc : c ∈ rules) (hr : c.rule = .lexeme r)
      (h : r.Trips xs (r.options c.options) e) : Trips t xs rules e
  | line {c : ConfiguredRule} {r : LineRule} {e : Rule.Failure} (hc : c ∈ rules) (hr : c.rule = .line r)
      (h : r.Trips t c.options e) : Trips t xs rules e

/-- A watch of a run whose state comes from some lexemes. -/
def Watch.Follows (xs : List Lexeme) (rules : List ConfiguredRule) (watch : Watch) : Prop :=
  watch.IsFrom rules ∧ watch.rule.Follows xs watch.state

/-- Watches of a run whose states come from some lexemes. -/
structure Watches.Follows (xs : List Lexeme) (rules : List ConfiguredRule) (ws : Watches) : Prop where
  lexeme : ∀ watch ∈ ws.lexeme, watch.Follows xs rules
  line : ∀ x ∈ ws.line, x.2 ∈ rules ∧ x.2.rule = .line x.1

theorem Watches.follows_ofRules : (ofRules rules).Follows xs rules where
  lexeme watch hw := by
    obtain ⟨c, hc, r, hr, rfl⟩ := mem_lexeme_ofRules hw
    exact ⟨⟨c, hc, r, _, hr, rfl⟩, r.follows_start xs _⟩
  line _ hx := mem_line_ofRules hx

theorem Watch.meets_check (hxs : Lexeme.Directed xs) {w : Window} (hw : w.IsOf xs) {watch : Watch}
    (h : watch.Follows xs rules) :
    (watch.check t w).Meets (fun r => r.1.Follows xs rules ∧ ∀ p ∈ r.2, True) (Trips t xs rules) := by
  obtain ⟨⟨c, hc, r, state, hr, rfl⟩, hstate⟩ := h
  refine ((r.meets_check hxs hw hstate).weaken fun e he => .lexeme hc hr he).bind fun ⟨state', findings⟩ hstate' => ?_
  exact Logged.meets_pure ⟨⟨⟨c, hc, r, state', hr, rfl⟩, hstate'⟩, fun _ _ => trivial⟩

theorem Watches.meets_check (hxs : Lexeme.Directed xs) {e : Element} (he : e.IsOf t xs) {ws : Watches}
    (h : ws.Follows xs rules) :
    (ws.check t e).Meets (fun r => r.1.Follows xs rules ∧ ∀ p ∈ r.2, True) (Trips t xs rules) := by
  cases e with
  | lexeme w =>
    refine (meets_checkLexeme (fun watch hw => Watch.meets_check hxs he hw) h.lexeme).bind fun r ⟨hfollows, _⟩ => ?_
    exact Logged.meets_pure ⟨⟨hfollows, h.line⟩, fun _ _ => trivial⟩
  | comment c => exact Logged.meets_pure ⟨h, fun _ _ => trivial⟩
  | line l =>
    have hcheck : ∀ x ∈ ws.line, (x.1.check x.2.options t l).Meets (fun fs => ∀ f ∈ fs, True) (Trips t xs rules) := by
      intro x hx
      obtain ⟨hc, hr⟩ := h.line x hx
      refine ⟨fun _ _ _ _ => trivial, fun e he' => .line hc hr ((x.1.meets_check he).2 e he')⟩
    exact (meets_checkLine (Q := fun _ => True) hcheck).bind fun ps _ => Logged.meets_pure ⟨h, fun _ _ => trivial⟩

/-! ## A run -/

theorem trips_of_cosmeticProblems (hxs : (Lexeme.ofText t).outcome = .ok xs) {e : Rule.Failure}
    (h : (cosmeticProblems t rules).outcome = .error e) : Trips t xs rules e := by
  have hdirected : Lexeme.Directed xs := fun x hx hk => Lexeme.isDirective_of_ofText hxs hx hk
  have hstart : (Watches.ofRules rules).Follows xs rules := Watches.follows_ofRules
  have hwalk := meets_emissions (t := t) (Q := fun _ _ => True)
    (fun ws hws e he => Watches.meets_check hdirected (Element.isOf_of_mem_ofLexemes e he) hws) hstart
  rcases Logged.outcome_bind_eq_error.1 h with hlexemes | ⟨xs', hlexemes, h⟩
  · obtain ⟨f, hf, -⟩ := Logged.outcome_mapError_eq_error.1 hlexemes
    rw [hxs] at hf
    cases hf
  · obtain rfl : xs = xs' := Except.ok.inj (hxs.symm.trans (Logged.outcome_mapError_eq_ok.1 hlexemes))
    rcases Logged.outcome_bind_eq_error.1 h with hemissions | ⟨_, -, h⟩
    · exact hwalk.2 e hemissions
    · cases h

/-- Over a text that has a tree and whose syntax can be told, a run gives its problems or fails with what
one of its rules trips over. -/
theorem run_ok_or_trips {root : Node} {fault : Option Problem} (hroot : (Tree.build t).root = .ok root)
    (hfault : (syntaxError t).outcome = .ok fault) (asked : Text.Asked) (c : Config) (path : Option String) :
    (∃ ps, (run asked (.text t) c path).outcome = .ok ps) ∨
      ∃ e, (run asked (.text t) c path).outcome = .error (.rule e) ∧
        Trips t (Lexeme.ofTree t root) (c.rulesFor path) e := by
  have hxs := Lexeme.outcome_ofText_eq_ok.2 ⟨root, hroot, rfl⟩
  cases hrun : (run asked (.text t) c path).outcome with
  | ok ps => exact .inl ⟨ps, rfl⟩
  | error f =>
    right
    obtain ⟨e, rfl, he⟩ := run_eq_error hrun
    refine ⟨e, rfl, ?_⟩
    rcases ofText_eq_error he with ⟨f, hf, -⟩ | he
    · rw [hfault] at hf
      cases hf
    · exact trips_of_cosmeticProblems hxs he

/-- A loader of configurations that need no file. -/
def fileless : Config.Loader Id where
  host := ⟨fun _ => .error .missing, fun _ => .error .missing, fun _ => ⟨[], []⟩⟩
  asked := pure none
  bundled := ""

/-- What is loaded without any file. -/
def loaded (content : Text) : Except Config.Failure Config :=
  Logged.outcome (show Logged Config.Failure Config from fileless.load (some content) none)

/-- A configuration with an opening bracket for a pattern. -/
def bracketPattern : Text := "rules:\n  key-ordering:\n    ignored-keys: [\"[\"]\n".toList

def bracketRule : ConfiguredRule := ⟨.lexeme .keyOrdering, .error, [("ignored-keys", .list ["["])], none⟩

def bracketFailure : Rule.Failure := .badPattern "[".toList ⟨.unterminatedSet, some 0⟩

theorem loaded_bracketPattern : ∃ c, loaded bracketPattern = .ok c ∧ c.rulesFor none = [bracketRule] := by
  have hrules : (loaded bracketPattern).toOption.map (·.rulesFor none) = some [bracketRule] := by decide +kernel
  exact exists_of_toOption hrules

theorem build_entry : ∃ root, (Tree.build "a: 1\n".toList).root = .ok root := by
  have hoffset : (Tree.build "a: 1\n".toList).root.toOption.map Node.offset = some 0 := by cbv
  obtain ⟨root, hroot, -⟩ := exists_of_toOption hoffset
  exact ⟨root, hroot⟩

theorem syntaxError_entry : (syntaxError "a: 1\n".toList).outcome = .ok none := by cbv

theorem run_bracketRule {c : Config} (hrules : c.rulesFor none = [bracketRule]) :
    (run (pure none) (.text "a: 1\n".toList) c none).outcome = .error (.rule bracketFailure) := by
  have hdisable : Directive.isDisableFile (firstLine "a: 1\n".toList) = false := by cbv
  have hfails : (cosmeticProblems "a: 1\n".toList [bracketRule]).outcome = .error bracketFailure := by
    rw [outcome_cosmeticProblems_eq_reckoned]
    cbv
  rw [outcome_run rfl hdisable syntaxError_entry, hrules, hfails]
  rfl

/-- The pattern is looked at when the first key is. -/
theorem run_ok_or_trips_of_bracket_pattern :
    ∃ c root, loaded bracketPattern = .ok c ∧ (Tree.build "a: 1\n".toList).root = .ok root ∧
      (syntaxError "a: 1\n".toList).outcome = .ok none ∧
      (run (pure none) (.text "a: 1\n".toList) c none).outcome = .error (.rule bracketFailure) ∧
      Trips "a: 1\n".toList (Lexeme.ofTree "a: 1\n".toList root) (c.rulesFor none) bracketFailure := by
  obtain ⟨c, hc, hrules⟩ := loaded_bracketPattern
  obtain ⟨root, hroot⟩ := build_entry
  have hrun := run_bracketRule hrules
  refine ⟨c, root, hc, hroot, syntaxError_entry, hrun, ?_⟩
  rcases run_ok_or_trips hroot syntaxError_entry (pure none) c none with ⟨ps, hok⟩ | ⟨e, herror, htrips⟩
  · cases hok.symm.trans hrun
  · obtain rfl : e = bracketFailure := Failure.rule.inj (Except.error.inj (herror.symm.trans hrun))
    exact htrips

theorem not_total_of_bracket_pattern :
    ¬∀ content c, loaded content = .ok c → ∀ t, (∃ root, (Tree.build t).root = .ok root) →
      (∃ fault, (syntaxError t).outcome = .ok fault) →
      ∀ asked path, ∃ ps, (run asked (.text t) c path).outcome = .ok ps := by
  intro htotal
  obtain ⟨c, hc, hrules⟩ := loaded_bracketPattern
  obtain ⟨ps, hps⟩ := htotal _ c hc _ build_entry ⟨none, syntaxError_entry⟩ (pure none) none
  cases hps.symm.trans (run_bracketRule hrules)

end Lint

end YamlStyle
