import YamlStyle.Proofs.Config.Accepted
import YamlStyle.Proofs.Lint.Echo
import YamlStyle.Proofs.Lint.Pointing
import YamlStyle.Proofs.Lint.Trips
import YamlStyle.Proofs.Report
import YamlStyle.Proofs.Rule.Phrasing

/-!
# What a run says

Under a loaded configuration a run tells its problems in one line, but for two kinds: a fault of syntax
that is told by its whole report, and a key with a line feed in it. A report for programs has a line for
each problem if and only if none of these is shown (`run_printed_iff`).
-/

namespace YamlStyle.Lint

open Rule

variable {t : Text} {xs : List Lexeme} {rules : List ConfiguredRule} {p : Problem}

/-! ## The fault of syntax -/

/-- A fault of syntax that is told by its whole report. -/
def IsReported (t : Text) (p : Problem) : Prop :=
  (syntaxError t).outcome = .ok (some p) ∧ ∃ f, (Yaml.EventStream.ofText t).failure = some f ∧ f.HasReportOnly

theorem eq_of_syntaxError (h : (syntaxError t).outcome = .ok (some p)) :
    ∃ f summary, (Yaml.EventStream.ofText t).failure = some f ∧ f.summary? t = some summary ∧
      p = syntaxProblem f summary := by
  unfold syntaxError at h
  split at h
  · cases h
  · next f hf =>
    split at h
    · cases h
    · next summary hsummary =>
      cases h
      exact ⟨f, summary, hf, hsummary, rfl⟩

theorem unbroken_syntaxError_iff (h : (syntaxError t).outcome = .ok (some p)) :
    Unbroken p.desc ↔ ¬IsReported t p := by
  obtain ⟨f, summary, hf, hsummary, rfl⟩ := eq_of_syntaxError h
  have hform : f.IsOfForm := by
    rcases Yaml.stops_of_ofText hf with hform | hhazard
    · exact hform
    · have hnone : f.summary? t = none := by
        rcases hhazard with ⟨⟨⟩⟩ | _ | _ | _ <;> rfl
      cases hsummary.symm.trans hnone
  have hdesc : Unbroken (syntaxProblem f summary).desc ↔ Unbroken summary := by
    have hhead : Unbroken "syntax error: " := .literal rfl
    have htail : Unbroken " (syntax)" := .literal rfl
    simp [syntaxProblem, hhead, htail]
  rw [hdesc, hform.unbroken_iff hsummary, not_iff_not]
  refine ⟨fun hreport => ⟨h, f, hf, hreport⟩, fun ⟨_, f', hf', hreport⟩ => ?_⟩
  cases hf.symm.trans hf'
  exact hreport

/-! ## Keys -/

/-- A problem with a key that has a line feed in it. -/
def NamesBrokenKey (t : Text) (p : Problem) : Prop :=
  ∃ xs key, (Lexeme.ofText t).outcome = .ok xs ∧ IsScalarOf xs key ∧ ¬Unbroken key ∧
    (p.rule = some "key-duplicates" ∧ p.desc = KeyDuplicates.desc key ∨
      p.rule = some "key-ordering" ∧ p.desc = KeyOrdering.desc key)

theorem NamesBrokenKey.not_unbroken (h : NamesBrokenKey t p) : ¬Unbroken p.desc := by
  obtain ⟨_, key, _, _, hkey, ⟨_, hdesc⟩ | ⟨_, hdesc⟩⟩ := h
  · rwa [hdesc, KeyDuplicates.unbroken_desc]
  · rwa [hdesc, KeyOrdering.unbroken_desc]

/-! ## One element -/

/-- A problem that is told in one line, or that a rule has with a key. -/
def IsPhrased (xs : List Lexeme) (p : Problem) : Prop :=
  Unbroken p.desc ∨ ∃ r : LexemeRule, p.rule = some r.name ∧ r.OfKey xs p.desc

theorem IsPhrased.namesBrokenKey (hxs : (Lexeme.ofText t).outcome = .ok xs) (h : IsPhrased xs p)
    (hbroken : ¬Unbroken p.desc) : NamesBrokenKey t p := by
  rcases h with h | ⟨r, hrule, key, hkey, ⟨rfl, hdesc⟩ | ⟨rfl, hdesc⟩⟩
  · exact absurd h hbroken
  · rw [hdesc, KeyDuplicates.unbroken_desc] at hbroken
    exact ⟨xs, key, hxs, hkey, hbroken, .inl ⟨hrule, hdesc⟩⟩
  · rw [hdesc, KeyOrdering.unbroken_desc] at hbroken
    exact ⟨xs, key, hxs, hkey, hbroken, .inr ⟨hrule, hdesc⟩⟩

/-- A watch of a run that keeps only what is told in one line. -/
def Watch.KeepsLegible (rules : List ConfiguredRule) (watch : Watch) : Prop :=
  watch.IsFrom rules ∧ watch.rule.KeepsLegible watch.state

theorem Watches.keepLegible_ofRules : ∀ watch ∈ (ofRules rules).lexeme, watch.KeepsLegible rules := by
  intro watch hw
  obtain ⟨c, hc, r, hr, rfl⟩ := mem_lexeme_ofRules hw
  exact ⟨⟨c, hc, r, _, hr, rfl⟩, r.keepsLegible_start _⟩

theorem Watch.phrased_check (hrules : ∀ c ∈ rules, c.IsAccepted) (hxs : ∀ x ∈ xs, x.IsLegible) {w : Window}
    (hw : w.IsOf xs) {watch : Watch} (h : watch.KeepsLegible rules) : (watch.check t w).Meets
      (fun r => r.1.KeepsLegible rules ∧ ∀ p ∈ r.2, IsPhrased xs p) fun _ => True := by
  refine Logged.meets_of_ok fun result hresult => ?_
  obtain ⟨⟨c, hc, r, state, hr, rfl⟩, hstate⟩ := h
  obtain ⟨⟨state', findings⟩, hcheck, hresult⟩ := Logged.outcome_bind_eq_ok.1 hresult
  cases hresult
  have hallowed : r = .truthy → ∀ value ∈ c.options.list "allowed-values", Unbroken value := by
    rintro rfl value hvalue
    have hwords : ∀ word ∈ Truthy.values1_1, Unbroken word := by decide
    exact hwords value ((hrules c hc).truthValues hr value hvalue)
  obtain ⟨hphrased, hstate'⟩ := r.phrased_check hw (hxs _ hw.curr) hallowed hstate hcheck
  refine ⟨⟨⟨c, hc, r, state', hr, rfl⟩, hstate'⟩, fun p hp => ?_⟩
  obtain ⟨f, hf, rfl⟩ := List.mem_map.1 hp
  exact (hphrased f hf).imp_right fun hkey => ⟨r, rfl, hkey⟩

theorem Watches.phrased_check (hrules : ∀ c ∈ rules, c.IsAccepted) (hxs : ∀ x ∈ xs, x.IsLegible) {e : Element}
    (he : e.IsOf t xs) {ws : Watches} (h : ∀ watch ∈ ws.lexeme, watch.KeepsLegible rules) : (ws.check t e).Meets
      (fun r => (∀ watch ∈ r.1.lexeme, watch.KeepsLegible rules) ∧ ∀ p ∈ r.2, IsPhrased xs p) fun _ => True := by
  cases e with
  | lexeme w =>
    refine (meets_checkLexeme (fun watch hw => Watch.phrased_check hrules hxs he hw) h).bind fun r hr => ?_
    exact Logged.meets_pure hr
  | comment c =>
    refine Logged.meets_pure ⟨h, fun p hp => .inl ?_⟩
    obtain ⟨⟨r, configured⟩, -, hp⟩ := List.mem_flatMap.1 hp
    obtain ⟨f, hf, rfl⟩ := List.mem_map.1 hp
    exact CommentRule.unbroken_check _ c r f hf
  | line l =>
    have hcheck : ∀ x ∈ ws.line, (x.1.check x.2.options t l).Meets
        (fun fs => ∀ f ∈ fs, IsPhrased xs (stamp x.1.name x.2.level f)) fun _ => True :=
      fun x _ => Logged.meets_of_ok fun fs hfs f hf => .inl (LineRule.unbroken_check hfs f hf)
    exact (meets_checkLine hcheck).bind fun ps hps => Logged.meets_pure ⟨h, hps⟩

/-! ## A text -/

/-- What rules of a loaded configuration have to say is told in one line, or names a broken key. -/
theorem unbroken_cosmeticProblems_iff (hrules : ∀ c ∈ rules, c.IsAccepted) {ps : List Problem}
    (h : (cosmeticProblems t rules).outcome = .ok ps) (hp : p ∈ ps) : Unbroken p.desc ↔ ¬NamesBrokenKey t p := by
  obtain ⟨emitted, hemitted, hperm⟩ := perm_of_cosmeticProblems h
  obtain ⟨xs, hxs, hwalk⟩ := emissionsOn_eq_ok.1 hemitted
  obtain ⟨x, hx, hmem, -⟩ := mem_unsilenced (hperm.mem_iff.1 hp)
  have hphrased := meets_emissions (t := t) (Q := fun _ p => IsPhrased xs p)
    (fun ws hws e he => Watches.phrased_check hrules (fun x hx => Lexeme.isLegible_of_ofText hxs hx)
      (Element.isOf_of_mem_ofLexemes e he) hws) Watches.keepLegible_ofRules
  refine ⟨fun hdesc hkey => hkey.not_unbroken hdesc, fun hkey => ?_⟩
  by_contra hdesc
  exact hkey (((hphrased.1 emitted hwalk).2 x hx p hmem).namesBrokenKey hxs hdesc)

/-- A problem of a run is the fault of syntax or one that the rules have. -/
theorem mem_of_run {asked : Text.Asked} {c : Config} {path : Option String} {ps : List Problem}
    (h : (run asked (.text t) c path).outcome = .ok ps) (hp : p ∈ ps) : (syntaxError t).outcome = .ok (some p) ∨
      ∃ found, (cosmeticProblems t (c.rulesFor path)).outcome = .ok found ∧ p ∈ found := by
  unfold run at h
  split at h
  · cases h
    cases hp
  · have hofText : (ofText t c path).outcome = .ok ps := Logged.outcome_mapError_eq_ok.1 h
    unfold ofText at hofText
    split at hofText
    · cases hofText
      cases hp
    · obtain ⟨fault, hfault, h⟩ := Logged.outcome_bind_eq_ok.1 hofText
      obtain ⟨found, hfound, h⟩ := Logged.outcome_bind_eq_ok.1 h
      cases h
      cases fault with
      | none =>
        rw [splice_none] at hp
        exact .inr ⟨found, hfound, hp⟩
      | some fault =>
        rcases (isSpliced_splice fault found).eq_or_mem hp with rfl | hp
        · exact .inl (Logged.outcome_mapError_eq_ok.1 hfault)
        · exact .inr ⟨found, hfound, hp⟩

/-! ## A run -/

theorem unbroken_ruleName (r : Rule) : Unbroken r.name := by
  obtain ⟨⟨⟩⟩ | ⟨⟨⟩⟩ | ⟨⟨⟩⟩ := r <;> exact .literal rfl

/-- Rules have names of one line. -/
theorem unbroken_rule_of_run {asked : Text.Asked} {c : Config} {path : Option String} {ps : List Problem}
    (h : (run asked (.text t) c path).outcome = .ok ps) : ∀ p ∈ ps, ∀ r, p.rule = some r → Unbroken r := by
  intro p hp r hr
  rcases mem_of_run h hp with hfault | ⟨found, hfound, hp⟩
  · rw [rule_of_syntaxError hfault] at hr
    cases hr
  · obtain ⟨name, hname, hrule⟩ := signed_of_cosmeticProblems hfound p hp
    obtain ⟨configured, -, rfl⟩ := List.mem_map.1 hname
    cases hr.symm.trans hrule
    exact unbroken_ruleName _

/-- A problem of a run under a loaded configuration is told in one line, unless it is a fault that is told
by its whole report or names a broken key. -/
theorem unbroken_run_iff {asked : Text.Asked} {c : Config} {path : Option String} {ps : List Problem}
    (hrules : ∀ r ∈ c.rulesFor path, r.IsAccepted) (h : (run asked (.text t) c path).outcome = .ok ps) (hp : p ∈ ps) :
    Unbroken p.desc ↔ ¬IsReported t p ∧ ¬NamesBrokenKey t p := by
  rcases mem_of_run h hp with hfault | ⟨found, hfound, hp⟩
  · have hkey : ¬NamesBrokenKey t p := by
      rintro ⟨_, _, _, _, _, ⟨hrule, _⟩ | ⟨hrule, _⟩⟩ <;> cases (rule_of_syntaxError hfault).symm.trans hrule
    rw [unbroken_syntaxError_iff hfault, and_iff_left hkey]
  · have hreport : ¬IsReported t p := by
      rintro ⟨hfault, -⟩
      obtain ⟨name, -, hrule⟩ := signed_of_cosmeticProblems hfound p hp
      cases (rule_of_syntaxError hfault).symm.trans hrule
    rw [unbroken_cosmeticProblems_iff hrules hfound hp, and_iff_right hreport]

/-- A report for programs on a run under a loaded configuration has one line for each problem that is
shown, with its place in front, unless one is shown that is told by a whole report or names a broken key. -/
theorem run_printed_iff {L : Config.Loader Id} {content : Option Text} {given : Option String} {c : Config}
    (hload : (L.load content given).outcome = .ok c) {file : String} (hfile : Unbroken file) {asked : Text.Asked}
    {path : Option String} {ps : List Problem} (hrun : (run asked (.text t) c path).outcome = .ok ps)
    (noWarnings : Bool) :
    Report.IsOneLineEach file (Report.visible noWarnings ps)
        (Report.printed (Report.lines ps file .parsable noWarnings)).toList ↔
      ∀ p ∈ Report.visible noWarnings ps, ¬IsReported t p ∧ ¬NamesBrokenKey t p := by
  rw [Report.isOneLineEach_iff hfile (unbroken_rule_of_run hrun)]
  refine forall₂_congr fun p hp => ?_
  exact unbroken_run_iff (Config.Loader.isAccepted_of_load hload path) hrun (List.mem_of_mem_filter hp)

/-! ## Keys that occur again -/

/-- A configuration that looks for keys that occur again. -/
def duplicatesOnly : Text := "rules:\n  key-duplicates: enable\n".toList

def duplicatesRule : ConfiguredRule :=
  ⟨.lexeme .keyDuplicates, .error, [("forbid-duplicated-merge-keys", .bool false)], none⟩

theorem loaded_duplicatesOnly :
    ∃ c, (fileless.load (some duplicatesOnly) none).outcome = .ok c ∧ c.rulesFor none = [duplicatesRule] := by
  have hrules : (loaded duplicatesOnly).toOption.map (·.rulesFor none) = some [duplicatesRule] := by decide +kernel
  exact exists_of_toOption hrules

theorem run_duplicatesOnly {c : Config} (hrules : c.rulesFor none = [duplicatesRule]) {ps : List Problem}
    (hdisable : Directive.isDisableFile (firstLine t) = false) (hnofault : (syntaxError t).outcome = .ok none)
    (hps : (cosmeticProblems t [duplicatesRule]).outcome = .ok ps) :
    (run (pure none) (.text t) c none).outcome = .ok ps := by
  rw [outcome_run rfl hdisable hnofault, hrules, hps]
  exact congrArg Except.ok (splice_none ps)

def repeatedKey : Text := "a: 1\na: 2\n".toList

def repeatedKeyProblem : Problem :=
  ⟨2, 1, "duplication of key \"a\" in mapping", some "key-duplicates", some .error⟩

theorem run_repeatedKey {c : Config} (hrules : c.rulesFor none = [duplicatesRule]) :
    (run (pure none) (.text repeatedKey) c none).outcome = .ok [repeatedKeyProblem] :=
  run_duplicatesOnly hrules (by decide +kernel) (by decide +kernel)
    ((outcome_cosmeticProblems_eq_reckoned _ _).trans (by decide +kernel))

theorem run_printed_iff_of_repeated_key :
    ∃ c, (fileless.load (some duplicatesOnly) none).outcome = .ok c ∧ Unbroken "a.yaml" ∧
      (run (pure none) (.text repeatedKey) c none).outcome = .ok [repeatedKeyProblem] ∧
      Report.IsOneLineEach "a.yaml" [repeatedKeyProblem]
        (Report.printed (Report.lines [repeatedKeyProblem] "a.yaml" .parsable false)).toList := by
  obtain ⟨c, hload, hrules⟩ := loaded_duplicatesOnly
  have hrun := run_repeatedKey hrules
  refine ⟨c, hload, by decide, hrun, (run_printed_iff hload (by decide) hrun false).2 fun p hp => ?_⟩
  obtain rfl := List.mem_singleton.1 (List.mem_of_mem_filter hp)
  refine ⟨fun ⟨hfault, _⟩ => ?_, fun hkey => hkey.not_unbroken (by decide)⟩
  cases rule_of_syntaxError hfault

/-- A mapping with the same key twice, written with an escape for a line feed. -/
def brokenKey : Text := "\"a\\nb\": 1\n\"a\\nb\": 2\n".toList

def brokenKeyProblem : Problem :=
  ⟨2, 1, "duplication of key \"a\nb\" in mapping", some "key-duplicates", some .error⟩

theorem run_brokenKey {c : Config} (hrules : c.rulesFor none = [duplicatesRule]) :
    (run (pure none) (.text brokenKey) c none).outcome = .ok [brokenKeyProblem] :=
  run_duplicatesOnly hrules (by decide +kernel) (by decide +kernel)
    ((outcome_cosmeticProblems_eq_reckoned _ _).trans (by decide +kernel))

theorem not_one_line_each_of_broken_key :
    ¬∀ content c, (fileless.load (some content) none).outcome = .ok c → ∀ file, Unbroken file → ∀ t ps,
      (run (pure none) (.text t) c none).outcome = .ok ps →
      Report.IsOneLineEach file ps (Report.printed (Report.lines ps file .parsable false)).toList := by
  intro hall
  obtain ⟨c, hload, hrules⟩ := loaded_duplicatesOnly
  have hrun := run_brokenKey hrules
  have hone := hall _ c hload "a.yaml" (by decide) _ _ hrun
  have hdescs := (Report.isOneLineEach_iff (by decide) (unbroken_rule_of_run hrun) false).1 hone
  exact absurd (hdescs _ (.head _)) (by decide)

end YamlStyle.Lint
