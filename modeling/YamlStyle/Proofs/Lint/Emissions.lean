import YamlStyle.Lint.Run
import YamlStyle.Proofs.Journal

/-!
# What rules emit

The walk shows each element once, in order. What every rule makes sure of for each element, the walk
makes sure of for all of them (`meets_emissions`); so every problem bears the name of a rule of the
run (`emissions_signed`).
-/

namespace YamlStyle

namespace Lint

/-- Problems of rules with the given names. -/
def Signed (names : List String) (ps : List Problem) : Prop := ∀ p ∈ ps, ∃ rule ∈ names, p.rule = some rule

variable {names : List String} {t : Text}

theorem signed_nil : Signed names [] := fun p hp => by simp at hp

theorem Signed.append {ps qs : List Problem} (hp : Signed names ps) (hq : Signed names qs) :
    Signed names (ps ++ qs) := by
  intro p h
  rcases List.mem_append.1 h with h | h
  · exact hp p h
  · exact hq p h

theorem signed_stamp {rule : String} (h : rule ∈ names) (level : Level) (fs : List Finding) :
    Signed names (fs.map (stamp rule level)) := by
  intro p hp
  obtain ⟨f, -, rfl⟩ := List.mem_map.1 hp
  exact ⟨rule, h, rfl⟩

/-! ## The walk -/

section Walk

variable {E : Rule.Failure → Prop}

/-- What each watch keeps of itself and makes sure of, all watches do. -/
theorem Watches.meets_checkLexeme {I : Watch → Prop} {Q : Problem → Prop} {w : Window} {watches : List Watch}
    (hcheck : ∀ watch, I watch → (watch.check t w).Meets (fun r => I r.1 ∧ ∀ p ∈ r.2, Q p) E)
    (h : ∀ watch ∈ watches, I watch) :
    (checkLexeme t w watches).Meets (fun r => (∀ watch ∈ r.1, I watch) ∧ ∀ p ∈ r.2, Q p) E := by
  induction watches with
  | nil => exact Logged.meets_pure ⟨by simp, by simp⟩
  | cons watch rest ih =>
    refine (hcheck watch (h watch (.head _))).bind fun ⟨watch', found⟩ ⟨hwatch, hfound⟩ => ?_
    refine (ih fun watch hw => h watch (.tail _ hw)).bind fun ⟨rest', later⟩ ⟨hrest, hlater⟩ => ?_
    exact Logged.meets_pure ⟨List.forall_mem_cons.2 ⟨hwatch, hrest⟩, List.forall_mem_append.2 ⟨hfound, hlater⟩⟩

theorem Watches.meets_checkLine {Q : Problem → Prop} {l : Line} {rules : List (LineRule × ConfiguredRule)}
    (hcheck : ∀ r ∈ rules, (r.1.check r.2.options t l).Meets (fun fs => ∀ f ∈ fs, Q (stamp r.1.name r.2.level f)) E) :
    (checkLine t l rules).Meets (fun ps => ∀ p ∈ ps, Q p) E := by
  induction rules with
  | nil => exact Logged.meets_pure (by simp)
  | cons r rest ih =>
    refine (hcheck r (.head _)).bind fun fs hfs => ?_
    refine (ih fun r hr => hcheck r (.tail _ hr)).bind fun later hlater => ?_
    refine Logged.meets_pure (List.forall_mem_append.2 ⟨fun p hp => ?_, hlater⟩)
    obtain ⟨f, hf, rfl⟩ := List.mem_map.1 hp
    exact hfs f hf

/-- The walk over elements gives each of them once, in order, with what the rules make sure of. -/
theorem meets_emissions {J : Watches → Prop} {Q : Element → Problem → Prop} {ws : Watches} {es : List Element}
    (hcheck : ∀ ws, J ws → ∀ e ∈ es, (ws.check t e).Meets (fun r => J r.1 ∧ ∀ p ∈ r.2, Q e p) E) (hws : J ws) :
    (emissions t ws es).Meets
      (fun emitted => emitted.map (·.1) = es ∧ ∀ x ∈ emitted, ∀ p ∈ x.2, Q x.1 p) E := by
  induction es generalizing ws with
  | nil => exact Logged.meets_pure ⟨rfl, by simp⟩
  | cons e es ih =>
    refine (hcheck ws hws e (.head _)).bind fun ⟨ws', found⟩ ⟨hws', hfound⟩ => ?_
    refine (ih (fun ws hws e he => hcheck ws hws e (.tail _ he)) hws').bind fun rest ⟨hmap, hrest⟩ => ?_
    exact Logged.meets_pure ⟨by rw [List.map_cons, hmap], List.forall_mem_cons.2 ⟨hfound, hrest⟩⟩

end Walk

/-! ## The rules of a run -/

section OfRules

variable {rules : List ConfiguredRule}

theorem Watches.mem_lexeme_ofRules {watch : Watch} (h : watch ∈ (ofRules rules).lexeme) : ∃ c ∈ rules, ∃ r,
    c.rule = .lexeme r ∧ watch = ⟨r, c.level, r.options c.options, r.start (r.options c.options)⟩ := by
  obtain ⟨c, hc, h⟩ := List.mem_filterMap.1 h
  split at h
  · next r hr => exact ⟨c, hc, r, hr, (Option.some.inj h).symm⟩
  · cases h

theorem Watches.mem_comment_ofRules {x : CommentRule × ConfiguredRule} (h : x ∈ (ofRules rules).comment) :
    x.2 ∈ rules ∧ x.2.rule = .comment x.1 := by
  obtain ⟨c, hc, h⟩ := List.mem_filterMap.1 h
  split at h
  · next r hr =>
    cases h
    exact ⟨hc, hr⟩
  · cases h

theorem Watches.mem_line_ofRules {x : LineRule × ConfiguredRule} (h : x ∈ (ofRules rules).line) :
    x.2 ∈ rules ∧ x.2.rule = .line x.1 := by
  obtain ⟨c, hc, h⟩ := List.mem_filterMap.1 h
  split at h
  · next r hr =>
    cases h
    exact ⟨hc, hr⟩
  · cases h

end OfRules

/-! ## Names of rules -/

/-- Watches for rules with the given names. -/
structure Watches.Named (names : List String) (ws : Watches) : Prop where
  lexeme : ∀ w ∈ ws.lexeme, w.rule.name ∈ names
  comment : ∀ r ∈ ws.comment, r.1.name ∈ names
  line : ∀ r ∈ ws.line, r.1.name ∈ names

theorem Watches.named_ofRules (rules : List ConfiguredRule) :
    (ofRules rules).Named (rules.map (·.rule.name)) where
  lexeme w hw := by
    obtain ⟨c, hc, r, hr, rfl⟩ := mem_lexeme_ofRules hw
    exact List.mem_map.2 ⟨c, hc, by rw [hr]; rfl⟩
  comment x hx := by
    obtain ⟨hc, hr⟩ := mem_comment_ofRules hx
    exact List.mem_map.2 ⟨x.2, hc, by rw [hr]; rfl⟩
  line x hx := by
    obtain ⟨hc, hr⟩ := mem_line_ofRules hx
    exact List.mem_map.2 ⟨x.2, hc, by rw [hr]; rfl⟩

theorem Watch.named_check {w : Window} {watch : Watch} (h : watch.rule.name ∈ names) :
    (watch.check t w).Meets (fun r => r.1.rule.name ∈ names ∧ Signed names r.2) fun _ => True := by
  refine Logged.meets_of_ok fun r hr => ?_
  obtain ⟨⟨state, findings⟩, -, hr⟩ := Logged.outcome_bind_eq_ok.1 hr
  cases hr
  exact ⟨h, signed_stamp h _ _⟩

theorem Watches.Named.check {ws : Watches} (h : ws.Named names) (e : Element) :
    (ws.check t e).Meets (fun r => r.1.Named names ∧ Signed names r.2) fun _ => True := by
  cases e with
  | lexeme w =>
    refine (meets_checkLexeme (fun watch hw => Watch.named_check hw) h.lexeme).bind fun r ⟨hnames, hsigned⟩ => ?_
    exact Logged.meets_pure ⟨⟨hnames, h.comment, h.line⟩, hsigned⟩
  | comment c =>
    refine Logged.meets_pure ⟨h, fun p hp => ?_⟩
    obtain ⟨r, hr, hp⟩ := List.mem_flatMap.1 hp
    exact signed_stamp (h.comment r hr) _ _ p hp
  | line l =>
    have hcheck : ∀ r ∈ ws.line, (r.1.check r.2.options t l).Meets
        (fun fs => ∀ f ∈ fs, ∃ rule ∈ names, (stamp r.1.name r.2.level f).rule = some rule) fun _ => True :=
      fun r hr => Logged.meets_of_ok fun fs _ f _ => ⟨r.1.name, h.line r hr, rfl⟩
    exact (meets_checkLine hcheck).bind fun ps hps => Logged.meets_pure ⟨h, hps⟩

/-- The walk over elements gives each of them once, in order, with problems of the rules. -/
theorem emissions_signed {ws : Watches} {es : List Element} {emitted : List (Element × List Problem)}
    (hn : ws.Named names) (h : (emissions t ws es).outcome = .ok emitted) :
    emitted.map (·.1) = es ∧ ∀ x ∈ emitted, Signed names x.2 := by
  have hwalk : (emissions t ws es).Meets
      (fun emitted => emitted.map (·.1) = es ∧ ∀ x ∈ emitted, Signed names x.2) fun _ => True :=
    meets_emissions (Q := fun _ p => ∃ rule ∈ names, p.rule = some rule) (fun _ hws e _ => hws.check e) hn
  exact hwalk.1 emitted h

/-! ## A text -/

/-- The elements of a text, each with the problems that the rules have with it. -/
def emissionsOn (t : Text) (rules : List ConfiguredRule) : Check (List (Element × List Problem)) := do
  let lexemes ← (Lexeme.ofText t).mapError (Rule.Failure.unreadable t)
  emissions t (.ofRules rules) (Element.ofLexemes t lexemes)

/-- What is given out is what rules emit, sifted and released. -/
theorem outcome_cosmeticProblems (t : Text) (rules : List ConfiguredRule) :
    (cosmeticProblems t rules).outcome = (emissionsOn t rules).outcome.map fun emitted =>
      release [] (sift t (rules.map (·.rule.name)) .start emitted) := by
  rw [cosmeticProblems, emissionsOn, Logged.outcome_bind, Logged.outcome_bind]
  cases ((Lexeme.ofText t).mapError (Rule.Failure.unreadable t)).outcome with
  | error e => rfl
  | ok xs =>
    show ((emissions t _ _) >>= _).outcome = Except.map _ (emissions t _ _).outcome
    rw [Logged.outcome_bind]
    cases (emissions t (.ofRules rules) (Element.ofLexemes t xs)).outcome <;> rfl

theorem emissionsOn_eq_ok {rules : List ConfiguredRule} {emitted : List (Element × List Problem)} :
    (emissionsOn t rules).outcome = .ok emitted ↔ ∃ xs, (Lexeme.ofText t).outcome = .ok xs ∧
      (emissions t (.ofRules rules) (Element.ofLexemes t xs)).outcome = .ok emitted := by
  rw [emissionsOn, Logged.outcome_bind_eq_ok]
  exact exists_congr fun _ => and_congr_left fun _ => Logged.outcome_mapError_eq_ok

/-! ## A run -/

/-- A text has problems unless its syntax cannot be told or a rule fails. -/
theorem ofText_eq_error {c : Config} {path : Option String} {e : Rule.Failure}
    (h : (ofText t c path).outcome = .error e) :
    (∃ f, (syntaxError t).outcome = .error f ∧ e = .unreadable t f) ∨
      (cosmeticProblems t (c.rulesFor path)).outcome = .error e := by
  unfold ofText at h
  split at h
  · cases h
  · rcases Logged.outcome_bind_eq_error.1 h with hsyntax | ⟨_, -, h⟩
    · obtain ⟨f, hf, rfl⟩ := Logged.outcome_mapError_eq_error.1 hsyntax
      exact .inl ⟨f, hf, rfl⟩
    · rcases Logged.outcome_bind_eq_error.1 h with hcosmetic | ⟨_, -, h⟩
      · exact .inr hcosmetic
      · cases h

/-- A run over a text fails only where the text has no problems to give. -/
theorem run_eq_error {asked : Text.Asked} {c : Config} {path : Option String} {f : Failure}
    (h : (run asked (.text t) c path).outcome = .error f) :
    ∃ e, f = .rule e ∧ (ofText t c path).outcome = .error e := by
  unfold run at h
  split at h
  · cases h
  · obtain ⟨e, he, rfl⟩ := Logged.outcome_mapError_eq_error.1 h
    exact ⟨e, rfl, he⟩

theorem splice_none (ps : List Problem) : splice none ps = ps := by
  cases ps <;> rfl

theorem splice_cons (fault p : Problem) (ps : List Problem) :
    splice (some fault) (p :: ps) =
      if p.isBefore fault then p :: splice (some fault) ps
      else if fault.isAt p then fault :: ps else fault :: p :: ps := rfl

/-- A run over a text gives out the fault of syntax among the problems of the rules, or fails as a rule does. -/
theorem outcome_run {asked : Text.Asked} {c : Config} {path : Option String} {fault : Option Problem}
    (hignored : path.any c.isIgnored = false) (hdisable : Directive.isDisableFile (firstLine t) = false)
    (hfault : (syntaxError t).outcome = .ok fault) : (run asked (.text t) c path).outcome =
      ((cosmeticProblems t (c.rulesFor path)).outcome.map (splice fault)).mapError .rule := by
  have hofText : (ofText t c path).outcome = (cosmeticProblems t (c.rulesFor path)).outcome.map (splice fault) := by
    rw [ofText, if_neg (by rw [hdisable]; exact Bool.false_ne_true), Logged.outcome_bind,
      Logged.outcome_mapError_eq_ok.2 hfault]
    show (cosmeticProblems t (c.rulesFor path) >>= _).outcome = _
    rw [Logged.outcome_bind]
    cases (cosmeticProblems t (c.rulesFor path)).outcome <;> rfl
  rw [run, if_neg (by rw [hignored]; exact Bool.false_ne_true), ← hofText]
  rfl

end Lint

end YamlStyle
