import YamlStyle.Proofs.Lint.Release

/-!
# Rules do not depend on one another

A run in which some rules are off is set beside the run with all of them. Rule by rule the two go
through the same states, so the one gives out what the other does, less the problems of the rules
that are off (`cosmeticProblems_disable`). A run that fails does so through one rule, and any run
with that rule fails in the same way.
-/

namespace YamlStyle

/-! ## Turning rules off -/

/-- Whether a problem comes from a rule with one of some names. -/
def Problem.isBy (on : String → Bool) (p : Problem) : Bool := p.rule.any on

namespace Config

/-- The configuration with some rules turned off, and else the same. -/
def disable (c : Config) (off : List String) : Config := { c with
  entries := c.entries.map fun e => (e.1, if off.contains e.1 then .text "disable" else e.2)
  rules := c.rules.map fun e => (e.1, e.2.filter fun r => !off.contains r.rule.name) }

theorem rulesFor_disable (c : Config) (off : List String) (path : Option String) :
    (c.disable off).rulesFor path = (c.rulesFor path).filter fun r => !off.contains r.rule.name := by
  have h : (c.disable off).rules.filterMap (·.2) =
      (c.rules.filterMap (·.2)).filter fun r => !off.contains r.rule.name := by
    rw [disable, List.filterMap_map, List.filter_filterMap]
    rfl
  rw [rulesFor, h, List.filter_comm]
  rfl

namespace Loader

variable {L : Loader Id}

theorem Entry.rule_of_configure {rule : Rule} {pairs : List (Yaml.Item × Yaml.Value)} {ignore : Option PathPatterns}
    {r : ConfiguredRule} (h : Entry.configure rule pairs ignore = .ok r) : r.rule = rule := by
  unfold Entry.configure at h
  cases hl : Entry.level pairs with
  | error e => rw [hl] at h; cases h
  | ok level =>
    cases hg : Entry.given rule pairs with
    | error e => rw [hl, hg] at h; cases h
    | ok given =>
      rw [hl, hg] at h
      simp only [bind, Except.bind] at h
      split at h
      · cases h
      · cases h
        rfl

theorem rule_of_configure {rule : Rule} {entry : Yaml.Value} {r : ConfiguredRule}
    (h : (L.configure rule entry).outcome = .ok (some r)) : r.rule = rule := by
  unfold configure at h
  dsimp only at h
  split at h
  · cases h
  · split at h
    · cases h
    · next pairs _ =>
      have hrule : ∀ {ignore : Option PathPatterns} {told : EntryFault → Failure},
          (LoggedT.ofLogged (m := Id) (Logged.ofExcept ((Entry.configure rule pairs ignore).mapError told)) >>=
            fun r => pure (some r)).outcome = .ok (some r) → r.rule = rule := by
        intro ignore told h
        obtain ⟨r', hr, h⟩ := LoggedT.outcome_bind_eq_ok.1 h
        cases h
        cases hc : Entry.configure rule pairs ignore with
        | error e => rw [hc] at hr; cases hr
        | ok r' => rw [hc] at hr; cases hr; exact Entry.rule_of_configure hc
      obtain ⟨source, -, h⟩ := LoggedT.outcome_bind_eq_ok.1 h
      split at h
      · obtain ⟨_, -, h⟩ := LoggedT.outcome_bind_eq_ok.1 h
        exact hrule h
      · obtain ⟨_, -, h⟩ := LoggedT.outcome_bind_eq_ok.1 h
        exact hrule h
      · obtain ⟨_, -, h⟩ := LoggedT.outcome_bind_eq_ok.1 h
        obtain ⟨_, -, h⟩ := LoggedT.outcome_bind_eq_ok.1 h
        exact hrule h

/-- Entries that turn some rules off and are else the same make the configuration with these rules
turned off. -/
theorem configureAll_disable {entries : List (String × Yaml.Value)} {rules : List (String × Option ConfiguredRule)}
    (h : (L.configureAll entries).outcome = .ok rules) (off : List String) :
    (L.configureAll (entries.map fun e => (e.1, if off.contains e.1 then .text "disable" else e.2))).outcome =
      .ok (rules.map fun e => (e.1, e.2.filter fun r => !off.contains r.rule.name)) := by
  induction entries generalizing rules with
  | nil =>
    cases h
    rfl
  | cons e rest ih =>
    obtain ⟨name, entry⟩ := e
    rw [configureAll] at h
    rw [List.map_cons, configureAll]
    split at h
    · cases h
    · next rule hrule =>
      have hname : rule.name = name := by
        unfold Rule.ofName? at hrule
        simpa using List.find?_some hrule
      obtain ⟨first, hfirst, h⟩ := LoggedT.outcome_bind_eq_ok.1 h
      obtain ⟨later, hlater, h⟩ := LoggedT.outcome_bind_eq_ok.1 h
      cases h
      simp only [hrule]
      refine LoggedT.outcome_bind_eq_ok.2 ⟨_, ?_, LoggedT.outcome_bind_eq_ok.2 ⟨_, ih hlater, rfl⟩⟩
      cases first with
      | none =>
        split
        · rfl
        · exact hfirst
      | some r =>
        rw [Option.filter_some, rule_of_configure hfirst, hname]
        cases hoff : off.contains name with
        | true => rfl
        | false => exact hfirst

end Loader

end Config

namespace Lint

variable {t : Text} {names : List String} {on : String → Bool}

/-! ## One element -/

/-- What `x` gives, `restricted` gives for the rules that are on alone. If `x` fails, then through one
rule, and so does `restricted` if that rule is on. -/
def Restricts {α : Type} (names : List String) (restrict : (String → Bool) → α → α) (x : Check α)
    (restricted : (String → Bool) → Check α) : Prop :=
  match x.outcome with
  | .ok a => ∀ on, (restricted on).outcome = .ok (restrict on a)
  | .error e => ∃ rule ∈ names, ∀ on, on rule = true → (restricted on).outcome = .error e

namespace Restricts

variable {α β : Type} {restrict : (String → Bool) → α → α} {restrict' : (String → Bool) → β → β} {x : Check α}
  {restricted : (String → Bool) → Check α}

theorem ok {a : α} (h : Restricts names restrict x restricted) (hx : x.outcome = .ok a) (on : String → Bool) :
    (restricted on).outcome = .ok (restrict on a) := by
  rw [Restricts, hx] at h
  exact h on

theorem error {e : Rule.Failure} (h : Restricts names restrict x restricted) (hx : x.outcome = .error e) :
    ∃ rule ∈ names, ∀ on, on rule = true → (restricted on).outcome = .error e := by
  rw [Restricts, hx] at h
  exact h

theorem bind {k : α → Check β} {k' : (String → Bool) → α → Check β} (hx : Restricts names restrict x restricted)
    (hk : ∀ a, x.outcome = .ok a → Restricts names restrict' (k a) fun on => k' on (restrict on a)) :
    Restricts names restrict' (x >>= k) fun on => restricted on >>= k' on := by
  unfold Restricts
  cases h : (x >>= k).outcome with
  | ok b =>
    obtain ⟨a, ha, hb⟩ := Logged.outcome_bind_eq_ok.1 h
    exact fun on => Logged.outcome_bind_eq_ok.2 ⟨_, hx.ok ha on, (hk a ha).ok hb on⟩
  | error e =>
    rcases Logged.outcome_bind_eq_error.1 h with he | ⟨a, ha, he⟩
    · obtain ⟨rule, hr, hrest⟩ := hx.error he
      exact ⟨rule, hr, fun on hon => Logged.outcome_bind_eq_error.2 (.inl (hrest on hon))⟩
    · obtain ⟨rule, hr, hrest⟩ := (hk a ha).error he
      exact ⟨rule, hr, fun on hon => Logged.outcome_bind_eq_error.2 (.inr ⟨_, hx.ok ha on, hrest on hon⟩)⟩

/-- One rule more is asked first if it is on, and not at all if it is off. -/
theorem cons {γ : Type} {rule : String} {first : Check γ} {join : γ → α → α} (hr : rule ∈ names)
    (hx : Restricts names restrict x restricted)
    (hjoin : ∀ c, first.outcome = .ok c → ∀ a on,
      restrict on (join c a) = if on rule then join c (restrict on a) else restrict on a) :
    Restricts names restrict (first >>= fun c => x >>= fun a => pure (join c a)) fun on =>
      if on rule then first >>= fun c => restricted on >>= fun a => pure (join c a) else restricted on := by
  unfold Restricts
  cases h : (first >>= fun c => x >>= fun a => pure (join c a)).outcome with
  | ok b =>
    obtain ⟨c, hc, h⟩ := Logged.outcome_bind_eq_ok.1 h
    obtain ⟨a, ha, h⟩ := Logged.outcome_bind_eq_ok.1 h
    cases h
    intro on
    rw [hjoin c hc a on]
    dsimp only
    split
    · exact Logged.outcome_bind_eq_ok.2 ⟨c, hc, Logged.outcome_bind_eq_ok.2 ⟨_, hx.ok ha on, rfl⟩⟩
    · exact hx.ok ha on
  | error e =>
    rcases Logged.outcome_bind_eq_error.1 h with he | ⟨c, hc, h⟩
    · refine ⟨rule, hr, fun on hon => ?_⟩
      simp only [hon, if_true]
      exact Logged.outcome_bind_eq_error.2 (.inl he)
    · rcases Logged.outcome_bind_eq_error.1 h with he | ⟨_, -, h⟩
      · obtain ⟨blamed, hb, hrest⟩ := hx.error he
        refine ⟨blamed, hb, fun on hon => ?_⟩
        dsimp only
        split
        · exact Logged.outcome_bind_eq_error.2 (.inr ⟨c, hc, Logged.outcome_bind_eq_error.2 (.inl (hrest on hon))⟩)
        · exact hrest on hon
      · cases h

end Restricts

theorem filter_isBy_stamp (rule : String) (level : Level) (fs : List Finding) :
    (fs.map (stamp rule level)).filter (Problem.isBy on) = if on rule then fs.map (stamp rule level) else [] := by
  split
  · next h =>
    rw [List.filter_eq_self]
    intro p hp
    obtain ⟨f, -, rfl⟩ := List.mem_map.1 hp
    exact h
  · next h =>
    rw [List.filter_eq_nil_iff]
    intro p hp
    obtain ⟨f, -, rfl⟩ := List.mem_map.1 hp
    exact h

namespace Watches

/-- The watches of the rules that are on. -/
def restrict (on : String → Bool) (ws : Watches) : Watches where
  lexeme := ws.lexeme.filter fun w => on w.rule.name
  comment := ws.comment.filter fun r => on r.1.name
  line := ws.line.filter fun r => on r.1.name

theorem ofRules_filter (on : String → Bool) (rules : List ConfiguredRule) :
    ofRules (rules.filter fun r => on r.rule.name) = (ofRules rules).restrict on := by
  have hset : ∀ {α : Type} {select : ConfiguredRule → Option α} {name : α → String},
      (∀ c a, select c = some a → name a = c.rule.name) →
      (rules.filter fun r => on r.rule.name).filterMap select = (rules.filterMap select).filter fun a => on (name a) := by
    intro α select name hname
    rw [List.filterMap_filter, List.filter_filterMap]
    refine congrArg (List.filterMap · rules) (funext fun c => ?_)
    cases hc : select c with
    | none => simp
    | some a => simp [Option.filter, hname c a hc]
  unfold ofRules restrict
  rw [hset, hset, hset]
  all_goals
    rintro ⟨rule, level, options, ignore⟩ a h
    cases rule <;> cases h
    rfl

theorem restricts_checkLexeme {w : Window} {watches : List Watch} (hn : ∀ w ∈ watches, w.rule.name ∈ names) :
    Restricts names (fun on x => (x.1.filter fun w => on w.rule.name, x.2.filter (Problem.isBy on)))
      (checkLexeme t w watches) fun on => checkLexeme t w (watches.filter fun w => on w.rule.name) := by
  induction watches with
  | nil => exact fun _ => rfl
  | cons watch rest ih =>
    simp only [List.filter_cons, apply_ite (checkLexeme t w)]
    refine .cons (hn watch (.head _)) (ih fun w hw => hn w (.tail _ hw)) fun c hc a on => ?_
    obtain ⟨⟨state, findings⟩, -, h⟩ := Logged.outcome_bind_eq_ok.1 hc
    cases h
    simp only [List.filter_cons, List.filter_append, filter_isBy_stamp]
    split <;> rfl

theorem restricts_checkLine {l : Line} {rules : List (LineRule × ConfiguredRule)} (hn : ∀ r ∈ rules, r.1.name ∈ names) :
    Restricts names (fun on found => found.filter (Problem.isBy on)) (checkLine t l rules)
      fun on => checkLine t l (rules.filter fun r => on r.1.name) := by
  induction rules with
  | nil => exact fun _ => rfl
  | cons r rest ih =>
    simp only [List.filter_cons, apply_ite (checkLine t l)]
    refine .cons (hn r (.head _)) (ih fun r hr => hn r (.tail _ hr)) fun findings _ later on => ?_
    rw [List.filter_append, filter_isBy_stamp]
    split <;> rfl

/-- On one element the rules that are on do the same whether or not others are. -/
theorem restricts_check {e : Element} {ws : Watches} (hn : ws.Named names) :
    Restricts names (fun on x => (x.1.restrict on, x.2.filter (Problem.isBy on))) (ws.check t e)
      fun on => (ws.restrict on).check t e := by
  cases e with
  | lexeme w => exact (restricts_checkLexeme hn.lexeme).bind fun _ _ _ => rfl
  | comment c =>
    intro on
    refine congrArg (fun found => Except.ok (ws.restrict on, found)) ?_
    unfold restrict
    induction ws.comment with
    | nil => rfl
    | cons r rest ih =>
      rw [List.flatMap_cons, List.filter_append, ← ih, filter_isBy_stamp, List.filter_cons]
      split <;> rfl
  | line l => exact (restricts_checkLine hn.line).bind fun _ _ _ => rfl

end Watches

/-! ## The walk -/

/-- In the whole walk the rules that are on do the same whether or not others are. -/
theorem restricts_emissions {ws : Watches} {es : List Element} (hn : ws.Named names) :
    Restricts names (fun on emitted => emitted.map fun x => (x.1, x.2.filter (Problem.isBy on)))
      (emissions t ws es) fun on => emissions t (ws.restrict on) es := by
  induction es generalizing ws with
  | nil => exact fun _ => rfl
  | cons e es ih =>
    exact (Watches.restricts_check hn).bind fun x hx => (ih ((hn.check _).1 _ hx).1).bind fun _ _ _ => rfl

/-! ## The sieve -/

/-- Two sieves, the one of a run with all rules and the other of a run with those that are on. -/
structure Sieve.Restricts (all : List String) (on : String → Bool) (s s' : Sieve) : Prop where
  off : ∀ rule ∈ all, on rule = true → s'.off.contains rule = s.off.contains rule
  onLine : ∀ rule ∈ all, on rule = true → s'.offOnLine.contains rule = s.offOnLine.contains rule
  onNextLine : ∀ rule ∈ all, on rule = true → s'.offOnNextLine.contains rule = s.offOnNextLine.contains rule
  held : s'.held = s.held.filter (Problem.isBy on)

namespace Sieve.Restricts

variable {all : List String} {s s' : Sieve}

theorem hold (h : s.Restricts all on s') (found : List Problem) :
    Sieve.Restricts all on { s with held := s.held ++ found }
      { s' with held := s'.held ++ found.filter (Problem.isBy on) } :=
  ⟨h.off, h.onLine, h.onNextLine, by rw [h.held, List.filter_append]⟩

theorem note (h : s.Restricts all on s') (c : Comment) :
    (s.note t all c).Restricts all on (s'.note t (all.filter on) c) := by
  have hmem : ∀ rule ∈ all, on rule = true → rule ∈ all.filter on :=
    fun rule hr hon => List.mem_filter.2 ⟨hr, hon⟩
  have hoff : ∀ rule ∈ all, on rule = true →
      (s'.off.after (all.filter on) (c.text t)).contains rule = (s.off.after all (c.text t)).contains rule := by
    intro rule hr hon
    rw [DisabledRules.contains_after hr, DisabledRules.contains_after (hmem rule hr hon), h.off rule hr hon]
  unfold Sieve.note
  dsimp only
  split
  · refine ⟨hoff, fun rule hr hon => ?_, h.onNextLine, h.held⟩
    rw [DisabledRules.contains_afterOnLine hr, DisabledRules.contains_afterOnLine (hmem rule hr hon),
      h.onLine rule hr hon]
  · refine ⟨hoff, h.onLine, fun rule hr hon => ?_, h.held⟩
    rw [DisabledRules.contains_afterOnLine hr, DisabledRules.contains_afterOnLine (hmem rule hr hon),
      h.onNextLine rule hr hon]

theorem next (h : s.Restricts all on s') : s.next.Restricts all on s'.next :=
  ⟨h.off, h.onNextLine, fun _ _ _ => rfl, rfl⟩

theorem kept (h : s.Restricts all on s') (hs : Signed all s.held) : s'.kept = s.kept.filter (Problem.isBy on) := by
  unfold Sieve.kept
  rw [h.held, List.filter_comm, List.filter_filter, List.filter_filter]
  refine List.filter_congr fun p hp => ?_
  obtain ⟨rule, hr, hp⟩ := hs p hp
  unfold Problem.isBy DisabledRules.covers
  rw [hp]
  cases hon : on rule with
  | true => simp only [Option.any_some, h.onLine rule hr hon, h.off rule hr hon]
  | false => simp only [Option.any_some, hon, Bool.false_and]

end Sieve.Restricts

/-- What the sieve leaves of the problems of rules that are on does not depend on the others. -/
theorem sift_restrict {all : List String} {s s' : Sieve} {emitted : List (Element × List Problem)}
    (hs : s.Restricts all on s') (hheld : Signed all s.held) (hsigned : ∀ x ∈ emitted, Signed all x.2) :
    sift t (all.filter on) s' (emitted.map fun x => (x.1, x.2.filter (Problem.isBy on))) =
      (sift t all s emitted).map fun x => (x.1, x.2.filter (Problem.isBy on)) := by
  induction emitted generalizing s s' with
  | nil => rfl
  | cons x rest ih =>
    obtain ⟨e, found⟩ := x
    have hfound : Signed all (s.held ++ found) := hheld.append (hsigned _ (.head _))
    have hrest : ∀ x ∈ rest, Signed all x.2 := fun x hx => hsigned x (.tail _ hx)
    have hs := hs.hold found
    cases e with
    | lexeme w => exact ih hs hfound hrest
    | comment c => exact ih (hs.note c) (by rw [Sieve.held_note]; exact hfound) hrest
    | line l =>
      rw [List.map_cons, sift, sift, List.map_cons, ih hs.next signed_nil hrest]
      exact congrArg (fun kept => (l.number, kept) :: _) (hs.kept hfound)

/-! ## Whole runs -/

variable {rules : List ConfiguredRule}

/-- The problems of a run with only the rules that are on. -/
theorem cosmeticProblems_filter_of_ok {ps : List Problem} (h : (cosmeticProblems t rules).outcome = .ok ps)
    (on : String → Bool) :
    (cosmeticProblems t (rules.filter fun r => on r.rule.name)).outcome = .ok (ps.filter (Problem.isBy on)) := by
  rw [outcome_cosmeticProblems] at h
  cases he : (emissionsOn t rules).outcome with
  | error e => rw [he] at h; cases h
  | ok emitted =>
    rw [he] at h
    cases h
    obtain ⟨xs, hxs, he⟩ := emissionsOn_eq_ok.1 he
    have hn := Watches.named_ofRules rules
    have hrestricted := (restricts_emissions hn).ok he on
    rw [← Watches.ofRules_filter] at hrestricted
    have hnames : (rules.filter fun r => on r.rule.name).map (·.rule.name) = (rules.map (·.rule.name)).filter on := by
      rw [List.filter_map]
      rfl
    have hstart : Sieve.start.Restricts (rules.map (·.rule.name)) on .start :=
      ⟨fun _ _ _ => rfl, fun _ _ _ => rfl, fun _ _ _ => rfl, rfl⟩
    rw [outcome_cosmeticProblems, emissionsOn_eq_ok.2 ⟨xs, hxs, hrestricted⟩, filter_release, hnames]
    simp only [Except.map]
    rw [sift_restrict hstart signed_nil (emissions_signed hn he).2]
    rfl

/-- A run fails because the text cannot be read, or through one rule, with which any run fails. -/
theorem cosmeticProblems_filter_of_error {e : Rule.Failure} (h : (cosmeticProblems t rules).outcome = .error e) :
    (∀ rules', (cosmeticProblems t rules').outcome = .error e) ∨
      ∃ r ∈ rules, ∀ on : String → Bool, on r.rule.name = true →
        (cosmeticProblems t (rules.filter fun r => on r.rule.name)).outcome = .error e := by
  rcases Logged.outcome_bind_eq_error.1 h with ht | ⟨xs, hxs, h⟩
  · exact .inl fun rules' => Logged.outcome_bind_eq_error.2 (.inl ht)
  · rcases Logged.outcome_bind_eq_error.1 h with he | ⟨_, -, h⟩
    · obtain ⟨rule, hr, hrestricted⟩ := (restricts_emissions (Watches.named_ofRules rules)).error he
      obtain ⟨r, hmem, rfl⟩ := List.mem_map.1 hr
      refine .inr ⟨r, hmem, fun on hon => Logged.outcome_bind_eq_error.2 (.inr ⟨xs, hxs, ?_⟩)⟩
      rw [Watches.ofRules_filter]
      exact Logged.outcome_bind_eq_error.2 (.inl (hrestricted on hon))
    · cases h

theorem signed_of_cosmeticProblems {ps : List Problem} (h : (cosmeticProblems t rules).outcome = .ok ps) :
    Signed (rules.map (·.rule.name)) ps := by
  -- The run with the rules of these names only is the whole run.
  have hself := cosmeticProblems_filter_of_ok h fun rule => (rules.map (·.rule.name)).contains rule
  rw [List.filter_eq_self.2 fun r hr => List.contains_iff_mem.2 (List.mem_map_of_mem hr), h] at hself
  intro p hp
  have hby := List.filter_eq_self.1 (Except.ok.inj hself).symm p hp
  obtain ⟨rule, hrule, hr⟩ := (Option.any_eq_true _ _).1 hby
  exact ⟨rule, List.contains_iff_mem.1 hr, hrule⟩

/-- With some rules turned off, the rest of the problems comes in the same sequence. A run that fails
fails without them too, unless by itself one of the rules turned off fails in the same way. -/
theorem cosmeticProblems_disable (t : Text) (c : Config) (path : Option String) (off : List String) :
    match (cosmeticProblems t (c.rulesFor path)).outcome with
    | .ok ps => (cosmeticProblems t ((c.disable off).rulesFor path)).outcome =
        .ok (ps.filter (Problem.isBy fun rule => ((c.disable off).rulesFor path).any (·.rule.name == rule)))
    | .error e => (cosmeticProblems t ((c.disable off).rulesFor path)).outcome = .error e ∨
        ∃ r ∈ c.rulesFor path, off.contains r.rule.name = true ∧
          (cosmeticProblems t ((c.rulesFor path).filter (·.rule.name == r.rule.name))).outcome = .error e := by
  rw [Config.rulesFor_disable]
  cases h : (cosmeticProblems t (c.rulesFor path)).outcome with
  | ok ps =>
    dsimp only
    rw [cosmeticProblems_filter_of_ok h fun rule => !off.contains rule]
    refine congrArg Except.ok (List.filter_congr fun p hp => ?_)
    obtain ⟨rule, hr, hp⟩ := signed_of_cosmeticProblems h p hp
    obtain ⟨r, hmem, rfl⟩ := List.mem_map.1 hr
    unfold Problem.isBy
    rw [hp, Option.any_some, Option.any_some, List.any_filter, Bool.eq_iff_iff, List.any_eq_true]
    constructor
    · intro hon
      exact ⟨r, hmem, by rw [hon, beq_self_eq_true]; rfl⟩
    · rintro ⟨s, -, hs⟩
      obtain ⟨hon, hname⟩ := Bool.and_eq_true_iff.1 hs
      rw [← eq_of_beq hname]
      exact hon
  | error e =>
    dsimp only
    rcases cosmeticProblems_filter_of_error h with hall | ⟨r, hr, hblame⟩
    · exact .inl (hall _)
    · cases hoff : off.contains r.rule.name with
      | false => exact .inl (hblame (fun rule => !off.contains rule) (by rw [hoff]; rfl))
      | true => exact .inr ⟨r, hr, hoff, hblame (· == r.rule.name) (beq_self_eq_true _)⟩

end Lint

end YamlStyle
