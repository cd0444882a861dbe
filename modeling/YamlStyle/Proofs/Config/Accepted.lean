import YamlStyle.Proofs.Config.Overriding

/-!
# Options of loaded rules

Each rule of a loaded configuration has a value for all of its options, and this is its own one or one
that the schema of the option accepts (`Config.Loader.isAccepted_of_load`).
-/

namespace YamlStyle

/-- A rule whose options have their own values or such as their schemas accept. -/
def ConfiguredRule.IsAccepted (c : ConfiguredRule) : Prop :=
  ∀ spec ∈ c.rule.specs, ∃ x, c.options.lookup spec.name = some x ∧
    (x = spec.default ∨ ∃ v, spec.schema.accept? v = some x)

namespace Config.Loader

variable {L : Loader Id} {rule : Rule} {c : ConfiguredRule}

theorem TurnsOn.isAccepted {pairs : List (Yaml.Item × Yaml.Value)} (h : L.TurnsOn rule pairs c) : c.IsAccepted := by
  obtain ⟨vs, hvs, hoptions⟩ := h.options
  intro spec hspec
  rw [h.rule] at hspec
  refine ⟨_, by rw [hoptions, Entry.lookup_completed hspec], ?_⟩
  have hgiven := Entry.lookup_given hvs hspec
  cases hlookup : vs.lookup spec.name with
  | none => exact .inl rfl
  | some x =>
    rw [hlookup, Option.map_some] at hgiven
    obtain ⟨v, -, hv⟩ := Option.map_eq_some_iff.1 hgiven.symm
    exact .inr ⟨v, hv⟩

theorem isAccepted_of_configure {entry : Yaml.Value} (h : (L.configure rule entry).outcome = .ok (some c)) :
    c.IsAccepted := by
  cases hoff : Entry.isOff entry with
  | true =>
    rw [configure, if_pos hoff] at h
    cases h
  | false =>
    cases hpairs : Entry.settings? entry with
    | none =>
      rw [configure, if_neg (by rw [hoff]; exact Bool.false_ne_true), hpairs] at h
      cases h
    | some pairs =>
      obtain ⟨_, ⟨⟩, hc⟩ := turnsOn_of_configure hoff hpairs h
      exact hc.isAccepted

theorem isAccepted_of_configureAll {entries : List (String × Yaml.Value)}
    {rules : List (String × Option ConfiguredRule)} (h : (L.configureAll entries).outcome = .ok rules) :
    ∀ r ∈ rules, ∀ c ∈ r.2, c.IsAccepted := by
  induction entries generalizing rules with
  | nil =>
    cases h
    exact List.forall_mem_nil _
  | cons e entries ih =>
    obtain ⟨name, entry⟩ := e
    rw [configureAll] at h
    split at h
    · cases h
    · obtain ⟨first, hfirst, h⟩ := LoggedT.outcome_bind_eq_ok.1 h
      obtain ⟨later, hlater, h⟩ := LoggedT.outcome_bind_eq_ok.1 h
      cases h
      refine List.forall_mem_cons.2 ⟨fun c hc => ?_, ih hlater⟩
      obtain rfl : first = some c := hc
      exact isAccepted_of_configure hfirst

/-- What is loaded is what some text makes of it, be it given, in a file, or the usual one. -/
theorem exists_ofContent_of_load {content : Option Text} {file : Option String} {c : Config}
    (h : (L.load content file).outcome = .ok c) : ∃ t, (L.ofContent t).outcome = .ok c := by
  cases content with
  | some t =>
    cases file with
    | some path => cases h
    | none => exact ⟨t, h⟩
  | none =>
    cases file with
    | some path =>
      obtain ⟨t, -, h⟩ := LoggedT.outcome_bind_eq_ok.1 h
      exact ⟨t, h⟩
    | none => exact ⟨_, h⟩

theorem isAccepted_of_load {content : Option Text} {file : Option String} {c : Config}
    (h : (L.load content file).outcome = .ok c) (path : Option String) : ∀ r ∈ c.rulesFor path, r.IsAccepted := by
  obtain ⟨t, h⟩ := exists_ofContent_of_load h
  intro r hr
  obtain ⟨entry, hentry, hsome⟩ := List.mem_filterMap.1 (List.mem_filter.1 hr).1
  exact isAccepted_of_configureAll (configureAll_of_ofText h) entry hentry r hsome

end Config.Loader

/-! ## Words -/

theorem forall_mem_of_mapM {α β : Type} {f : α → Option β} {P : β → Prop} (hf : ∀ a b, f a = some b → P b) {xs : List α}
    {ys : List β} (h : xs.mapM f = some ys) : ∀ y ∈ ys, P y := by
  induction xs generalizing ys with
  | nil =>
    cases h
    exact List.forall_mem_nil _
  | cons x xs ih =>
    rw [List.mapM_cons, Option.bind_eq_bind, Option.bind_eq_some_iff] at h
    obtain ⟨y, hy, h⟩ := h
    obtain ⟨rest, hrest, h⟩ := Option.bind_eq_some_iff.1 h
    cases h
    exact List.forall_mem_cons.2 ⟨hf x y hy, ih hrest⟩

namespace Rule

theorem mem_of_acceptItem? {words : List String} {v : Yaml.Value} {s : String}
    (h : acceptItem? (words.map .text) v = some s) : s ∈ words := by
  unfold acceptItem? at h
  split at h
  · next s' hs' =>
    cases h
    obtain ⟨choice, hchoice, haccept⟩ := List.exists_of_findSome?_eq_some hs'
    obtain ⟨word, hword, rfl⟩ := List.mem_map.1 hchoice
    obtain rfl : word = s := by
      cases v with
      | atom a =>
        cases a with
        | text s' =>
          dsimp only [Choice.accept?] at haccept
          split at haccept
          · exact OptionValue.text.inj (Option.some.inj haccept)
          · cases haccept
        | _ => cases haccept
      | _ => cases haccept
    exact hword
  · cases h

/-- A list that has been accepted for an option has only words that may be in it. -/
theorem mem_of_accept? {words : List String} {v : Yaml.Value} {x : OptionValue}
    (h : (Schema.listOf (words.map .text)).accept? v = some x) : ∃ xs, x = .list xs ∧ ∀ s ∈ xs, s ∈ words := by
  cases v with
  | list vs =>
    obtain ⟨xs, hxs, rfl⟩ := Option.map_eq_some_iff.1 h
    exact ⟨xs, rfl, forall_mem_of_mapM (fun _ _ => mem_of_acceptItem?) hxs⟩
  | _ => cases h

end Rule

theorem ConfiguredRule.IsAccepted.truthValues {c : ConfiguredRule} (h : c.IsAccepted)
    (hrule : c.rule = .lexeme .truthy) : ∀ value ∈ c.options.list "allowed-values", value ∈ Rule.Truthy.values1_1 := by
  obtain ⟨x, hlookup, hx⟩ := h ⟨"allowed-values", _, _⟩ (by rw [hrule]; exact .head _)
  rw [OptionValues.list, hlookup]
  rcases hx with rfl | ⟨v, hv⟩
  · decide
  · obtain ⟨xs, rfl, hxs⟩ := Rule.mem_of_accept? hv
    exact hxs

end YamlStyle
