import YamlStyle.Host.Folder
import YamlStyle.Proofs.Config.Merging
import YamlStyle.Proofs.Text.Detection

/-!
# Configurations override those that they extend

A configuration and the one that it extends are put together as written, and the rules are made of
what that gives. Each rule that is a map in both has its level and its options from the later map
where they are set there, and from the earlier one elsewhere (`ofContent_extends`). Its patterns are
those of the later map as well, unless that has them as lines and the earlier one has them in files.
-/

namespace YamlStyle.Config

open Yaml (Item AreDistinct)

theorem exists_of_bind_eq_ok {ε α β : Type} {x : Except ε α} {f : α → Except ε β} {b : β} (h : x >>= f = .ok b) :
    ∃ a, x = .ok a ∧ f a = .ok b := by
  cases x with
  | error e => cases h
  | ok a => exact ⟨a, rfl, h⟩

/-! ## Documents -/

theorem Value.eq_of_entries? {v : Yaml.Value} {entries : List (String × Yaml.Value)}
    (h : Value.entries? v = some entries) : v = .map (entries.map fun e => (.atom (.text e.1), e.2)) := by
  cases v with
  | map pairs =>
    refine congrArg Yaml.Value.map ?_
    dsimp only [Value.entries?] at h
    induction pairs generalizing entries with
    | nil =>
      cases h
      rfl
    | cons p pairs ih =>
      obtain ⟨key, v⟩ := p
      rw [List.mapM_cons, Option.bind_eq_bind, Option.bind_eq_some_iff] at h
      obtain ⟨e, he, h⟩ := h
      obtain ⟨rest, hrest, h⟩ := Option.bind_eq_some_iff.1 h
      cases h
      rw [List.map_cons, ← ih hrest]
      dsimp only at he
      split at he
      · cases he
        rfl
      · cases he
  | _ => cases h

/-- The names of entries are those of a map, so each of them is there once. -/
theorem Value.isDistinct_of_entries? {v : Yaml.Value} (hv : v.IsDistinct) {entries : List (String × Yaml.Value)}
    (h : Value.entries? v = some entries) :
    (entries.map Prod.fst).Nodup ∧ ∀ e ∈ entries, e.2.IsDistinct := by
  rw [Value.eq_of_entries? h] at hv
  cases hv with
  | map hkeys hvalues =>
    constructor
    · refine List.pairwise_map.2 ((List.pairwise_map.1 hkeys).imp fun {a b} hdiffers heq => ?_)
      rw [heq, Item.isSame_text.2 rfl] at hdiffers
      cases hdiffers
    · exact fun e he => hvalues _ (List.mem_map_of_mem he)

namespace Document

variable {t : Text} {doc : Document}

theorem field_eq_ok {α : Type} {value : Option Yaml.Value} {read? : Yaml.Value → Option α} {fault : Fault} {a : α}
    (h : field value read? fault = .ok (some a)) : ∃ v, value = some v ∧ read? v = some a := by
  unfold field at h
  split at h
  · cases h
  · cases h
  · next v _ =>
    split at h
    · next hread =>
      cases h
      exact ⟨v, rfl, hread⟩
    · cases h

theorem entries_of_ofPairs {pairs : List (Item × Yaml.Value)} (h : ofPairs pairs = .ok doc) :
    doc.rules = [] ∨ ∃ v, Yaml.Value.get? pairs "rules" = some v ∧ Value.entries? v = some doc.rules := by
  obtain ⟨base, -, h⟩ := exists_of_bind_eq_ok h
  obtain ⟨rules, hrules, h⟩ := exists_of_bind_eq_ok h
  obtain ⟨ignore, -, h⟩ := exists_of_bind_eq_ok h
  obtain ⟨files, -, h⟩ := exists_of_bind_eq_ok h
  obtain ⟨yamlFiles, -, h⟩ := exists_of_bind_eq_ok h
  obtain ⟨locale, -, h⟩ := exists_of_bind_eq_ok h
  cases h
  cases rules with
  | none => exact .inl rfl
  | some rules => exact .inr (field_eq_ok hrules)

theorem pairs_of_ofText (h : ofText t = .ok doc) : ∃ v pairs, Yaml.load t = .ok v ∧
    Yaml.Value.ofLoaded depth v = .map pairs ∧ ofPairs pairs = .ok doc := by
  unfold ofText at h
  split at h
  · next pairs hmap =>
    obtain ⟨v, hv, heq⟩ : ∃ v, Yaml.load t = .ok v ∧ Yaml.Value.ofLoaded depth v = .map pairs := by
      cases hload : Yaml.load t with
      | error f => rw [hload] at hmap; cases hmap
      | ok v => rw [hload] at hmap; exact ⟨v, rfl, Except.ok.inj hmap⟩
    refine ⟨v, pairs, hv, heq, ?_⟩
    cases hdoc : ofPairs pairs with
    | error f => rw [hdoc] at h; cases h
    | ok d => rw [hdoc] at h; exact congrArg Except.ok (Except.ok.inj h)
  · cases h
  · split at h <;> cases h
  · cases h

/-- No document has a rule twice, or a setting of a rule. -/
theorem isDistinct_of_ofText (h : ofText t = .ok doc) :
    (doc.rules.map Prod.fst).Nodup ∧ ∀ e ∈ doc.rules, e.2.IsDistinct := by
  obtain ⟨v, pairs, hload, hpairs, hdoc⟩ := pairs_of_ofText h
  have hdistinct := Yaml.Value.isDistinct_ofLoaded (Yaml.isDistinct_of_load hload) depth
  rw [hpairs] at hdistinct
  cases hdistinct with
  | map hkeys hvalues =>
    rcases entries_of_ofPairs hdoc with hnil | ⟨rules, hget, hentries⟩
    · rw [hnil]
      exact ⟨List.nodup_nil, nofun⟩
    · obtain ⟨p, hp, rfl⟩ := Option.map_eq_some_iff.1 hget
      exact Value.isDistinct_of_entries? (hvalues p (List.mem_of_find?_eq_some hp)) hentries

end Document

/-! ## Settings of a rule -/

namespace Entry

variable {rule : Rule} {pairs : List (Item × Yaml.Value)}

/-- An option is found by its name, which no common key has, and has a value of its own. -/
theorem spec_facts (rule : Rule) : ∀ spec ∈ rule.specs,
    spec? rule (.atom (.text spec.name)) = some spec ∧ isCommon (.atom (.text spec.name)) = false ∧
      rule.defaults.lookup spec.name = some spec.default := by
  obtain r | r | r := rule <;> cases r <;> decide

theorem eq_of_spec? {key : Item} {spec : Rule.OptionSpec} (h : spec? rule key = some spec) :
    key = .atom (.text spec.name) := by
  unfold spec? at h
  split at h
  · rw [eq_of_beq (List.find?_some h :)]
  · cases h

/-- An option has the value that its schema accepts in the settings, and none if they do not set it. -/
theorem lookup_given {vs : OptionValues} (h : given rule pairs = .ok vs) {spec : Rule.OptionSpec}
    (hspec : spec ∈ rule.specs) :
    (vs.lookup spec.name).map some = (Yaml.Value.get? pairs spec.name).map spec.schema.accept? := by
  obtain ⟨hfind, hcommon, -⟩ := spec_facts rule spec hspec
  induction pairs generalizing vs with
  | nil =>
    cases h
    rfl
  | cons p pairs ih =>
    obtain ⟨key, v⟩ := p
    rw [given] at h
    split at h
    · next hkey =>
      rw [ih h, Yaml.Value.get?_cons_of_ne]
      rintro rfl
      rw [hcommon] at hkey
      cases hkey
    · split at h
      · cases h
      · next other hother =>
        split at h
        · cases h
        · next x hx =>
          obtain ⟨rest, hrest, rfl⟩ : ∃ rest, given rule pairs = .ok rest ∧ (other.name, x) :: rest = vs := by
            cases hrest : given rule pairs with
            | error e => rw [hrest] at h; cases h
            | ok rest => rw [hrest] at h; exact ⟨rest, rfl, Except.ok.inj h⟩
          obtain rfl := eq_of_spec? hother
          by_cases hname : spec.name = other.name
          · rw [← hname, hfind] at hother
            obtain rfl := Option.some.inj hother
            rw [List.lookup_cons_self, Yaml.Value.get?_cons_self, Option.map_some, Option.map_some, hx]
          · rw [lookup_cons_of_ne hname, ih hrest, Yaml.Value.get?_cons_of_ne]
            intro heq
            exact hname (Yaml.Atom.text.inj (Item.atom.inj heq)).symm

theorem lookup_completed {vs : OptionValues} {spec : Rule.OptionSpec} (hspec : spec ∈ rule.specs) :
    (completed rule vs).lookup spec.name = some ((vs.lookup spec.name).getD spec.default) := by
  have hmap (l : OptionValues) : (l.map fun e => (e.1, (vs.lookup e.1).getD e.2)).lookup spec.name =
      (l.lookup spec.name).map (vs.lookup spec.name).getD := by
    induction l with
    | nil => rfl
    | cons e l ih =>
      obtain ⟨name, value⟩ := e
      by_cases hname : spec.name = name
      · rw [← hname, List.map_cons, List.lookup_cons_self, List.lookup_cons_self, Option.map_some]
      · rw [List.map_cons, lookup_cons_of_ne hname, ih, lookup_cons_of_ne hname]
  rw [completed, hmap, (spec_facts rule spec hspec).2.2]
  rfl

theorem names_completed (rule : Rule) (vs : OptionValues) :
    (completed rule vs).map Prod.fst = rule.specs.map (·.name) := by
  rw [completed, Rule.defaults, List.map_map, List.map_map]
  rfl

theorem eq_of_configure {ignore : Option PathPatterns} {c : ConfiguredRule} (h : configure rule pairs ignore = .ok c) :
    ∃ level vs, Entry.level pairs = .ok level ∧ given rule pairs = .ok vs ∧
      rule.conflict? (completed rule vs) = none ∧ c = ⟨rule, level, completed rule vs, ignore⟩ := by
  obtain ⟨level, hlevel, h⟩ := exists_of_bind_eq_ok h
  obtain ⟨vs, hgiven, h⟩ := exists_of_bind_eq_ok h
  dsimp only at h
  split at h
  · cases h
  · next hconflict =>
    cases h
    exact ⟨level, vs, hlevel, hgiven, hconflict, rfl⟩

/-- Whether some settings set a key. -/
def Sets (pairs : List (Item × Yaml.Value)) (key : String) : Prop := (Yaml.Value.get? pairs key).isSome

instance : DecidablePred (Sets pairs) := fun _ => inferInstanceAs (Decidable (_ = true))

/-- The settings of a rule over those that an earlier entry has. -/
def merged (base own : List (Item × Yaml.Value)) : List (Item × Yaml.Value) :=
  own.foldl (fun all (k, v) => Yaml.Value.insert all k v) base

section

variable {base own : List (Item × Yaml.Value)} (h : AreDistinct own)

include h

theorem get?_merged (key : String) :
    Yaml.Value.get? (merged base own) key = (Yaml.Value.get? own key).or (Yaml.Value.get? base key) :=
  Yaml.Value.get?_foldl_insert h

theorem level_merged : level (merged base own) = if Sets own "level" then level own else level base := by
  have hcongr {p q : List (Item × Yaml.Value)} (hpq : Yaml.Value.get? p "level" = Yaml.Value.get? q "level") :
      level p = level q := by rw [level, level, hpq]
  split
  · next hsets => exact hcongr (by rw [get?_merged h, Option.or_of_isSome hsets])
  · next hsets => exact hcongr (by rw [get?_merged h, Option.not_isSome_iff_eq_none.1 hsets, Option.none_or])

/-- A file with patterns counts before lines with patterns, wherever it comes from. -/
theorem ignoreSource_merged : ignoreSource (merged base own) =
    if Sets own "ignore-from-file" ∨ Sets own "ignore" ∧ ¬Sets base "ignore-from-file" then ignoreSource own
    else ignoreSource base := by
  have hcongr {p q : List (Item × Yaml.Value)}
      (hfile : Yaml.Value.get? p "ignore-from-file" = Yaml.Value.get? q "ignore-from-file")
      (hlines : ¬Sets q "ignore-from-file" → Yaml.Value.get? p "ignore" = Yaml.Value.get? q "ignore") :
      ignoreSource p = ignoreSource q := by
    unfold ignoreSource
    rw [hfile]
    cases hq : Yaml.Value.get? q "ignore-from-file" with
    | some v => rfl
    | none => rw [hlines (by rw [Sets, hq]; exact Bool.false_ne_true)]
  split
  · next hsets =>
    rcases hsets with hfile | ⟨hlines, hbase⟩
    · exact hcongr (by rw [get?_merged h, Option.or_of_isSome hfile]) fun hnot => absurd hfile hnot
    · refine hcongr ?_ fun _ => by rw [get?_merged h, Option.or_of_isSome hlines]
      rw [get?_merged h, Option.not_isSome_iff_eq_none.1 hbase, Option.or_none]
  · next hsets =>
    have hfile := Option.not_isSome_iff_eq_none.1 fun hfile => hsets (.inl hfile)
    refine hcongr (by rw [get?_merged h, hfile, Option.none_or]) fun hbase => ?_
    have hlines := Option.not_isSome_iff_eq_none.1 fun hlines => hsets (.inr ⟨hlines, hbase⟩)
    rw [get?_merged h, hlines, Option.none_or]

end

end Entry

namespace Loader

variable {L : Loader Id}

/-- The patterns of files to leave alone, read where they come from. -/
def patternsFrom (L : Loader Id) : IgnoreSource → Except Failure (Option PathPatterns)
  | .none => .ok none
  | .lines ls => .ok (some (PathPatterns.ofLines ls))
  | .files names => (L.ignoreFiles names).outcome.map some

/-- A rule as some settings turn it on. -/
structure TurnsOn (L : Loader Id) (rule : Rule) (pairs : List (Item × Yaml.Value)) (c : ConfiguredRule) : Prop where
  options : ∃ vs, Entry.given rule pairs = .ok vs ∧ c.options = Entry.completed rule vs
  rule : c.rule = rule
  level : Entry.level pairs = .ok c.level
  ignore : ∃ source, Entry.ignoreSource pairs = .ok source ∧ L.patternsFrom source = .ok c.ignore

theorem turnsOn_of_configure {rule : Rule} {entry : Yaml.Value} {pairs : List (Item × Yaml.Value)}
    (hon : Entry.isOff entry = false) (hpairs : Entry.settings? entry = some pairs) {r : Option ConfiguredRule}
    (h : (L.configure rule entry).outcome = .ok r) : ∃ c, r = some c ∧ L.TurnsOn rule pairs c := by
  rw [configure, if_neg (by rw [hon]; exact Bool.false_ne_true), hpairs] at h
  dsimp only at h
  obtain ⟨source, hsource, h⟩ := LoggedT.outcome_bind_eq_ok.1 h
  have hsource : Entry.ignoreSource pairs = .ok source := by
    cases hs : Entry.ignoreSource pairs with
    | error e => rw [hs] at hsource; cases hsource
    | ok s => rw [hs] at hsource; exact congrArg Except.ok (Except.ok.inj hsource)
  have hturns : ∀ {ignore : Option PathPatterns} {told : EntryFault → Failure}, L.patternsFrom source = .ok ignore →
      (LoggedT.ofLogged (m := Id) (Logged.ofExcept ((Entry.configure rule pairs ignore).mapError told)) >>=
        fun c => pure (some c)).outcome = .ok r → ∃ c, r = some c ∧ L.TurnsOn rule pairs c := by
    intro ignore told hignore h
    obtain ⟨c, hc, h⟩ := LoggedT.outcome_bind_eq_ok.1 h
    cases h
    cases hconfigure : Entry.configure rule pairs ignore with
    | error e => rw [hconfigure] at hc; cases hc
    | ok c' =>
      rw [hconfigure] at hc
      cases hc
      obtain ⟨level, vs, hlevel, hgiven, -, rfl⟩ := Entry.eq_of_configure hconfigure
      exact ⟨_, rfl, ⟨vs, hgiven, rfl⟩, rfl, hlevel, source, hsource, hignore⟩
  split at h
  · exact hturns rfl h
  · exact hturns rfl h
  · obtain ⟨patterns, hpatterns, h⟩ := LoggedT.outcome_bind_eq_ok.1 h
    exact hturns (congrArg (Except.map some) hpatterns) h

/-- A rule `c` of an entry `own` over an entry `base` that turns `b` on. What `own` sets counts, and
all else is as in `b`; but lines with patterns do not count over a file with patterns. -/
structure Overrides (L : Loader Id) (base own : List (Item × Yaml.Value)) (b c : ConfiguredRule) : Prop where
  rule : c.rule = b.rule
  level : if Entry.Sets own "level" then Entry.level own = .ok c.level else c.level = b.level
  names : c.options.map Prod.fst = b.options.map Prod.fst
  options : ∀ spec ∈ b.rule.specs,
    match Yaml.Value.get? own spec.name with
    | some v => ∃ x, spec.schema.accept? v = some x ∧ c.options.lookup spec.name = some x
    | none => c.options.lookup spec.name = b.options.lookup spec.name
  ignore : if Entry.Sets own "ignore-from-file" ∨ Entry.Sets own "ignore" ∧ ¬Entry.Sets base "ignore-from-file" then
      ∃ source, Entry.ignoreSource own = .ok source ∧ L.patternsFrom source = .ok c.ignore
    else c.ignore = b.ignore

theorem TurnsOn.overrides {rule : Rule} {base own : List (Item × Yaml.Value)} {b c : ConfiguredRule}
    (hown : AreDistinct own) (hb : L.TurnsOn rule base b) (hc : L.TurnsOn rule (Entry.merged base own) c) :
    L.Overrides base own b c := by
  obtain ⟨vb, hvb, hoptb⟩ := hb.options
  obtain ⟨vc, hvc, hoptc⟩ := hc.options
  obtain ⟨sourceb, hsourceb, hb'⟩ := hb.ignore
  obtain ⟨sourcec, hsourcec, hc'⟩ := hc.ignore
  have hlevel := hc.level
  rw [Entry.level_merged hown] at hlevel
  rw [Entry.ignoreSource_merged hown] at hsourcec
  constructor
  case rule => rw [hb.rule, hc.rule]
  case level =>
    split
    · next hsets => rwa [if_pos hsets] at hlevel
    · next hsets =>
      rw [if_neg hsets, hb.level] at hlevel
      exact (Except.ok.inj hlevel).symm
  case names => rw [hoptb, hoptc, Entry.names_completed, Entry.names_completed]
  case options =>
    intro spec hspec
    rw [hb.rule] at hspec
    have hgivenb := Entry.lookup_given hvb hspec
    have hgivenc := Entry.lookup_given hvc hspec
    rw [Entry.get?_merged hown] at hgivenc
    rw [hoptb, hoptc, Entry.lookup_completed hspec, Entry.lookup_completed hspec]
    split
    · next v hv =>
      rw [hv] at hgivenc
      obtain ⟨x, hx, haccepts⟩ := Option.map_eq_some_iff.1 hgivenc
      exact ⟨x, haccepts.symm, by rw [hx, Option.getD_some]⟩
    · next hv =>
      rw [hv, Option.none_or, ← hgivenb] at hgivenc
      rw [Option.map_injective (Option.some_injective _) hgivenc]
  case ignore =>
    split
    · next hsets =>
      rw [if_pos hsets] at hsourcec
      exact ⟨sourcec, hsourcec, hc'⟩
    · next hsets =>
      rw [if_neg hsets, hsourceb] at hsourcec
      rw [← Except.ok.inj hsourcec, hb'] at hc'
      exact (Except.ok.inj hc').symm

/-! ## Configurations -/

variable {entries : List (String × Yaml.Value)} {rules : List (String × Option ConfiguredRule)} {base child : Config}
  {doc : Document} {t : Text} {name : String}

theorem names_of_configureAll (h : (L.configureAll entries).outcome = .ok rules) :
    rules.map Prod.fst = entries.map Prod.fst := by
  induction entries generalizing rules with
  | nil =>
    cases h
    rfl
  | cons e entries ih =>
    obtain ⟨n, entry⟩ := e
    rw [configureAll] at h
    split at h
    · cases h
    · obtain ⟨first, -, h⟩ := LoggedT.outcome_bind_eq_ok.1 h
      obtain ⟨later, hlater, h⟩ := LoggedT.outcome_bind_eq_ok.1 h
      cases h
      rw [List.map_cons, List.map_cons, ih hlater]

/-- Each rule is what its entry makes of it. -/
theorem lookup_of_configureAll (h : (L.configureAll entries).outcome = .ok rules) {entry : Yaml.Value}
    (hentry : entries.lookup name = some entry) :
    ∃ rule r, Rule.ofName? name = some rule ∧ (L.configure rule entry).outcome = .ok r ∧
      rules.lookup name = some r := by
  induction entries generalizing rules with
  | nil => cases hentry
  | cons e entries ih =>
    obtain ⟨n, v⟩ := e
    rw [configureAll] at h
    split at h
    · cases h
    · next rule hrule =>
      obtain ⟨first, hfirst, h⟩ := LoggedT.outcome_bind_eq_ok.1 h
      obtain ⟨later, hlater, h⟩ := LoggedT.outcome_bind_eq_ok.1 h
      cases h
      by_cases hname : name = n
      · subst hname
        rw [List.lookup_cons_self] at hentry ⊢
        cases hentry
        exact ⟨rule, first, hrule, hfirst, rfl⟩
      · rw [lookup_cons_of_ne hname] at hentry ⊢
        exact ih hlater hentry

theorem rules_of_complete (h : (L.complete base doc).outcome = .ok child) :
    child.entries = mergeEntries base.entries doc.rules ∧ (L.configureAll child.entries).outcome = .ok child.rules := by
  have hrules : ∀ {ignore : Option PathPatterns} {yamlFiles : PathPatterns} {locale : Option String},
      (L.configureAll (mergeEntries base.entries doc.rules) >>= fun rules =>
        pure (⟨mergeEntries base.entries doc.rules, rules, ignore, yamlFiles, locale⟩ : Config)).outcome = .ok child →
      child.entries = mergeEntries base.entries doc.rules ∧
        (L.configureAll child.entries).outcome = .ok child.rules := by
    intro ignore yamlFiles locale h
    obtain ⟨rules, hrules, h⟩ := LoggedT.outcome_bind_eq_ok.1 h
    cases h
    exact ⟨rfl, hrules⟩
  unfold complete at h
  dsimp only at h
  split at h
  · cases h
  · split at h
    · obtain ⟨patterns, -, h⟩ := LoggedT.outcome_bind_eq_ok.1 h
      exact hrules h
    · exact hrules h
    · exact hrules h

/-- A configuration is made by its document, of one that says nothing or of the one that it extends. -/
theorem ofText_eq_ok {k : Nat} {c : Config} : (L.ofText k t).outcome = .ok c ↔ ∃ doc, Document.ofText t = .ok doc ∧
    match doc.base.filter (· != ""), k with
    | none, _ => (L.complete nothing doc).outcome = .ok c
    | some _, 0 => False
    | some name, k + 1 => ∃ base, (L.baseText name >>= L.ofText k).outcome = .ok base ∧
        (L.complete base doc).outcome = .ok c := by
  have hdoc {doc : Document} : (LoggedT.ofLogged (m := Id) (Logged.ofExcept (Document.ofText t))).outcome = .ok doc ↔
      Document.ofText t = .ok doc := Iff.rfl
  cases k <;> rw [ofText, LoggedT.outcome_bind_eq_ok]
  case zero =>
    refine exists_congr fun doc => and_congr hdoc ?_
    cases hbase : doc.base.filter (· != "") with
    | none => rfl
    | some name => exact ⟨nofun, nofun⟩
  case succ k =>
    refine exists_congr fun doc => and_congr hdoc ?_
    cases hbase : doc.base.filter (· != "") with
    | none => rfl
    | some name =>
      dsimp only
      constructor
      · intro h
        obtain ⟨text, htext, h⟩ := LoggedT.outcome_bind_eq_ok.1 h
        obtain ⟨base, hload, h⟩ := LoggedT.outcome_bind_eq_ok.1 h
        exact ⟨base, LoggedT.outcome_bind_eq_ok.2 ⟨text, htext, hload⟩, h⟩
      · rintro ⟨base, hload, h⟩
        obtain ⟨text, htext, hload⟩ := LoggedT.outcome_bind_eq_ok.1 hload
        exact LoggedT.outcome_bind_eq_ok.2 ⟨text, htext, LoggedT.outcome_bind_eq_ok.2 ⟨base, hload, h⟩⟩

/-- The rules of a configuration are what its entries make of them. -/
theorem configureAll_of_ofText {k : Nat} {c : Config} (h : (L.ofText k t).outcome = .ok c) :
    (L.configureAll c.entries).outcome = .ok c.rules := by
  obtain ⟨doc, -, h⟩ := ofText_eq_ok.1 h
  split at h
  · exact (rules_of_complete h).2
  · cases h
  · obtain ⟨base, -, h⟩ := h
    exact (rules_of_complete h).2

/-- More room for configurations that are extended changes nothing. -/
theorem ofText_succ {k : Nat} {c : Config} (h : (L.ofText k t).outcome = .ok c) :
    (L.ofText (k + 1) t).outcome = .ok c := by
  induction k generalizing t c with
  | zero =>
    obtain ⟨doc, hdoc, h⟩ := ofText_eq_ok.1 h
    refine ofText_eq_ok.2 ⟨doc, hdoc, ?_⟩
    cases hbase : doc.base.filter (· != "") with
    | none => rwa [hbase] at h
    | some name =>
      rw [hbase] at h
      cases h
  | succ k ih =>
    obtain ⟨doc, hdoc, h⟩ := ofText_eq_ok.1 h
    refine ofText_eq_ok.2 ⟨doc, hdoc, ?_⟩
    cases hbase : doc.base.filter (· != "") with
    | none => rwa [hbase] at h
    | some name =>
      rw [hbase] at h
      obtain ⟨base, hload, hcomplete⟩ := h
      obtain ⟨text, htext, hload⟩ := LoggedT.outcome_bind_eq_ok.1 hload
      exact ⟨base, LoggedT.outcome_bind_eq_ok.2 ⟨text, htext, ih hload⟩, hcomplete⟩

/-- Entries that are the same are made the same rule. -/
theorem lookup_congr_of_configureAll {entries' : List (String × Yaml.Value)}
    {rules' : List (String × Option ConfiguredRule)}
    (h : (L.configureAll entries).outcome = .ok rules) (h' : (L.configureAll entries').outcome = .ok rules')
    (heq : entries.lookup name = entries'.lookup name) : rules.lookup name = rules'.lookup name := by
  cases hentry : entries'.lookup name with
  | none =>
    rw [hentry, lookup_eq_none_iff, ← names_of_configureAll h, ← lookup_eq_none_iff] at heq
    rw [lookup_eq_none_iff, ← names_of_configureAll h', ← lookup_eq_none_iff] at hentry
    rw [heq, hentry]
  | some v =>
    rw [hentry] at heq
    obtain ⟨rule, r, hrule, hr, hlookup⟩ := lookup_of_configureAll h heq
    obtain ⟨rule', r', hrule', hr', hlookup'⟩ := lookup_of_configureAll h' hentry
    obtain rfl : rule = rule' := Option.some.inj (hrule.symm.trans hrule')
    rw [hlookup, hlookup', Except.ok.inj (hr.symm.trans hr')]

/-- The settings of an entry have each key once. -/
theorem areDistinct_of_plainEntry {v : Yaml.Value} (hv : v.IsDistinct) {own : List (Item × Yaml.Value)}
    (h : plainEntry v = .map own) : AreDistinct own := by
  unfold plainEntry at h
  split at h
  · cases h
    exact .nil
  · subst h
    cases hv with
    | map hkeys _ => exact hkeys

theorem mergedEntry_map {v : Yaml.Value} {own given : List (Item × Yaml.Value)} (h : plainEntry v = .map own) :
    mergedEntry (some (.map given)) v = .map (Entry.merged given own) := by
  unfold mergedEntry
  rw [h]
  rfl

/-- What extends a configuration is made of the entries of both. -/
theorem rules_of_extends (hdoc : Document.ofText t = .ok doc) (hname : doc.base = some name) (hne : name ≠ "")
    (hbase : (L.baseText name >>= L.ofContent).outcome = .ok base) (hchild : (L.ofContent t).outcome = .ok child) :
    (L.configureAll base.entries).outcome = .ok base.rules ∧ child.entries = mergeEntries base.entries doc.rules ∧
      (L.configureAll child.entries).outcome = .ok child.rules := by
  obtain ⟨text, htext, hbase⟩ := LoggedT.outcome_bind_eq_ok.1 hbase
  obtain ⟨doc', hdoc', h⟩ := ofText_eq_ok.1 (show (L.ofText (199 + 1) t).outcome = .ok child from hchild)
  obtain rfl : doc = doc' := Except.ok.inj (hdoc.symm.trans hdoc')
  have hfilter : doc.base.filter (· != "") = some name := by simp [hname, hne]
  rw [hfilter] at h
  obtain ⟨base', hload, hcomplete⟩ := h
  obtain ⟨text', htext', hload⟩ := LoggedT.outcome_bind_eq_ok.1 hload
  obtain rfl : text = text' := Except.ok.inj (htext.symm.trans htext')
  obtain rfl : base = base' := Except.ok.inj (hbase.symm.trans (ofText_succ hload))
  exact ⟨configureAll_of_ofText hbase, rules_of_complete hcomplete⟩

/-! ## Main theorem -/

/-- A configuration that extends another has the rules of that one in their order and then its own new
ones. The rules that it does not mention stay, and a map over a map overrides it key by key. -/
theorem ofContent_extends (hdoc : Document.ofText t = .ok doc) (hname : doc.base = some name) (hne : name ≠ "")
    (hbase : (L.baseText name >>= L.ofContent).outcome = .ok base) (hchild : (L.ofContent t).outcome = .ok child) :
    child.rules.map Prod.fst = base.rules.map Prod.fst ++
        (doc.rules.map Prod.fst).filter (fun n => !(base.rules.map Prod.fst).contains n) ∧
      (∀ n, n ∉ doc.rules.map Prod.fst → child.rules.lookup n = base.rules.lookup n) ∧
      ∀ n v own given, (n, v) ∈ doc.rules → plainEntry v = .map own → base.entries.lookup n = some (.map given) →
        ∃ b c, base.rules.lookup n = some (some b) ∧ child.rules.lookup n = some (some c) ∧
          L.Overrides given own b c := by
  obtain ⟨hnodup, hdistinct⟩ := Document.isDistinct_of_ofText hdoc
  obtain ⟨hbaserules, hentries, hrules⟩ := rules_of_extends hdoc hname hne hbase hchild
  have hlookup := @lookup_mergeEntries base.entries doc.rules hnodup
  rw [← hentries] at hlookup
  refine ⟨?_, fun n hn => ?_, fun n v own given hv hown hgiven => ?_⟩
  · rw [names_of_configureAll hrules, names_of_configureAll hbaserules, hentries, names_mergeEntries hnodup]
  · have hentry := hlookup n
    rw [lookup_eq_none_iff.2 hn] at hentry
    exact lookup_congr_of_configureAll hrules hbaserules hentry
  · have hentry := hlookup n
    rw [lookup_eq_some_of_mem hnodup hv, hgiven] at hentry
    dsimp only at hentry
    rw [mergedEntry_map hown] at hentry
    obtain ⟨rule, r, hrule, hr, hrlookup⟩ := lookup_of_configureAll hrules hentry
    obtain ⟨rule', r', hrule', hr', hrlookup'⟩ := lookup_of_configureAll hbaserules hgiven
    obtain rfl : rule = rule' := Option.some.inj (hrule.symm.trans hrule')
    obtain ⟨c, rfl, hc⟩ := turnsOn_of_configure rfl rfl hr
    obtain ⟨b, rfl, hb⟩ := turnsOn_of_configure rfl rfl hr'
    exact ⟨b, c, hrlookup', hrlookup, hb.overrides (areDistinct_of_plainEntry (hdistinct _ hv) hown) hc⟩

/-- A configuration whose rules leave files alone, by lines and by a file. -/
def earlier : Text :=
  "rules:\n  colons: {level: warning, max-spaces-after: 2, ignore: a.yaml}\n  commas: {ignore-from-file: list}\n".toList

/-- A configuration that gives lines for both rules. -/
def later : Text :=
  "extends: base.yaml\nrules:\n  colons: {max-spaces-before: 1, ignore: b.yaml}\n  commas: {ignore: b.yaml}\n".toList

/-- A loader that finds the earlier configuration and its file. -/
def paired : Loader Id where
  host := Folder.host ⟨[(["base.yaml"], .file (Text.Utf8.encode earlier)),
    (["list"], .file (Text.Utf8.encode "a.yaml\n".toList))], []⟩
  asked := pure none
  bundled := ""

def pattern (s : String) : PathPatterns := PathPatterns.ofLines [s.toList]

def laterColons : ConfiguredRule where
  rule := .lexeme .colons
  level := .warning
  options := [("max-spaces-before", .int 1), ("max-spaces-after", .int 2)]
  ignore := some (pattern "b.yaml")

def laterCommas : ConfiguredRule where
  rule := .lexeme .commas
  level := .error
  options := [("max-spaces-before", .int 0), ("min-spaces-after", .int 1), ("max-spaces-after", .int 1)]
  ignore := some (pattern "a.yaml")

def mapOf? : Yaml.Value → Option (List (Item × Yaml.Value))
  | .map pairs => some pairs
  | _ => none

theorem eq_of_mapOf? {v : Yaml.Value} {pairs : List (Item × Yaml.Value)} (h : mapOf? v = some pairs) :
    v = .map pairs := by
  cases v with
  | map _ => rw [Option.some.inj h]
  | _ => cases h

/-- Where the patterns of a rule come from that a document has as a map over another map. -/
def ownSource? (doc : Document) (base : Config) (n : String) : Option IgnoreSource :=
  (doc.rules.lookup n).bind fun v => (mapOf? (plainEntry v)).bind fun own =>
    (base.entries.lookup n).bind fun w => (mapOf? w).bind fun _ => (Entry.ignoreSource own).toOption

theorem eq_of_ownSource? {n : String} {source : IgnoreSource} (h : ownSource? doc base n = some source) :
    ∃ v own given, (n, v) ∈ doc.rules ∧ plainEntry v = .map own ∧ base.entries.lookup n = some (.map given) ∧
      Entry.ignoreSource own = .ok source := by
  obtain ⟨v, hv, h⟩ := Option.bind_eq_some_iff.1 h
  obtain ⟨own, hown, h⟩ := Option.bind_eq_some_iff.1 h
  obtain ⟨w, hw, h⟩ := Option.bind_eq_some_iff.1 h
  obtain ⟨given, hgiven, h⟩ := Option.bind_eq_some_iff.1 h
  obtain ⟨before, after, hrules, -⟩ := List.lookup_eq_some_iff.1 hv
  refine ⟨v, own, given, by simp [hrules], eq_of_mapOf? hown, by rw [hw, eq_of_mapOf? hgiven], ?_⟩
  cases hsource : Entry.ignoreSource own with
  | error e => rw [hsource] at h; cases h
  | ok s => rw [hsource] at h; exact congrArg Except.ok (Option.some.inj h)

/-- The document of the later configuration, the earlier configuration, and the later one. -/
def parts? : Option (Document × Config × Config) :=
  match Document.ofText later, (paired.baseText "base.yaml" >>= paired.ofContent).outcome,
    (paired.ofContent later).outcome with
  | .ok doc, .ok base, .ok child => some (doc, base, child)
  | _, _, _ => none

theorem exists_parts : ∃ doc base child, Document.ofText later = .ok doc ∧ doc.base = some "base.yaml" ∧
    (paired.baseText "base.yaml" >>= paired.ofContent).outcome = .ok base ∧
    (paired.ofContent later).outcome = .ok child ∧
    ownSource? doc base "colons" = some (.lines ["b.yaml".toList]) ∧
    ownSource? doc base "commas" = some (.lines ["b.yaml".toList]) ∧
    child.rules = [("colons", some laterColons), ("commas", some laterCommas)] := by
  have hparts : parts?.map (fun (doc, base, child) =>
      (doc.base, ["colons", "commas"].map (ownSource? doc base), child.rules)) =
      some (some "base.yaml", [some (.lines ["b.yaml".toList]), some (.lines ["b.yaml".toList])],
        [("colons", some laterColons), ("commas", some laterCommas)]) := by decide +kernel
  obtain ⟨⟨doc, base, child⟩, h, heq⟩ := Option.map_eq_some_iff.1 hparts
  obtain ⟨hname, hrest⟩ := Prod.mk.inj heq
  obtain ⟨hsources, hrules⟩ := Prod.mk.inj hrest
  obtain ⟨hcolons, hrest⟩ := List.cons.inj hsources
  obtain ⟨hcommas, -⟩ := List.cons.inj hrest
  unfold parts? at h
  split at h
  · next hdoc hbase hchild =>
    cases h
    exact ⟨doc, base, child, hdoc, hname, hbase, hchild, hcolons, hcommas, hrules⟩
  · cases h

/-- The level and one option are those of the earlier configuration, the other option and the
patterns those of the later one. -/
theorem ofContent_extends_colons : ∃ doc base child v own given,
    Document.ofText later = .ok doc ∧ doc.base = some "base.yaml" ∧
      (paired.baseText "base.yaml" >>= paired.ofContent).outcome = .ok base ∧
      (paired.ofContent later).outcome = .ok child ∧ ("colons", v) ∈ doc.rules ∧ plainEntry v = .map own ∧
      base.entries.lookup "colons" = some (.map given) ∧
      ∃ b, base.rules.lookup "colons" = some (some b) ∧ child.rules.lookup "colons" = some (some laterColons) ∧
        paired.Overrides given own b laterColons := by
  obtain ⟨doc, base, child, hdoc, hname, hbase, hchild, hcolons, -, hrules⟩ := exists_parts
  obtain ⟨v, own, given, hv, hown, hgiven, -⟩ := eq_of_ownSource? hcolons
  refine ⟨doc, base, child, v, own, given, hdoc, hname, hbase, hchild, hv, hown, hgiven, ?_⟩
  obtain ⟨-, -, h⟩ := ofContent_extends hdoc hname (by decide) hbase hchild
  obtain ⟨b, c, hb, hc, hoverrides⟩ := h "colons" v own given hv hown hgiven
  have hlater : child.rules.lookup "colons" = some (some laterColons) := by rw [hrules]; rfl
  obtain rfl : laterColons = c := Option.some.inj (Option.some.inj (hlater.symm.trans hc))
  exact ⟨b, hb, hlater, hoverrides⟩

/-- Lines with patterns do not count over a file with patterns. -/
theorem not_overridden_of_file :
    ¬∀ (L : Loader Id) (t : Text) (doc : Document) (name : String) (base child : Config),
      Document.ofText t = .ok doc → doc.base = some name → name ≠ "" →
      (L.baseText name >>= L.ofContent).outcome = .ok base → (L.ofContent t).outcome = .ok child →
      ∀ n v own given c source, (n, v) ∈ doc.rules → plainEntry v = .map own →
        base.entries.lookup n = some (.map given) → child.rules.lookup n = some (some c) →
        Entry.ignoreSource own = .ok source → source ≠ .none → L.patternsFrom source = .ok c.ignore := by
  intro hclaim
  obtain ⟨doc, base, child, hdoc, hname, hbase, hchild, -, hcommas, hrules⟩ := exists_parts
  obtain ⟨v, own, given, hv, hown, hgiven, hsource⟩ := eq_of_ownSource? hcommas
  have hlater : child.rules.lookup "commas" = some (some laterCommas) := by rw [hrules]; rfl
  have hpatterns := hclaim paired later doc "base.yaml" base child hdoc hname (by decide) hbase hchild
    "commas" v own given laterCommas _ hv hown hgiven hlater hsource nofun
  have hdiffers : some (pattern "b.yaml") ≠ laterCommas.ignore := by decide
  exact hdiffers (Except.ok.inj hpatterns)

end Loader

end YamlStyle.Config
