import YamlStyle.Proofs.Config.Entries
import YamlStyle.Proofs.Journal

/-!
# Switches in either spelling

A rule is turned on by `true` or `enable`, and off by `false` or `disable`. A configuration is the same in
whatever spelling the switches are that stand in it and in those that it extends (`ofContent_respells`),
but for one case. Over settings that the extended configuration has for a rule, `enable` keeps them and
`true` drops them (`lookup_of_switch`).
-/

namespace YamlStyle.Config

open Yaml (Item Value AreDistinct)

/-- Whether an entry turns its rule on and says no more. -/
def IsOn (entry : Value) : Prop := entry = .bool true ∨ entry = .text "enable"

/-- One entry in the place of another: the same, or the same switch in either spelling. -/
inductive Respells : Value → Value → Prop
  | same (v : Value) : Respells v v
  | off {v v' : Value} (hv : IsOff v) (hv' : IsOff v') : Respells v v'
  | on {v v' : Value} (hv : IsOn v) (hv' : IsOn v') : Respells v v'

/-- One entry of a document in the place of another, where `entries` are those that the document extends.
A switch that turns a rule on may be respelled if there are no settings for the rule. -/
structure RespellsOver (entries : List (String × Value)) (e e' : String × Value) : Prop where
  name : e'.1 = e.1
  value : Respells e.2 e'.2
  bare : e'.2 ≠ e.2 → IsOn e.2 → ∀ pairs, entries.lookup e.1 = some (.map pairs) → pairs = []

/-- Whether an entry takes its patterns from some files. -/
def Asks (entry : Value) (names : List String) : Prop :=
  ∃ pairs v, entry = .map pairs ∧ Yaml.Value.get? pairs "ignore-from-file" = some v ∧ Value.namesOf? v = some names

def Document.Asks (doc : Document) (names : List String) : Prop :=
  doc.ignoreFromFile = some names ∨ ∃ e ∈ doc.rules, Config.Asks e.2 names

namespace Loader

/-- Whether two loaders find the same patterns in some files. -/
def FindsSame (L L' : Loader Id) (names : List String) : Prop :=
  (L'.ignoreFiles names).outcome = (L.ignoreFiles names).outcome

/-- One document in the place of another, with some switches in the other spelling. -/
structure RespellsIn (L L' : Loader Id) (entries : List (String × Value)) (doc doc' : Document) : Prop where
  rules : List.Forall₂ (RespellsOver entries) doc.rules doc'.rules
  others : doc' = { doc with rules := doc'.rules }
  files : ∀ names, doc.Asks names → L.FindsSame L' names

/-- One configuration in the place of another, where it and all that it extends have some switches in the
other spelling. -/
inductive RespellsText (L L' : Loader Id) : Text → Text → Prop
  | root {t t' : Text} {doc doc' : Document} (ofText : Document.ofText t = .ok doc)
    (ofText' : Document.ofText t' = .ok doc') (first : doc.base.filter (· != "") = none)
    (respells : L.RespellsIn L' [] doc doc') : RespellsText L L' t t'
  | extending {t t' u u' : Text} {doc doc' : Document} {name : String} {base : Config}
    (ofText : Document.ofText t = .ok doc) (ofText' : Document.ofText t' = .ok doc')
    (named : doc.base.filter (· != "") = some name) (found : (L.baseText name).outcome = .ok u)
    (found' : (L'.baseText name).outcome = .ok u') (loaded : (L.ofContent u).outcome = .ok base)
    (below : RespellsText L L' u u') (respells : L.RespellsIn L' base.entries doc doc') : RespellsText L L' t t'

end Loader

/-! ## Entries -/

variable {v v' : Value} {pairs base own : List (Item × Value)} {names : List String} {below below' : Option Value}

/-- Entries that come to the same: equal ones, and those that turn a rule on or off and set nothing. -/
inductive Alike : Value → Value → Prop
  | same (v : Value) : Alike v v
  | off {v v' : Value} (hv : IsOff v) (hv' : IsOff v') : Alike v v'
  | on {v v' : Value} (hv : HasSettings v []) (hv' : HasSettings v' []) : Alike v v'

/-- Whether there are no settings in an entry. -/
def IsBare (below : Option Value) : Prop := ∀ pairs, below = some (.map pairs) → pairs = []

theorem foldl_insert_eq_append (h : AreDistinct (base ++ own)) :
    own.foldl (fun all (k, v) => Yaml.Value.insert all k v) base = base ++ own := by
  induction own generalizing base with
  | nil => exact (List.append_nil base).symm
  | cons p own ih =>
    obtain ⟨key, v⟩ := p
    have hnone : Yaml.Value.lookup? base key = none := by
      rw [Yaml.Value.lookup?, Option.map_eq_none_iff, List.find?_eq_none]
      intro q hq hsame
      rw [(List.pairwise_append.1 h).2.2 q hq _ (List.mem_cons_self ..)] at hsame
      cases hsame
    have hinsert : Yaml.Value.insert base key v = base ++ [(key, v)] := by
      rw [Yaml.Value.insert, hnone]
      rfl
    rw [List.foldl_cons]
    dsimp only
    rw [hinsert, ih (by rwa [List.append_assoc]), List.append_assoc]
    rfl

/-- Settings over none are the settings. -/
theorem merged_nil (h : AreDistinct own) : Entry.merged [] own = own := foldl_insert_eq_append h

/-- An entry over one without settings is as it is by itself. -/
theorem mergedEntry_of_isBare (hv : v.IsDistinct) (h : IsBare below) : mergedEntry below v = plainEntry v := by
  unfold mergedEntry
  split
  · next base own hown =>
    obtain rfl := h base rfl
    rw [hown]
    exact congrArg Value.map (merged_nil (Loader.areDistinct_of_plainEntry hv hown))
  · rfl

theorem IsOff.ne_map (h : IsOff v) : v ≠ .map pairs := by
  obtain rfl | rfl := h <;> nofun

theorem IsOff.plainEntry_eq (h : IsOff v) : plainEntry v = v := by
  obtain rfl | rfl := h <;> rfl

/-- An entry that turns its rule off counts whatever it is over. -/
theorem IsOff.mergedEntry_eq (h : IsOff v) : mergedEntry below v = v := by
  unfold mergedEntry
  split
  · next hown => exact absurd (h.plainEntry_eq.symm.trans hown) h.ne_map
  · exact h.plainEntry_eq

theorem IsOn.isDistinct (h : IsOn v) : v.IsDistinct := by
  obtain rfl | rfl := h <;> exact .atom _

theorem IsOn.hasSettings_plainEntry (h : IsOn v) : HasSettings (plainEntry v) [] := by
  obtain rfl | rfl := h
  · exact .true
  · exact .map []

theorem HasSettings.isBare (h : HasSettings v []) : IsBare (some v) := by
  rintro pairs ⟨⟩
  cases h
  rfl

theorem IsOff.isBare (h : IsOff v) : IsBare (some v) := fun _ heq => absurd (Option.some.inj heq) h.ne_map

theorem Alike.isBare (h : Option.Rel Alike below below') (hbare : IsBare below) : IsBare below' := by
  cases h with
  | none => exact hbare
  | some h =>
    cases h with
    | same => exact hbare
    | off _ hv' => exact hv'.isBare
    | on _ hv' => exact hv'.isBare

/-- An entry over entries that come to the same comes to the same. -/
theorem Alike.mergedEntry_same (h : Option.Rel Alike below below') (hv : v.IsDistinct) :
    Alike (mergedEntry below v) (mergedEntry below' v) := by
  -- entries that differ have no settings, and what lies over them counts alone
  have hbare (hbelow : IsBare below) : Alike (mergedEntry below v) (mergedEntry below' v) := by
    rw [mergedEntry_of_isBare hv hbelow, mergedEntry_of_isBare hv (Alike.isBare h hbelow)]
    exact .same _
  cases h with
  | none => exact .same _
  | some h =>
    cases h with
    | same => exact .same _
    | off hw _ => exact hbare hw.isBare
    | on hw _ => exact hbare hw.isBare

theorem Alike.mergedEntry (h : Option.Rel Alike below below') (hv : v.IsDistinct) (hrespells : Respells v v')
    (hbare : v' ≠ v → IsOn v → IsBare below) : Alike (mergedEntry below v) (mergedEntry below' v') := by
  rcases eq_or_ne v' v with rfl | hne
  · exact Alike.mergedEntry_same h hv
  · cases hrespells with
    | same => exact absurd rfl hne
    | off hv hv' =>
      rw [hv.mergedEntry_eq, hv'.mergedEntry_eq]
      exact .off hv hv'
    | on hon hon' =>
      have hbelow := hbare hne hon
      rw [mergedEntry_of_isBare hv hbelow, mergedEntry_of_isBare hon'.isDistinct (Alike.isBare h hbelow)]
      exact .on hon.hasSettings_plainEntry hon'.hasSettings_plainEntry

/-- An entry over another takes its patterns from files that one of them has. -/
theorem Asks.of_mergedEntry (hv : v.IsDistinct) (h : Asks (mergedEntry below v) names) :
    Asks v names ∨ ∃ w, below = some w ∧ Asks w names := by
  have hplain {pairs : List (Item × Value)} (hpairs : plainEntry v = .map pairs) {w : Value}
      (hget : Yaml.Value.get? pairs "ignore-from-file" = some w) : v = .map pairs := by
    unfold plainEntry at hpairs
    split at hpairs
    · cases hpairs
      cases hget
    · exact hpairs
  obtain ⟨pairs, w, hmerged, hget, hnames⟩ := h
  unfold Config.mergedEntry at hmerged
  split at hmerged
  · next base own hown =>
    cases hmerged
    rw [Yaml.Value.get?_foldl_insert (Loader.areDistinct_of_plainEntry hv hown), Option.or_eq_some_iff] at hget
    rcases hget with hget | ⟨-, hget⟩
    · exact .inl ⟨own, w, hplain hown hget, hget, hnames⟩
    · exact .inr ⟨_, rfl, base, w, rfl, hget, hnames⟩
  · exact .inl ⟨pairs, w, hplain hmerged hget, hget, hnames⟩

namespace Loader

variable {L L' : Loader Id} {rule : Rule}

/-- Entries of two configurations that come to the same. -/
structure AlikeIn (L L' : Loader Id) (e e' : String × Value) : Prop where
  name : e'.1 = e.1
  value : Alike e.2 e'.2
  files : ∀ names, Asks e.2 names → L.FindsSame L' names

theorem asks_of_ignoreSource (h : Entry.ignoreSource pairs = .ok (.files names)) : Asks (.map pairs) names := by
  unfold Entry.ignoreSource at h
  split at h
  · next v hget =>
    split at h
    · next hnames =>
      cases h
      exact ⟨pairs, v, rfl, hget, hnames⟩
    · cases h
  · split at h <;> cases h
  · cases h

theorem patternsFrom_congr {source : IgnoreSource} (h : ∀ names, source = .files names → L.FindsSame L' names) :
    L'.patternsFrom source = L.patternsFrom source := by
  cases source with
  | none => rfl
  | lines ls => rfl
  | files names => exact congrArg (Except.map some) (h names rfl)

theorem configure_alike (h : Alike v v') (hfiles : ∀ names, Asks v names → L.FindsSame L' names) :
    (L'.configure rule v').outcome = (L.configure rule v).outcome := by
  cases h with
  | same =>
    rw [outcome_configure, outcome_configure]
    split
    · rfl
    · cases hsettings : Entry.settings? v with
      | none => rfl
      | some pairs =>
        dsimp only
        cases hsource : Entry.ignoreSource pairs with
        | error f => rfl
        | ok source =>
          have hpatterns : L'.patternsFrom source = L.patternsFrom source := by
            refine patternsFrom_congr fun names hnames => hfiles names ?_
            subst hnames
            cases settings?_eq_some.1 hsettings with
            | true | enable => cases hsource
            | map => exact asks_of_ignoreSource hsource
          change L'.patternsFrom source >>= _ = L.patternsFrom source >>= _
          rw [hpatterns]
  | off hv hv' => rw [configure_of_isOff hv, configure_of_isOff hv']
  | on hv hv' => rw [configure_of_settings hv rfl, configure_of_settings hv' rfl]

/-! ## Configurations -/

variable {entries entries' rules rules' : List (String × Value)} {name : String} {t t' : Text} {c : Config}

theorem lookup_alike (h : List.Forall₂ (L.AlikeIn L') entries entries') (n : String) :
    (entries.lookup n = none ∧ entries'.lookup n = none) ∨
      ∃ w w', entries.lookup n = some w ∧ entries'.lookup n = some w' ∧ L.AlikeIn L' (n, w) (n, w') := by
  induction h with
  | nil => exact .inl ⟨rfl, rfl⟩
  | @cons e e' _ _ he _ ih =>
    obtain ⟨m, v⟩ := e
    obtain ⟨m', v'⟩ := e'
    obtain rfl : m' = m := he.name
    by_cases hn : n = m'
    · subst hn
      exact .inr ⟨v, v', List.lookup_cons_self, List.lookup_cons_self, he⟩
    · rwa [lookup_cons_of_ne hn, lookup_cons_of_ne hn]

/-- One entry of a document is put together with entries that come to the same. -/
theorem alike_mergeEntry (h : List.Forall₂ (L.AlikeIn L') entries entries') (hv : v.IsDistinct)
    (hrespells : RespellsOver entries (name, v) (name, v'))
    (hfiles : ∀ names, Asks v names → L.FindsSame L' names) :
    List.Forall₂ (L.AlikeIn L') (mergeEntry entries name v) (mergeEntry entries' name v') := by
  have hmerged : L.AlikeIn L' (name, mergedEntry (entries.lookup name) v)
      (name, mergedEntry (entries'.lookup name) v') := by
    refine ⟨rfl, Alike.mergedEntry ?_ hv hrespells.value hrespells.bare, fun names hasks => ?_⟩
    · rcases lookup_alike h name with ⟨hnone, hnone'⟩ | ⟨w, w', hw, hw', he⟩
      · rw [hnone, hnone']
        exact .none
      · rw [hw, hw']
        exact .some he.value
    · rcases Asks.of_mergedEntry hv hasks with hown | ⟨w, hw, hbelow⟩
      · exact hfiles names hown
      · rcases lookup_alike h name with ⟨hnone, -⟩ | ⟨_, _, hsome, -, he⟩
        · cases hw.symm.trans hnone
        · cases hw.symm.trans hsome
          exact he.files names hbelow
  have hsome : (entries'.lookup name).isSome = (entries.lookup name).isSome := by
    rcases lookup_alike h name with ⟨hnone, hnone'⟩ | ⟨w, w', hw, hw', -⟩
    · rw [hnone, hnone']
    · rw [hw, hw']
      rfl
  rw [mergeEntry_eq, mergeEntry_eq, hsome]
  -- the rule keeps its place if it has one, and comes last otherwise
  split
  · refine List.rel_map (fun e e' he => ?_) h
    rw [he.name]
    split
    · exact hmerged
    · exact he
  · exact List.rel_append h (.cons hmerged .nil)

theorem alike_mergeEntries (h : List.Forall₂ (L.AlikeIn L') entries entries')
    (hnodup : (rules.map Prod.fst).Nodup) (hdistinct : ∀ e ∈ rules, e.2.IsDistinct)
    (hrules : List.Forall₂ (RespellsOver entries) rules rules')
    (hfiles : ∀ e ∈ rules, ∀ names, Asks e.2 names → L.FindsSame L' names) :
    List.Forall₂ (L.AlikeIn L') (mergeEntries entries rules) (mergeEntries entries' rules') := by
  induction rules generalizing entries entries' rules' with
  | nil =>
    cases hrules
    exact h
  | cons e rules ih =>
    obtain ⟨name, v⟩ := e
    cases hrules with
    | @cons _ e' _ rules' he hrules =>
      obtain ⟨name', v'⟩ := e'
      obtain rfl : name' = name := he.name
      obtain ⟨hfirst, hnodup⟩ := List.nodup_cons.1 hnodup
      obtain ⟨hv, hdistinct⟩ := List.forall_mem_cons.1 hdistinct
      obtain ⟨hfilesv, hfiles⟩ := List.forall_mem_cons.1 hfiles
      -- what is put in for one rule does not change what the later ones are over
      have hlater : List.Forall₂ (RespellsOver (mergeEntry entries name' v)) rules rules' := by
        refine List.forall₂_iff_zip.2 ⟨hrules.length_eq, fun {x y} hxy => ?_⟩
        have hx := List.forall₂_zip hrules hxy
        refine ⟨hx.name, hx.value, ?_⟩
        have hne : x.1 ≠ name' := by
          rintro rfl
          exact hfirst (List.mem_map.2 ⟨x, (List.of_mem_zip hxy).1, rfl⟩)
        rw [lookup_mergeEntry, if_neg hne]
        exact hx.bare
      change List.Forall₂ _ (mergeEntries (mergeEntry entries name' v) rules)
        (mergeEntries (mergeEntry entries' name' v') rules')
      exact ih (alike_mergeEntry h hv he hfilesv) hnodup hdistinct hlater hfiles

theorem configureAll_alike (h : List.Forall₂ (L.AlikeIn L') entries entries') :
    (L'.configureAll entries').outcome = (L.configureAll entries).outcome := by
  induction h with
  | nil => rfl
  | @cons e e' _ _ he _ ih =>
    obtain ⟨m, v⟩ := e
    obtain ⟨m', v'⟩ := e'
    obtain rfl : m' = m := he.name
    rw [configureAll, configureAll]
    split
    · rfl
    · rw [LoggedT.outcome_bind, LoggedT.outcome_bind, configure_alike he.value he.files]
      refine congrArg _ (funext fun first => ?_)
      rw [LoggedT.outcome_bind, LoggedT.outcome_bind, ih]

/-- The patterns of files to leave alone that a document has itself, or that it extends. -/
def patternsOver (L : Loader Id) (base : Config) (doc : Document) : Except Failure (Option PathPatterns) :=
  match doc.ignoreFromFile, doc.ignore with
  | some names, _ => (L.ignoreFiles names).outcome.map some
  | none, some ls => .ok (some (PathPatterns.ofLines ls))
  | none, none => .ok base.ignore

variable {base : Config} {doc doc' : Document}

theorem outcome_complete (L : Loader Id) (base : Config) (doc : Document) : (L.complete base doc).outcome =
    if doc.ignore.isSome && doc.ignoreFromFile.isSome then .error (.fault .bothIgnores)
    else do
      let ignore ← L.patternsOver base doc
      let rules ← (L.configureAll (mergeEntries base.entries doc.rules)).outcome
      return ⟨mergeEntries base.entries doc.rules, rules, ignore,
        (doc.yamlFiles.map PathPatterns.ofLines).getD base.yamlFiles, doc.locale <|> base.locale⟩ := by
  rw [complete]
  dsimp only
  split
  · rfl
  · have hrules (ignore : Option PathPatterns) (yamlFiles : PathPatterns) (locale : Option String) :
        (L.configureAll (mergeEntries base.entries doc.rules) >>= fun rules =>
          pure (⟨mergeEntries base.entries doc.rules, rules, ignore, yamlFiles, locale⟩ : Config)).outcome =
        (L.configureAll (mergeEntries base.entries doc.rules)).outcome >>= fun rules =>
          pure ⟨mergeEntries base.entries doc.rules, rules, ignore, yamlFiles, locale⟩ := LoggedT.outcome_bind _ _
    unfold patternsOver
    cases doc.ignoreFromFile with
    | some names =>
      dsimp only
      rw [LoggedT.outcome_bind]
      cases (L.ignoreFiles names).outcome with
      | error e => rfl
      | ok patterns => exact hrules (some patterns) _ _
    | none =>
      cases doc.ignore with
      | some ls => exact hrules (some (PathPatterns.ofLines ls)) _ _
      | none => exact hrules base.ignore _ _

/-- What comes to the same is extended by what comes to the same. -/
theorem complete_alike (h : List.Forall₂ (L.AlikeIn L') base.entries entries')
    (hdoc : Document.ofText t = .ok doc) (hrespells : L.RespellsIn L' base.entries doc doc')
    (hc : (L.complete base doc).outcome = .ok c) :
    ∃ entries, List.Forall₂ (L.AlikeIn L') c.entries entries ∧
      (L'.complete { base with entries := entries' } doc').outcome = .ok { c with entries := entries } := by
  obtain ⟨hnodup, hdistinct⟩ := Document.isDistinct_of_ofText hdoc
  have hentries := alike_mergeEntries h hnodup hdistinct hrespells.rules
    fun e he names hasks => hrespells.files names (.inr ⟨e, he, hasks⟩)
  refine ⟨mergeEntries entries' doc'.rules, by rwa [(rules_of_complete hc).1], ?_⟩
  have hpatterns : L'.patternsOver { base with entries := entries' } { doc with rules := doc'.rules } =
      L.patternsOver base doc := by
    unfold patternsOver
    dsimp only
    cases hnames : doc.ignoreFromFile with
    | some names => exact congrArg (Except.map some) (hrespells.files names (.inl hnames))
    | none => cases doc.ignore <;> rfl
  rw [hrespells.others, outcome_complete]
  rw [outcome_complete] at hc
  dsimp only
  split at hc
  · cases hc
  · next hboth =>
    rw [if_neg hboth, hpatterns, configureAll_alike hentries]
    obtain ⟨ignore, hignore, hc⟩ := exists_of_bind_eq_ok hc
    obtain ⟨rules, hrules, hc⟩ := exists_of_bind_eq_ok hc
    rw [hignore, hrules]
    cases hc
    rfl

/-- More room for configurations that are extended changes nothing. -/
theorem ofText_le {k l : Nat} (hkl : k ≤ l) (h : (L.ofText k t).outcome = .ok c) : (L.ofText l t).outcome = .ok c := by
  induction hkl with
  | refl => exact h
  | step _ ih => exact ofText_succ ih

theorem ofText_respells (h : L.RespellsText L' t t') {k : Nat} (hk : k ≤ longestChain)
    (hc : (L.ofText k t).outcome = .ok c) :
    ∃ entries, List.Forall₂ (L.AlikeIn L') c.entries entries ∧
      (L'.ofText k t').outcome = .ok { c with entries := entries } := by
  have hbase {doc doc' : Document} {entries : List (String × Value)} (h : L.RespellsIn L' entries doc doc') :
      doc'.base = doc.base := by rw [h.others]
  -- along the chain: the entries of the extended configuration come to the same, and so do those over them
  induction h generalizing k c with
  | root hdoc hdoc' hfirst hrespells =>
    obtain ⟨doc, hsame, hc⟩ := ofText_eq_ok.1 hc
    obtain rfl := Except.ok.inj (hdoc.symm.trans hsame)
    rw [hfirst] at hc
    have hnothing : List.Forall₂ (AlikeIn L L') nothing.entries [] := .nil
    obtain ⟨entries, halike, hcomplete⟩ := complete_alike hnothing hdoc hrespells hc
    refine ⟨entries, halike, ofText_eq_ok.2 ⟨_, hdoc', ?_⟩⟩
    rwa [hbase hrespells, hfirst]
  | extending hdoc hdoc' hnamed hfound hfound' hloaded _ hrespells ih =>
    obtain ⟨doc, hsame, hc⟩ := ofText_eq_ok.1 hc
    obtain rfl := Except.ok.inj (hdoc.symm.trans hsame)
    rw [hnamed] at hc
    cases k with
    | zero => cases hc
    | succ k =>
      obtain ⟨base, hload, hc⟩ := hc
      obtain ⟨u, hu, hload⟩ := LoggedT.outcome_bind_eq_ok.1 hload
      obtain rfl := Except.ok.inj (hfound.symm.trans hu)
      -- the relation speaks of the extended configuration as it is with all the room there is
      have hk' : k ≤ longestChain := Nat.le_of_succ_le hk
      obtain rfl := Except.ok.inj (hloaded.symm.trans (ofText_le hk' hload))
      obtain ⟨below, hbelow, hload'⟩ := ih hk' hload
      obtain ⟨entries, halike, hcomplete⟩ := complete_alike hbelow hdoc hrespells hc
      refine ⟨entries, halike, ofText_eq_ok.2 ⟨_, hdoc', ?_⟩⟩
      rw [hbase hrespells, hnamed]
      exact ⟨_, LoggedT.outcome_bind_eq_ok.2 ⟨_, hfound', hload'⟩, hcomplete⟩

/-! ## Documents with switches -/

/-- A document with plain entries and nothing else. -/
def switching (base : Option String) (switches : List (String × Yaml.Atom)) : Document where
  base := base
  rules := switches.map fun e => (e.1, .atom e.2)
  ignore := none
  ignoreFromFile := none
  yamlFiles := none
  locale := none

/-- The plain entries of a document that has nothing else. -/
def switches? (doc : Document) : Option (List (String × Yaml.Atom)) :=
  if doc.ignore.isNone && doc.ignoreFromFile.isNone && doc.yamlFiles.isNone && doc.locale.isNone then
    doc.rules.mapM fun e =>
      match e.2 with
      | .atom a => some (e.1, a)
      | _ => none
  else none

theorem eq_of_switches? {switches : List (String × Yaml.Atom)} (h : switches? doc = some switches) :
    doc = switching doc.base switches := by
  obtain ⟨base, rules, ignore, files, yamlFiles, locale⟩ := doc
  unfold switches? at h
  split at h
  · next hnone =>
    simp only [Bool.and_eq_true, Option.isNone_iff_eq_none] at hnone
    obtain ⟨⟨⟨rfl, rfl⟩, rfl⟩, rfl⟩ := hnone
    refine congrArg (Document.mk base · none none none none) ?_
    dsimp only at h
    induction rules generalizing switches with
    | nil =>
      cases h
      rfl
    | cons e rules ih =>
      obtain ⟨name, v⟩ := e
      rw [List.mapM_cons, Option.bind_eq_bind, Option.bind_eq_some_iff] at h
      obtain ⟨first, hfirst, h⟩ := h
      obtain ⟨rest, hrest, h⟩ := Option.bind_eq_some_iff.1 h
      cases h
      rw [List.map_cons, ← ih hrest]
      dsimp only at hfirst
      split at hfirst
      · cases hfirst
        rfl
      · cases hfirst
  · cases h

theorem ofText_switching {name : Option String} {switches : List (String × Yaml.Atom)}
    (h : (Document.ofText t).toOption.map (fun doc => (doc.base, switches? doc)) = some (name, some switches)) :
    Document.ofText t = .ok (switching name switches) := by
  obtain ⟨doc, hdoc, hsides⟩ := exists_of_toOption h
  obtain ⟨rfl, hswitches⟩ := Prod.mk.inj hsides
  rw [hdoc, ← eq_of_switches? hswitches]

theorem respellsIn_switching {entries : List (String × Value)} {base : Option String}
    {switches switches' : List (String × Yaml.Atom)}
    (h : List.Forall₂ (fun e e' => RespellsOver entries (e.1, .atom e.2) (e'.1, .atom e'.2)) switches switches') :
    L.RespellsIn L' entries (switching base switches) (switching base switches') := by
  refine ⟨List.forall₂_map_left_iff.2 (List.forall₂_map_right_iff.2 h), rfl, ?_⟩
  rintro names (hnone | ⟨e, he, pairs, _, heq, -⟩)
  · cases hnone
  · obtain ⟨e, -, rfl⟩ := List.mem_map.1 he
    cases heq

/-- A loader that finds a configuration to extend. -/
def finding (base : Text) : Loader Id where
  host := Folder.host ⟨[(["base.yaml"], .file (Text.Utf8.encode base))], []⟩
  asked := pure none
  bundled := ""

theorem baseText_finding {base : Text}
    (h : ((finding base).baseText "base.yaml").outcome.toOption = some base) :
    ((finding base).baseText "base.yaml").outcome = .ok base := by
  obtain ⟨_, hbase, rfl⟩ := exists_of_toOption (f := id) (by rwa [Option.map_id])
  exact hbase

/-! ## Main theorems -/

/-- A configuration is the same in whatever spelling the switches are that stand in it and in those that it
extends, but for how its entries are written. -/
theorem ofContent_respells (h : L.RespellsText L' t t') (hc : (L.ofContent t).outcome = .ok c) :
    ∃ entries, (L'.ofContent t').outcome = .ok { c with entries := entries } := by
  obtain ⟨entries, -, h⟩ := ofText_respells h (Nat.le_refl _) hc
  exact ⟨entries, h⟩

/-- A configuration whose switches are words. -/
def inWords : Text := "rules:\n  colons: enable\n  commas: disable\n".toList

/-- The same with truth values. -/
def inTruthValues : Text := "rules:\n  colons: true\n  commas: false\n".toList

/-- Turns the rules of the other configuration over, with a word and a truth value. -/
def turned : Text := "extends: base.yaml\nrules:\n  commas: true\n  colons: disable\n".toList

/-- The same with each switch in the other spelling. -/
def turnedRespelled : Text := "extends: base.yaml\nrules:\n  commas: enable\n  colons: false\n".toList

/-- Commas over an entry that turns them off, and colons over one that turns them on. -/
theorem ofContent_respells_turned : ∃ c c', ((finding inWords).ofContent turned).outcome = .ok c ∧
    ((finding inTruthValues).ofContent turnedRespelled).outcome = .ok c' ∧
    (finding inWords).RespellsText (finding inTruthValues) turned turnedRespelled ∧ c'.rules = c.rules ∧
    c.rules = [("colons", none),
      ("commas", some ⟨.lexeme .commas, .error, (Rule.lexeme .commas).defaults, none⟩)] := by
  have hwords : Document.ofText inWords =
      .ok (switching none [("colons", .text "enable"), ("commas", .text "disable")]) :=
    ofText_switching (by decide +kernel)
  have htruths : Document.ofText inTruthValues =
      .ok (switching none [("colons", .bool true), ("commas", .bool false)]) :=
    ofText_switching (by decide +kernel)
  have hturned : Document.ofText turned =
      .ok (switching (some "base.yaml") [("commas", .bool true), ("colons", .text "disable")]) :=
    ofText_switching (by decide +kernel)
  have hrespelled : Document.ofText turnedRespelled =
      .ok (switching (some "base.yaml") [("commas", .text "enable"), ("colons", .bool false)]) :=
    ofText_switching (by decide +kernel)
  have hrules : ((finding inWords).ofContent turned).outcome.toOption.map Config.rules = some [("colons", none),
      ("commas", some ⟨.lexeme .commas, .error, (Rule.lexeme .commas).defaults, none⟩)] := by decide +kernel
  have hlength : ((finding inWords).ofContent inWords).outcome.toOption.map (fun c => c.rules.length) = some 2 := by
    decide +kernel
  obtain ⟨c, hc, hrules⟩ := exists_of_toOption hrules
  obtain ⟨base, hbase, -⟩ := exists_of_toOption hlength
  have hentries : base.entries = [("colons", .map []), ("commas", .text "disable")] := by
    obtain ⟨doc, hdoc, h⟩ := ofText_eq_ok.1 hbase
    obtain rfl := Except.ok.inj (hwords.symm.trans hdoc)
    exact (rules_of_complete h).1
  have hbelow : (finding inWords).RespellsText (finding inTruthValues) inWords inTruthValues :=
    .root hwords htruths rfl (respellsIn_switching
      (.cons ⟨rfl, .on (.inr rfl) (.inl rfl), nofun⟩ (.cons ⟨rfl, .off (.inr rfl) (.inl rfl), nofun⟩ .nil)))
  have hrespells : (finding inWords).RespellsText (finding inTruthValues) turned turnedRespelled := by
    refine .extending hturned hrespelled rfl (baseText_finding (by decide +kernel))
      (baseText_finding (by decide +kernel)) hbase hbelow (respellsIn_switching ?_)
    rw [hentries]
    exact .cons ⟨rfl, .on (.inl rfl) (.inr rfl), nofun⟩
      (.cons ⟨rfl, .off (.inr rfl) (.inl rfl), fun _ _ => (HasSettings.map []).isBare⟩ .nil)
  obtain ⟨entries, hc'⟩ := ofContent_respells hrespells hc
  exact ⟨c, _, hc, hc', hrespells, rfl, hrules⟩

theorem turnOn_nil (rule : Rule) : turnOn rule [] = .ok ⟨rule, .error, rule.defaults, none⟩ := by
  obtain r | r | r := rule <;> cases r <;> rfl

/-- Over settings of the rule, `enable` leaves the rule as it is and `true` gives it its own values. -/
theorem lookup_of_switch (hdoc : Document.ofText t = .ok doc) (hname : doc.base = some name) (hne : name ≠ "")
    (hbase : (L.baseText name >>= L.ofContent).outcome = .ok base) (hchild : (L.ofContent t).outcome = .ok c)
    {n : String} (hgiven : base.entries.lookup n = some (.map pairs)) :
    ((n, .text "enable") ∈ doc.rules → c.rules.lookup n = base.rules.lookup n) ∧
      ((n, .bool true) ∈ doc.rules → ∃ rule, Rule.ofName? n = some rule ∧
        c.rules.lookup n = some (some ⟨rule, .error, rule.defaults, none⟩)) := by
  obtain ⟨hnodup, -⟩ := Document.isDistinct_of_ofText hdoc
  obtain ⟨hbaserules, hentries, hrules⟩ := rules_of_extends hdoc hname hne hbase hchild
  have hlookup {v : Value} (hv : (n, v) ∈ doc.rules) :
      c.entries.lookup n = some (mergedEntry (some (.map pairs)) v) := by
    rw [hentries, lookup_mergeEntries hnodup, lookup_eq_some_of_mem hnodup hv, hgiven]
  constructor
  · intro hv
    exact lookup_congr_of_configureAll hrules hbaserules ((hlookup hv).trans hgiven.symm)
  · intro hv
    obtain ⟨rule, r, hrule, hr, hsome⟩ := lookup_of_configureAll hrules (hlookup hv)
    change (L.configure rule (.bool true)).outcome = .ok r at hr
    rw [configure_of_settings .true rfl, turnOn_nil] at hr
    cases hr
    exact ⟨rule, hrule, hsome⟩

/-- A configuration with settings. -/
def withSettings : Text := "rules:\n  colons: {level: warning, max-spaces-after: 2}\n".toList

def enabling : Text := "extends: base.yaml\nrules:\n  colons: enable\n".toList

def affirming : Text := "extends: base.yaml\nrules:\n  colons: true\n".toList

/-- Over settings the spellings differ. -/
theorem not_interchangeable_over_settings : ¬∀ (L : Loader Id) (t t' : Text) (doc doc' : Document),
    Document.ofText t = .ok doc → Document.ofText t' = .ok doc' → doc' = { doc with rules := doc'.rules } →
    List.Forall₂ (fun e e' => e'.1 = e.1 ∧ Respells e.2 e'.2) doc.rules doc'.rules →
    ∀ c, (L.ofContent t).outcome = .ok c → ∃ c', (L.ofContent t').outcome = .ok c' ∧ c'.rules = c.rules := by
  intro hclaim
  have hkept : ((finding withSettings).ofContent enabling).outcome.toOption.map Config.rules = some [("colons",
      some ⟨.lexeme .colons, .warning, [("max-spaces-before", .int 0), ("max-spaces-after", .int 2)], none⟩)] := by
    decide +kernel
  have hdropped : ((finding withSettings).ofContent affirming).outcome.toOption.map Config.rules = some [("colons",
      some ⟨.lexeme .colons, .error, (Rule.lexeme .colons).defaults, none⟩)] := by decide +kernel
  obtain ⟨c, hc, hrules⟩ := exists_of_toOption hkept
  obtain ⟨c', hc', hrules'⟩ := exists_of_toOption hdropped
  obtain ⟨c'', hc'', hsame⟩ := hclaim (finding withSettings) enabling affirming
    (switching (some "base.yaml") [("colons", .text "enable")]) (switching (some "base.yaml") [("colons", .bool true)])
    (ofText_switching (by decide +kernel)) (ofText_switching (by decide +kernel)) rfl
    (.cons ⟨rfl, .on (.inr rfl) (.inl rfl)⟩ .nil) c hc
  cases hc'.symm.trans hc''
  rw [hrules, hrules'] at hsame
  cases hsame

end Loader

end YamlStyle.Config
