import YamlStyle.Proofs.Config.Overriding
import YamlStyle.Proofs.Config.Schemas

/-!
# Entries of rules

What the entry of a rule comes to: it turns the rule off, or on with a value for each option, or it is
refused. An entry is refused exactly if something is wrong with it (`IsRefused`), and what is wrong is told
unless it is a key too long to be written (`configure_validates`).
-/

namespace YamlStyle

open Yaml (Item Value)

/-! ## Settings -/

namespace Config

/-- Whether an entry turns its rule off. -/
def IsOff (entry : Value) : Prop := entry = .bool false ∨ entry = .text "disable"

/-- The settings of an entry that turns its rule on. -/
inductive HasSettings : Value → List (Item × Value) → Prop
  | true : HasSettings (.bool true) []
  | enable : HasSettings (.text "enable") []
  | map (pairs : List (Item × Value)) : HasSettings (.map pairs) pairs

/-- Whether a value is a text or a list of texts. -/
def IsLines (v : Value) : Prop := (∃ s : String, v = .text s) ∨ ∃ ss : List String, v = .list (ss.map .text)

/-- Whether a key is neither one that all entries may have nor the name of an option of the rule. -/
def IsUnknown (rule : Rule) (key : Item) : Prop :=
  (∀ name ∈ Entry.commonKeys, key ≠ .atom (.text name)) ∧ ∀ spec ∈ rule.specs, key ≠ .atom (.text spec.name)

/-- Whether a setting is known, and conforms to the schema of its option if it is for one. -/
def IsSetting (rule : Rule) (p : Item × Value) : Prop :=
  ¬IsUnknown rule p.1 ∧ ∀ spec ∈ rule.specs, p.1 = .atom (.text spec.name) → spec.schema.Conforms p.2

/-- Whether an option has its value from the settings, or its own value if they do not set it. -/
def Fills (pairs : List (Item × Value)) (spec : Rule.OptionSpec) (e : String × OptionValue) : Prop :=
  e.1 = spec.name ∧
    match Yaml.Value.get? pairs spec.name with
    | some v => v = e.2.written
    | none => e.2 = spec.default

/-- What is wrong with the entry of a rule. -/
inductive IsRefused (rule : Rule) : Value → Prop
  | notEntry {entry : Value} (off : ¬IsOff entry) (on : ∀ pairs, ¬HasSettings entry pairs) : IsRefused rule entry
  | ignore {entry : Value} {pairs : List (Item × Value)} {v : Value} (on : HasSettings entry pairs)
    (set : Yaml.Value.get? pairs "ignore" = some v) (illTyped : ¬IsLines v) : IsRefused rule entry
  | level {entry : Value} {pairs : List (Item × Value)} {v : Value} (on : HasSettings entry pairs)
    (set : Yaml.Value.get? pairs "level" = some v) (bad : v ≠ .text "error" ∧ v ≠ .text "warning") :
    IsRefused rule entry
  | unknownOption {entry : Value} {pairs : List (Item × Value)} {key : Item} {v : Value} (on : HasSettings entry pairs)
    (set : (key, v) ∈ pairs) (unknown : IsUnknown rule key) : IsRefused rule entry
  | value {entry : Value} {pairs : List (Item × Value)} {spec : Rule.OptionSpec} {v : Value}
    (on : HasSettings entry pairs) (known : spec ∈ rule.specs) (set : (.atom (.text spec.name), v) ∈ pairs)
    (bad : ¬spec.schema.Conforms v) : IsRefused rule entry
  | conflict {entry : Value} {pairs : List (Item × Value)} {values : OptionValues} (on : HasSettings entry pairs)
    (filled : List.Forall₂ (Fills pairs) rule.specs values) (conflict : (rule.conflict? values).isSome) :
    IsRefused rule entry

/-- A rule as some settings turn it on: every option has a value that conforms, and the values agree. -/
structure IsTurnedOn (rule : Rule) (pairs : List (Item × Value)) (c : ConfiguredRule) : Prop where
  ofRule : c.rule = rule
  settings : ∀ p ∈ pairs, IsSetting rule p
  level : match Yaml.Value.get? pairs "level" with
    | some v => v = .text c.level.name
    | none => c.level = .error
  options : List.Forall₂ (Fills pairs) rule.specs c.options
  conforms : List.Forall₂ (fun spec e => spec.schema.Conforms e.2.written) rule.specs c.options
  agrees : rule.conflict? c.options = none
  ignore : match Yaml.Value.get? pairs "ignore" with
    | some v => ∃ ls, Value.lines? v = some ls ∧ c.ignore = some (PathPatterns.ofLines ls)
    | none => c.ignore = none

/-- Whether the first setting that is wrong is an unknown one with a key too long to be written, and nothing
else is wrong that is looked at before it. -/
structure IsUnwritable (rule : Rule) (pairs : List (Item × Value)) : Prop where
  ignore : ∀ v, Yaml.Value.get? pairs "ignore" = some v → IsLines v
  level : ∀ v, Yaml.Value.get? pairs "level" = some v → v = .text "error" ∨ v = .text "warning"
  key : ∃ before key v after, pairs = before ++ (key, v) :: after ∧ (∀ p ∈ before, IsSetting rule p) ∧
    IsUnknown rule key ∧ Yaml.Value.shownKey? key = none

variable {rule : Rule} {entry v : Value} {pairs : List (Item × Value)} {key : Item} {spec : Rule.OptionSpec}
  {vs : OptionValues} {f : EntryFault}

theorem isOff_iff : Entry.isOff entry = true ↔ IsOff entry := by
  constructor
  · intro h
    unfold Entry.isOff at h
    split at h
    · exact .inl rfl
    · exact .inr rfl
    · cases h
  · rintro (rfl | rfl) <;> rfl

theorem settings?_eq_some : Entry.settings? entry = some pairs ↔ HasSettings entry pairs := by
  constructor
  · intro h
    unfold Entry.settings? at h
    split at h <;> cases h
    · exact .true
    · exact .enable
    · exact .map _
  · rintro (_ | _ | _) <;> rfl

theorem HasSettings.unique {pairs' : List (Item × Value)} (h : HasSettings entry pairs)
    (h' : HasSettings entry pairs') : pairs = pairs' :=
  Option.some.inj ((settings?_eq_some.2 h).symm.trans (settings?_eq_some.2 h'))

theorem HasSettings.isOff_eq_false (h : HasSettings entry pairs) : Entry.isOff entry = false := by
  cases h <;> rfl

theorem HasSettings.not_isOff (h : HasSettings entry pairs) : ¬IsOff entry := by
  rw [← isOff_iff, h.isOff_eq_false]
  exact Bool.false_ne_true

theorem texts?_eq_some {ss : List String} : Value.texts? v = some ss ↔ v = .list (ss.map .text) := by
  have hmapM (xs : List Yaml.Value) (ss : List String) : xs.mapM Value.text? = some ss ↔ xs = ss.map .text := by
    induction xs generalizing ss with
    | nil => cases ss <;> simp
    | cons v xs ih =>
      have htext (s : String) : Value.text? v = some s ↔ v = .text s := by
        cases v with
        | atom a => cases a <;> simp [Value.text?]
        | _ => simp [Value.text?]
      rw [List.mapM_cons]
      simp only [Option.bind_eq_bind, Option.bind_eq_some_iff, htext, ih, Option.pure_def, Option.some.injEq]
      cases ss <;> simp [eq_comm]
  cases v with
  | list xs => exact (hmapM xs ss).trans ⟨congrArg _, Value.list.inj⟩
  | _ => exact ⟨nofun, nofun⟩

theorem lines?_isSome_iff : (Value.lines? v).isSome ↔ IsLines v := by
  by_cases htext : ∃ s : String, v = .text s
  · obtain ⟨s, rfl⟩ := htext
    exact ⟨fun _ => .inl ⟨s, rfl⟩, fun _ => rfl⟩
  · have hlines : Value.lines? v = (Value.texts? v).map fun xs => xs.map String.toList := by
      unfold Value.lines?
      split
      · exact absurd ⟨_, rfl⟩ htext
      · rfl
    rw [hlines, Option.isSome_map, Option.isSome_iff_exists]
    simp only [texts?_eq_some, IsLines, htext, false_or]

/-! ## Single settings -/

namespace Entry

theorem isCommon_iff : isCommon key = true ↔ ∃ name ∈ commonKeys, key = .atom (.text name) := by
  constructor
  · intro h
    unfold isCommon at h
    split at h
    · next name => exact ⟨name, List.contains_iff_mem.1 h, rfl⟩
    · cases h
  · rintro ⟨name, hname, rfl⟩
    exact List.contains_iff_mem.2 hname

theorem spec?_eq_some : spec? rule key = some spec ↔ spec ∈ rule.specs ∧ key = .atom (.text spec.name) := by
  constructor
  · intro h
    refine ⟨?_, eq_of_spec? h⟩
    unfold spec? at h
    split at h
    · exact List.mem_of_find?_eq_some h
    · cases h
  · rintro ⟨hspec, rfl⟩
    exact (spec_facts rule spec hspec).1

theorem isUnknown_iff : IsUnknown rule key ↔ isCommon key = false ∧ spec? rule key = none := by
  rw [IsUnknown, ← Bool.not_eq_true, isCommon_iff, Option.eq_none_iff_forall_ne_some]
  constructor
  · rintro ⟨hcommon, hspecs⟩
    refine ⟨?_, fun spec h => ?_⟩
    · rintro ⟨name, hname, hkey⟩
      exact hcommon name hname hkey
    · obtain ⟨hspec, hkey⟩ := spec?_eq_some.1 h
      exact hspecs spec hspec hkey
  · rintro ⟨hcommon, hspecs⟩
    exact ⟨fun name hname hkey => hcommon ⟨name, hname, hkey⟩,
      fun spec hspec hkey => hspecs spec (spec?_eq_some.2 ⟨hspec, hkey⟩)⟩

theorem isSetting_of_isCommon (h : isCommon key = true) (v : Value) : IsSetting rule (key, v) := by
  refine ⟨fun hunknown => ?_, fun spec hspec hkey => ?_⟩
  · rw [(isUnknown_iff.1 hunknown).1] at h
    cases h
  · have hcommon := (spec_facts rule spec hspec).2.1
    rw [← show key = _ from hkey, h] at hcommon
    cases hcommon

/-- A setting for an option is one if its value conforms. -/
theorem isSetting_iff_of_spec? (h : spec? rule key = some spec) :
    IsSetting rule (key, v) ↔ (spec.schema.accept? v).isSome := by
  obtain ⟨hspec, rfl⟩ := spec?_eq_some.1 h
  rw [Rule.accept?_isSome_iff hspec]
  constructor
  · exact fun hsetting => hsetting.2 spec hspec rfl
  · refine fun hconforms => ⟨fun hunknown => hunknown.2 spec hspec rfl, fun other hother hkey => ?_⟩
    have hsame := spec?_eq_some.2 ⟨hother, hkey⟩
    rw [h] at hsame
    obtain rfl := Option.some.inj hsame
    exact hconforms

/-- The first of some settings is passed over, kept, or refused. -/
theorem given_cons (rule : Rule) (p : Item × Value) (rest : List (Item × Value)) :
    (IsSetting rule p ∧ ∃ keep : OptionValues → OptionValues, given rule (p :: rest) = (given rule rest).map keep) ∨
      ¬IsSetting rule p ∧ ∃ f, given rule (p :: rest) = .error f ∧
        (f = .unwritableOption ↔ IsUnknown rule p.1 ∧ Value.shownKey? p.1 = none) := by
  obtain ⟨key, v⟩ := p
  rw [given]
  cases hcommon : isCommon key with
  | true =>
    rw [if_pos rfl]
    refine .inl ⟨isSetting_of_isCommon hcommon v, id, ?_⟩
    cases given rule rest <;> rfl
  | false =>
    rw [if_neg Bool.false_ne_true]
    cases hspec : spec? rule key with
    | none =>
      have hunknown := isUnknown_iff.2 ⟨hcommon, hspec⟩
      refine .inr ⟨fun hsetting => hsetting.1 hunknown, _, rfl, ?_⟩
      cases hshown : Value.shownKey? key with
      | none => exact ⟨fun _ => ⟨hunknown, rfl⟩, fun _ => rfl⟩
      | some shown =>
        constructor
        · intro hf
          cases hf
        · rintro ⟨-, hnone⟩
          cases hnone
    | some spec =>
      dsimp only
      cases haccept : spec.schema.accept? v with
      | none =>
        -- the fault names the option, which can always be written
        refine .inr ⟨fun hsetting => ?_, _, rfl, ?_⟩
        · have hsome := (isSetting_iff_of_spec? hspec).1 hsetting
          rw [haccept] at hsome
          cases hsome
        · constructor
          · intro hf
            cases hs : spec.schema <;> rw [hs] at hf <;> cases hf
          · rintro ⟨hunknown, -⟩
            rw [(isUnknown_iff.1 hunknown).2] at hspec
            cases hspec
      | some x => exact .inl ⟨(isSetting_iff_of_spec? hspec).2 (by rw [haccept]; rfl), _, rfl⟩

theorem isSetting_of_given (h : given rule pairs = .ok vs) : ∀ p ∈ pairs, IsSetting rule p := by
  induction pairs generalizing vs with
  | nil => nofun
  | cons p pairs ih =>
    rcases given_cons rule p pairs with ⟨hp, keep, hgiven⟩ | ⟨-, f, hgiven, -⟩
    · rw [hgiven] at h
      cases hrest : given rule pairs with
      | error f => rw [hrest] at h; cases h
      | ok rest => exact List.forall_mem_cons.2 ⟨hp, ih hrest⟩
    · rw [hgiven] at h
      cases h

/-- Settings are refused for the first that is wrong. -/
theorem exists_of_given_eq_error (h : given rule pairs = .error f) :
    ∃ before p after, pairs = before ++ p :: after ∧ (∀ q ∈ before, IsSetting rule q) ∧ ¬IsSetting rule p ∧
      (f = .unwritableOption ↔ IsUnknown rule p.1 ∧ Value.shownKey? p.1 = none) := by
  induction pairs with
  | nil => cases h
  | cons p pairs ih =>
    rcases given_cons rule p pairs with ⟨hp, keep, hgiven⟩ | ⟨hp, f', hgiven, hf⟩
    · rw [hgiven] at h
      cases hrest : given rule pairs with
      | ok rest => rw [hrest] at h; cases h
      | error f' =>
        rw [hrest] at h
        cases h
        obtain ⟨before, q, after, rfl, hbefore, hq⟩ := ih hrest
        exact ⟨p :: before, q, after, rfl, List.forall_mem_cons.2 ⟨hp, hbefore⟩, hq⟩
    · rw [hgiven] at h
      cases h
      exact ⟨[], p, pairs, rfl, nofun, hp, hf⟩

theorem given_eq_unwritable : given rule pairs = .error .unwritableOption ↔
    ∃ before key v after, pairs = before ++ (key, v) :: after ∧ (∀ p ∈ before, IsSetting rule p) ∧
      IsUnknown rule key ∧ Value.shownKey? key = none := by
  constructor
  · intro h
    obtain ⟨before, ⟨key, v⟩, after, hpairs, hbefore, -, hf⟩ := exists_of_given_eq_error h
    exact ⟨before, key, v, after, hpairs, hbefore, hf.1 rfl⟩
  · rintro ⟨before, key, v, after, rfl, hbefore, hkey⟩
    induction before with
    | nil =>
      rcases given_cons rule (key, v) after with ⟨hsetting, -⟩ | ⟨-, f, hgiven, hf⟩
      · exact absurd hkey.1 hsetting.1
      · rw [List.nil_append, hgiven, hf.2 hkey]
    | cons p before ih =>
      obtain ⟨hp, hbefore⟩ := List.forall_mem_cons.1 hbefore
      rcases given_cons rule p (before ++ (key, v) :: after) with ⟨-, keep, hgiven⟩ | ⟨hnot, -⟩
      · rw [List.cons_append, hgiven, ih hbefore]
        rfl
      · exact absurd hp hnot

/-! ## Levels and patterns -/

theorem of_bind_eq_error {ε α β : Type} {x : Except ε α} {g : α → Except ε β} {e : ε} (h : x >>= g = .error e) :
    x = .error e ∨ ∃ a, x = .ok a ∧ g a = .error e := by
  cases x with
  | error e' =>
    cases h
    exact .inl rfl
  | ok a => exact .inr ⟨a, rfl, h⟩

theorem eq_of_ofName? {s : String} {l : Level} (h : Level.ofName? s = some l) : s = l.name :=
  (eq_of_beq (List.find?_some h :)).symm

theorem level_eq_ok {l : Level} (h : level pairs = .ok l) : match Yaml.Value.get? pairs "level" with
    | some v => v = .text l.name
    | none => l = .error := by
  unfold level at h
  split at h
  · next hget =>
    rw [hget]
    exact (Except.ok.inj h).symm
  · next s hget =>
    rw [hget]
    split at h
    · next hl =>
      cases h
      exact congrArg Value.text (eq_of_ofName? hl)
    · cases h
  · cases h

theorem level_eq_error (h : level pairs = .error f) :
    f = .level ∧ ∃ v, Yaml.Value.get? pairs "level" = some v ∧ v ≠ .text "error" ∧ v ≠ .text "warning" := by
  unfold level at h
  split at h
  · cases h
  · next s hget =>
    split at h
    · cases h
    · next hnone =>
      cases h
      refine ⟨rfl, _, hget, ?_, ?_⟩ <;> rintro ⟨⟩ <;> cases hnone
  · next v hnot hget =>
    cases h
    exact ⟨rfl, v, hget, fun heq => hnot _ heq, fun heq => hnot _ heq⟩

section

variable (hfile : Yaml.Value.get? pairs "ignore-from-file" = none)

include hfile

theorem ignoreSource_eq_ok {source : IgnoreSource} (h : ignoreSource pairs = .ok source) :
    match Yaml.Value.get? pairs "ignore" with
    | some v => ∃ ls, Value.lines? v = some ls ∧ source = .lines ls
    | none => source = .none := by
  rw [ignoreSource, hfile] at h
  split at h
  · next heq => cases heq
  · next v _ hget =>
    rw [hget]
    split at h
    · next ls hls => exact ⟨ls, hls, (Except.ok.inj h).symm⟩
    · cases h
  · next hget =>
    rw [hget]
    exact (Except.ok.inj h).symm

theorem ignoreSource_eq_error (h : ignoreSource pairs = .error f) :
    f = .ignore ∧ ∃ v, Yaml.Value.get? pairs "ignore" = some v ∧ ¬IsLines v := by
  rw [ignoreSource, hfile] at h
  split at h
  · next heq => cases heq
  · next v _ hget =>
    split at h
    · cases h
    · next hnone =>
      cases h
      exact ⟨rfl, v, hget, by rw [← lines?_isSome_iff, hnone]; exact Bool.false_ne_true⟩
  · cases h

end

/-! ## Options -/

/-- The settings that are given for options and the own values of the others. -/
theorem fills_completed (h : given rule pairs = .ok vs) :
    List.Forall₂ (fun spec e => Fills pairs spec e ∧ spec.schema.Conforms e.2.written) rule.specs
      (completed rule vs) := by
  rw [completed, Rule.defaults, List.map_map, List.forall₂_map_right_iff, List.forall₂_same]
  intro spec hspec
  have hlookup := lookup_given h hspec
  dsimp only [Function.comp]
  cases hvalue : vs.lookup spec.name with
  | some x =>
    rw [hvalue, Option.map_some, eq_comm, Option.map_eq_some_iff] at hlookup
    obtain ⟨v, hget, haccept⟩ := hlookup
    obtain ⟨hconforms, rfl⟩ := Rule.Schema.accept?_eq_some.1 haccept
    exact ⟨⟨rfl, by rw [hget]; rfl⟩, hconforms⟩
  | none =>
    rw [hvalue, Option.map_none, eq_comm, Option.map_eq_none_iff] at hlookup
    exact ⟨⟨rfl, by rw [hlookup]; rfl⟩, (Rule.Schema.accept?_eq_some.1 (Rule.schema_facts rule spec hspec).1).1⟩

theorem fills_unique : Relator.RightUnique (Fills pairs) := by
  rintro spec ⟨name, x⟩ ⟨name', y⟩ ⟨hname, hx⟩ ⟨hname', hy⟩
  dsimp only at hname hname' hx hy
  subst hname hname'
  split at hx
  · next hget =>
    rw [hget] at hy
    rw [OptionValue.written_injective (hx.symm.trans hy)]
  · next hget =>
    rw [hget] at hy
    rw [hx, hy]

theorem configure_eq_error {ignore : Option PathPatterns} (h : configure rule pairs ignore = .error f) :
    level pairs = .error f ∨ ∃ l, level pairs = .ok l ∧ (given rule pairs = .error f ∨
      ∃ vs complaint, given rule pairs = .ok vs ∧ rule.conflict? (completed rule vs) = some complaint ∧
        f = .conflict complaint) := by
  rcases of_bind_eq_error h with hlevel | ⟨l, hlevel, h⟩
  · exact .inl hlevel
  refine .inr ⟨l, hlevel, ?_⟩
  rcases of_bind_eq_error h with hgiven | ⟨vs, hgiven, h⟩
  · exact .inl hgiven
  · refine .inr ⟨vs, ?_⟩
    dsimp only at h
    split at h
    · next complaint hconflict => exact ⟨complaint, hgiven, hconflict, (Except.error.inj h).symm⟩
    · cases h

end Entry

/-! ## Entries -/

theorem isRefused_of_not_isSetting (on : HasSettings entry pairs) {p : Item × Value} (hp : p ∈ pairs)
    (h : ¬IsSetting rule p) : IsRefused rule entry := by
  by_cases hunknown : IsUnknown rule p.1
  · exact .unknownOption on hp hunknown
  · obtain ⟨spec, hspec, hkey, hbad⟩ :
        ∃ spec ∈ rule.specs, p.1 = .atom (.text spec.name) ∧ ¬spec.schema.Conforms p.2 := by
      by_contra! hconforms
      exact h ⟨hunknown, hconforms⟩
    exact .value on hspec (by rwa [← hkey]) hbad

theorem IsRefused.not_isOff (h : IsRefused rule entry) : ¬IsOff entry := by
  cases h with
  | notEntry off _ => exact off
  | ignore on _ _ => exact on.not_isOff
  | level on _ _ => exact on.not_isOff
  | unknownOption on _ _ => exact on.not_isOff
  | value on _ _ _ => exact on.not_isOff
  | conflict on _ _ => exact on.not_isOff

/-- Nothing is wrong with the settings that turn a rule on. -/
theorem IsTurnedOn.not_isRefused {c : ConfiguredRule} (h : IsTurnedOn rule pairs c) (on : HasSettings entry pairs) :
    ¬IsRefused rule entry := by
  rintro (⟨-, hno⟩ | ⟨hother, hset, hbad⟩ | ⟨hother, hset, hbad⟩ | ⟨hother, hset, hunknown⟩ |
    ⟨hother, hspec, hset, hbad⟩ | ⟨hother, hfilled, hconflict⟩)
  case notEntry => exact hno _ on
  all_goals obtain rfl := on.unique hother
  case ignore =>
    have hignore := h.ignore
    rw [hset] at hignore
    obtain ⟨ls, hls, -⟩ := hignore
    exact hbad (lines?_isSome_iff.1 (by rw [hls]; rfl))
  case level =>
    have hlevel := h.level
    rw [hset] at hlevel
    cases hl : c.level with
    | error => exact hbad.1 (by rw [hlevel, hl]; rfl)
    | warning => exact hbad.2 (by rw [hlevel, hl]; rfl)
  case unknownOption => exact (h.settings _ hset).1 hunknown
  case value => exact hbad ((h.settings _ hset).2 _ hspec rfl)
  case conflict =>
    rw [← Entry.fills_unique.forall₂ h.options hfilled, h.agrees] at hconflict
    cases hconflict

namespace Loader

variable {L : Loader Id} {failure : Failure} {r : Option ConfiguredRule}

/-- How a fault of an entry is told. -/
def toldFault (rule : Rule) (f : EntryFault) : Failure :=
  if f == .unwritableOption then .unwritable else .fault (.entry rule.name f)

theorem isTold_toldFault : (toldFault rule f).isTold = true ↔ f ≠ .unwritableOption := by
  unfold toldFault
  split
  · next h => exact ⟨nofun, fun hne => absurd (eq_of_beq h) hne⟩
  · next h => exact ⟨fun _ heq => h (by rw [heq]; rfl), fun _ => rfl⟩

/-- What an entry comes to, without the records that are left on the way. -/
theorem outcome_configure (rule : Rule) (entry : Value) : (L.configure rule entry).outcome =
    if Entry.isOff entry then .ok none
    else match Entry.settings? entry with
      | none => .error (.fault (.entry rule.name .notEntry))
      | some pairs => do
        let source ← (Entry.ignoreSource pairs).mapError (toldFault rule)
        let ignore ← L.patternsFrom source
        return some (← (Entry.configure rule pairs ignore).mapError (toldFault rule)) := by
  rw [configure]
  split
  · rfl
  · cases Entry.settings? entry with
    | none => rfl
    | some pairs =>
      dsimp only
      rw [LoggedT.outcome_bind]
      refine congrArg _ (funext fun source => ?_)
      have htold (ignore : Option PathPatterns) :
          (LoggedT.ofLogged (m := Id) (Logged.ofExcept ((Entry.configure rule pairs ignore).mapError (toldFault rule))) >>=
            fun c => pure (some c)).outcome =
              (Entry.configure rule pairs ignore).mapError (toldFault rule) >>= fun c => pure (some c) :=
        LoggedT.outcome_bind _ _
      cases source with
      | none => exact htold none
      | lines ls => exact htold (some (PathPatterns.ofLines ls))
      | files names =>
        dsimp only [patternsFrom]
        rw [LoggedT.outcome_bind]
        cases (L.ignoreFiles names).outcome with
        | error e => rfl
        | ok patterns => exact htold (some patterns)

/-- The rule of an entry with settings but no file with patterns. -/
def turnOn (rule : Rule) (pairs : List (Item × Value)) : Except EntryFault ConfiguredRule := do
  let source ← Entry.ignoreSource pairs
  Entry.configure rule pairs (match source with
    | .lines ls => some (PathPatterns.ofLines ls)
    | _ => none)

theorem configure_of_settings (h : HasSettings entry pairs)
    (hfile : Yaml.Value.get? pairs "ignore-from-file" = none) :
    (L.configure rule entry).outcome = ((turnOn rule pairs).map some).mapError (toldFault rule) := by
  rw [outcome_configure, if_neg (by rw [h.isOff_eq_false]; exact Bool.false_ne_true), settings?_eq_some.2 h]
  dsimp only
  unfold turnOn
  cases hsource : Entry.ignoreSource pairs with
  | error f => rfl
  | ok source =>
    have hok := Entry.ignoreSource_eq_ok hfile hsource
    have hsome (ignore : Option PathPatterns) :
        (do return some (← (Entry.configure rule pairs ignore).mapError (toldFault rule))) =
          ((Entry.configure rule pairs ignore).map some).mapError (toldFault rule) := by
      cases Entry.configure rule pairs ignore <;> rfl
    cases source with
    | none => exact hsome none
    | lines ls => exact hsome (some (PathPatterns.ofLines ls))
    | files names =>
      split at hok
      · obtain ⟨_, _, ⟨⟩⟩ := hok
      · cases hok

theorem isTurnedOn_of_turnOn {c : ConfiguredRule} (hfile : Yaml.Value.get? pairs "ignore-from-file" = none)
    (h : turnOn rule pairs = .ok c) : IsTurnedOn rule pairs c := by
  obtain ⟨source, hsource, h⟩ := exists_of_bind_eq_ok h
  obtain ⟨l, vs, hlevel, hgiven, hconflict, rfl⟩ := Entry.eq_of_configure h
  refine ⟨rfl, Entry.isSetting_of_given hgiven, Entry.level_eq_ok hlevel, ?_, ?_, hconflict, ?_⟩
  · exact (Entry.fills_completed hgiven).imp fun _ _ h => h.1
  · exact (Entry.fills_completed hgiven).imp fun _ _ h => h.2
  · have hok := Entry.ignoreSource_eq_ok hfile hsource
    split at hok
    · obtain ⟨ls, hls, rfl⟩ := hok
      exact ⟨ls, hls, rfl⟩
    · subst hok
      rfl

theorem isRefused_of_turnOn (on : HasSettings entry pairs) (hfile : Yaml.Value.get? pairs "ignore-from-file" = none)
    (h : turnOn rule pairs = .error f) : IsRefused rule entry := by
  -- patterns are looked at first, then the level, the options and what they come to together
  rcases Entry.of_bind_eq_error h with hsource | ⟨source, -, h⟩
  · obtain ⟨-, v, hget, hv⟩ := Entry.ignoreSource_eq_error hfile hsource
    exact .ignore on hget hv
  rcases Entry.configure_eq_error h with hlevel | ⟨l, -, hgiven | ⟨vs, complaint, hgiven, hconflict, -⟩⟩
  · obtain ⟨-, v, hget, hv⟩ := Entry.level_eq_error hlevel
    exact .level on hget hv
  · obtain ⟨before, p, after, rfl, -, hp, -⟩ := Entry.exists_of_given_eq_error hgiven
    exact isRefused_of_not_isSetting on (by simp) hp
  · exact .conflict on ((Entry.fills_completed hgiven).imp fun _ _ h => h.1) (by rw [hconflict]; rfl)

theorem turnOn_eq_unwritable (hfile : Yaml.Value.get? pairs "ignore-from-file" = none) :
    turnOn rule pairs = .error .unwritableOption ↔ IsUnwritable rule pairs := by
  constructor
  · intro h
    -- only an option has this fault, so patterns and level are in order
    rcases Entry.of_bind_eq_error h with hsource | ⟨source, hsource, h⟩
    · cases (Entry.ignoreSource_eq_error hfile hsource).1
    rcases Entry.configure_eq_error h with hlevel | ⟨l, hlevel, hgiven | ⟨_, _, _, _, ⟨⟩⟩⟩
    · cases (Entry.level_eq_error hlevel).1
    · refine ⟨fun v hv => ?_, fun v hv => ?_, Entry.given_eq_unwritable.1 hgiven⟩
      · have hok := Entry.ignoreSource_eq_ok hfile hsource
        rw [hv] at hok
        obtain ⟨ls, hls, -⟩ := hok
        exact lines?_isSome_iff.1 (by rw [hls]; rfl)
      · have hok := Entry.level_eq_ok hlevel
        rw [hv] at hok
        cases l with
        | error => exact .inl hok
        | warning => exact .inr hok
  · rintro ⟨hignore, hlevel, hkey⟩
    have hgiven := Entry.given_eq_unwritable.2 hkey
    unfold turnOn Entry.configure
    cases hsource : Entry.ignoreSource pairs with
    | error f =>
      obtain ⟨-, v, hget, hv⟩ := Entry.ignoreSource_eq_error hfile hsource
      exact absurd (hignore v hget) hv
    | ok source =>
      cases hl : Entry.level pairs with
      | error f =>
        obtain ⟨-, v, hget, herror, hwarning⟩ := Entry.level_eq_error hl
        exact absurd (hlevel v hget) (not_or.2 ⟨herror, hwarning⟩)
      | ok l =>
        rw [hgiven]
        rfl

/-! ## Main theorem -/

theorem configure_of_isOff (h : IsOff entry) : (L.configure rule entry).outcome = .ok none := by
  rw [configure, if_pos (isOff_iff.2 h)]
  rfl

theorem configure_of_notEntry (off : ¬IsOff entry) (on : ∀ pairs, ¬HasSettings entry pairs) :
    (L.configure rule entry).outcome = .error (.fault (.entry rule.name .notEntry)) := by
  have hsettings : Entry.settings? entry = none :=
    Option.eq_none_iff_forall_ne_some.2 fun pairs h => on pairs (settings?_eq_some.1 h)
  rw [configure, if_neg (by rwa [isOff_iff]), hsettings]
  rfl

/-- What comes of an entry is what should: it turns its rule off just if it says so, and is refused just if
something is wrong with it; else it turns the rule on. What is wrong is told, unless it is that an unknown
setting has a key too long to be written. -/
structure Validates (rule : Rule) (entry : Value) (outcome : Except Failure (Option ConfiguredRule)) : Prop where
  off : outcome = .ok none ↔ IsOff entry
  on : ∀ c, outcome = .ok (some c) → ∃ pairs, HasSettings entry pairs ∧ IsTurnedOn rule pairs c
  refused : (∃ f, outcome = .error f) ↔ IsRefused rule entry
  told : ∀ f, outcome = .error f → (f.isTold = true ↔ ¬∃ pairs, HasSettings entry pairs ∧ IsUnwritable rule pairs)

theorem validates_ok_none (h : IsOff entry) : Validates rule entry (.ok none) where
  off := ⟨fun _ => h, fun _ => rfl⟩
  on := by rintro _ ⟨⟩
  refused := ⟨by rintro ⟨_, ⟨⟩⟩, fun hrefused => absurd h hrefused.not_isOff⟩
  told := by rintro _ ⟨⟩

theorem validates_ok_some {c : ConfiguredRule} (on : HasSettings entry pairs) (h : IsTurnedOn rule pairs c) :
    Validates rule entry (.ok (some c)) where
  off := ⟨by rintro ⟨⟩, fun hoff => absurd hoff on.not_isOff⟩
  on := by
    rintro _ ⟨⟩
    exact ⟨pairs, on, h⟩
  refused := ⟨by rintro ⟨_, ⟨⟩⟩, fun hrefused => absurd hrefused (h.not_isRefused on)⟩
  told := by rintro _ ⟨⟩

theorem validates_error (h : IsRefused rule entry)
    (htold : failure.isTold = true ↔ ¬∃ pairs, HasSettings entry pairs ∧ IsUnwritable rule pairs) :
    Validates rule entry (.error failure) where
  off := ⟨by rintro ⟨⟩, fun hoff => absurd hoff h.not_isOff⟩
  on := by rintro _ ⟨⟩
  refused := ⟨fun _ => h, fun _ => ⟨failure, rfl⟩⟩
  told := by
    rintro _ ⟨⟩
    exact htold

theorem configure_validates (L : Loader Id) (rule : Rule) (entry : Value)
    (hfile : ∀ pairs, entry = .map pairs → Yaml.Value.get? pairs "ignore-from-file" = none) :
    Validates rule entry (L.configure rule entry).outcome := by
  by_cases hoff : IsOff entry
  · rw [configure_of_isOff hoff]
    exact validates_ok_none hoff
  by_cases hon : ∃ pairs, HasSettings entry pairs
  · obtain ⟨pairs, on⟩ := hon
    have hpairs : Yaml.Value.get? pairs "ignore-from-file" = none := by
      cases on with
      | true | enable => rfl
      | map => exact hfile pairs rfl
    rw [configure_of_settings on hpairs]
    cases hturn : turnOn rule pairs with
    | ok c => exact validates_ok_some on (isTurnedOn_of_turnOn hpairs hturn)
    | error f =>
      refine validates_error (isRefused_of_turnOn on hpairs hturn) (isTold_toldFault.trans (not_congr ?_))
      -- the entry has no other settings, and those give this fault
      calc
        f = .unwritableOption ↔ turnOn rule pairs = .error .unwritableOption := by rw [hturn, Except.error.injEq]
        _ ↔ IsUnwritable rule pairs := turnOn_eq_unwritable hpairs
        _ ↔ _ := ⟨fun h => ⟨pairs, on, h⟩, fun ⟨_, hother, h⟩ => on.unique hother ▸ h⟩
  · have hnone : ∀ pairs, ¬HasSettings entry pairs := fun pairs h => hon ⟨pairs, h⟩
    rw [configure_of_notEntry hoff hnone]
    exact validates_error (.notEntry hoff hnone) ⟨fun _ ⟨pairs, on, _⟩ => hnone pairs on, fun _ => rfl⟩

/-- An entry that turns a rule on with a level and with an option. -/
def loose : Value := .map [(.atom (.text "level"), .text "warning"), (.atom (.text "max-spaces-after"), .int 3)]

theorem configure_validates_loose : ∃ c, (paired.configure (.lexeme .hyphens) loose).outcome = .ok (some c) ∧
    ¬IsOff loose ∧ ¬IsRefused (.lexeme .hyphens) loose ∧
    ∃ pairs, HasSettings loose pairs ∧ IsTurnedOn (.lexeme .hyphens) pairs c := by
  have h := configure_validates paired (.lexeme .hyphens) loose (by rintro _ ⟨⟩; rfl)
  have hconfigure : (paired.configure (.lexeme .hyphens) loose).outcome =
      .ok (some ⟨.lexeme .hyphens, .warning, [("max-spaces-after", .int 3)], none⟩) := by rfl
  have hoff := h.off
  have hrefused := h.refused
  rw [hconfigure] at hoff hrefused
  refine ⟨_, hconfigure, fun hloose => ?_, fun hloose => ?_, h.on _ hconfigure⟩
  · cases hoff.2 hloose
  · cases (hrefused.2 hloose).choose_spec

/-- An entry with a key too long to be written. -/
def overlong : Value := .map [(.atom (.int (16 ^ 3600)), .int 1)]

theorem isUnknown_overlong : IsUnknown (.lexeme .colons) (.atom (.int (16 ^ 3600))) :=
  Entry.isUnknown_iff.2 ⟨rfl, rfl⟩

theorem configure_overlong : (paired.configure (.lexeme .colons) overlong).outcome = .error .unwritable := by
  have hlong : Yaml.Value.shownKey? (.atom (.int (16 ^ 3600))) = none := by decide +kernel
  have hgiven : Entry.given (.lexeme .colons) [(.atom (.int (16 ^ 3600)), .int 1)] = .error .unwritableOption :=
    Entry.given_eq_unwritable.2 ⟨[], _, _, [], rfl, nofun, isUnknown_overlong, hlong⟩
  rw [overlong, configure_of_settings (.map _) rfl]
  unfold turnOn Entry.configure
  rw [hgiven]
  rfl

/-- Not all that is refused is told. -/
theorem not_told_of_overlong : ¬∀ (L : Loader Id) (rule : Rule) (entry : Value),
    (∀ pairs, entry = .map pairs → Yaml.Value.get? pairs "ignore-from-file" = none) → IsRefused rule entry →
      ∃ f, (L.configure rule entry).outcome = .error f ∧ f.isTold = true := by
  intro hclaim
  obtain ⟨f, hf, htold⟩ := hclaim paired (.lexeme .colons) overlong (by rintro _ ⟨⟩; rfl)
    (.unknownOption (.map _) (.head _) isUnknown_overlong)
  rw [configure_overlong] at hf
  cases hf
  cases htold

end Loader

end Config

end YamlStyle
