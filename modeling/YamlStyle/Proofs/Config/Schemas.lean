import Mathlib.Data.List.Basic
import Mathlib.Data.Set.List
import YamlStyle.Config.Entry

/-!
# Schemas of options

A value of an option that is accepted conforms to its schema, and is kept as it is written
(`Rule.Schema.accept?_eq_some`). For the options of rules, what conforms is accepted
(`Rule.accept?_isSome_iff`), and so are the values that the options have without being set.
-/

namespace YamlStyle

open Yaml (Value)

/-- The value of an option as a configuration has it. -/
def OptionValue.written : OptionValue → Value
  | .bool b => .bool b
  | .int n => .int n
  | .text s => .text s
  | .list xs => .list (xs.map .text)

namespace Rule

def Choice.Conforms (v : Value) : Choice → Prop
  | .anyOf .bool => ∃ b, v = .bool b
  | .anyOf .int => ∃ n, v = .int n
  | .anyOf .text => ∃ s, v = .text s
  | .bool b => v = .bool b
  | .text s => v = .text s

/-- Whether a value is of the type asked for, one of the choices, or a list of some of them. -/
def Schema.Conforms (v : Value) : Schema → Prop
  | .ofType type => (Choice.anyOf type).Conforms v
  | .oneOf choices => ∃ c ∈ choices, c.Conforms v
  | .listOf choices => ∃ xs, v = .list xs ∧ ∀ x ∈ xs, ∃ c ∈ choices, c.Conforms x

end Rule

variable {v : Value} {x y : OptionValue}

theorem map_text_injective : Function.Injective (List.map Value.text) :=
  List.map_injective_iff.2 fun _ _ h => Yaml.Atom.text.inj (Value.atom.inj h)

theorem OptionValue.written_injective : Function.Injective OptionValue.written := by
  intro x y h
  cases x <;> cases y <;> simp_all [written]
  exact map_text_injective h

namespace Rule

variable {c : Choice} {choices : List Choice} {schema : Schema}

theorem Choice.conforms_of_accept? (h : c.accept? v = some x) : c.Conforms v ∧ v = x.written := by
  unfold accept? at h
  split at h
  · cases h
    exact ⟨⟨_, rfl⟩, rfl⟩
  · cases h
    exact ⟨⟨_, rfl⟩, rfl⟩
  · cases h
    exact ⟨⟨_, rfl⟩, rfl⟩
  · split at h
    · next heq =>
      cases h
      rw [eq_of_beq heq]
      exact ⟨rfl, rfl⟩
    · cases h
  · split at h
    · next heq =>
      cases h
      rw [eq_of_beq heq]
      exact ⟨rfl, rfl⟩
    · cases h
  · cases h

theorem Choice.accept?_of_conforms (h : c.Conforms x.written) : c.accept? x.written = some x := by
  cases c with
  | anyOf type => cases type <;> cases x <;> simp_all [Conforms, OptionValue.written, accept?]
  | bool b | text s => cases x <;> simp_all [Conforms, OptionValue.written, accept?]

/-- What accepts a value keeps it as it is written. -/
theorem acceptAny?_eq_some : acceptAny? choices v = some x ↔ (∃ c ∈ choices, c.Conforms v) ∧ v = x.written := by
  constructor
  · intro h
    obtain ⟨c, hc, haccept⟩ := List.exists_of_findSome?_eq_some h
    obtain ⟨hconforms, hv⟩ := Choice.conforms_of_accept? haccept
    exact ⟨⟨c, hc, hconforms⟩, hv⟩
  · rintro ⟨⟨c, hc, hconforms⟩, rfl⟩
    have hsome : (acceptAny? choices x.written).isSome :=
      List.findSome?_isSome_iff.2 ⟨c, hc, by rw [Choice.accept?_of_conforms hconforms]; rfl⟩
    obtain ⟨y, hy⟩ := Option.isSome_iff_exists.1 hsome
    obtain ⟨_, _, haccept⟩ := List.exists_of_findSome?_eq_some hy
    rw [hy, OptionValue.written_injective (Choice.conforms_of_accept? haccept).2]

theorem acceptItem?_eq_some {s : String} :
    acceptItem? choices v = some s ↔ (∃ c ∈ choices, c.Conforms v) ∧ v = .text s := by
  rw [← show OptionValue.written (.text s) = .text s from rfl, ← acceptAny?_eq_some]
  unfold acceptItem?
  constructor
  · intro h
    split at h
    · next heq =>
      cases h
      exact heq
    · cases h
  · intro h
    rw [h]

theorem mapM_acceptItem?_eq_some {xs : List Value} {ys : List String} :
    xs.mapM (acceptItem? choices) = some ys ↔ (∀ v ∈ xs, ∃ c ∈ choices, c.Conforms v) ∧ xs = ys.map .text := by
  induction xs generalizing ys with
  | nil => cases ys <;> simp
  | cons v xs ih =>
    rw [List.mapM_cons]
    simp only [Option.bind_eq_bind, Option.bind_eq_some_iff, acceptItem?_eq_some, ih, Option.pure_def, Option.some.injEq]
    constructor
    · rintro ⟨s, ⟨hv, rfl⟩, ys, ⟨hxs, rfl⟩, rfl⟩
      exact ⟨List.forall_mem_cons.2 ⟨hv, hxs⟩, rfl⟩
    · rintro ⟨hall, heq⟩
      obtain ⟨hv, hxs⟩ := List.forall_mem_cons.1 hall
      cases ys with
      | nil => cases heq
      | cons s ys =>
        obtain ⟨rfl, rfl⟩ := List.cons.inj heq
        exact ⟨s, ⟨hv, rfl⟩, ys, ⟨hxs, rfl⟩, rfl⟩

/-- The values that a schema accepts are those that conform to it, and they are kept as written. -/
theorem Schema.accept?_eq_some : schema.accept? v = some x ↔ schema.Conforms v ∧ v = x.written := by
  cases schema with
  | ofType type =>
    exact ⟨Choice.conforms_of_accept?, fun ⟨h, hv⟩ => by rw [hv] at h ⊢; exact Choice.accept?_of_conforms h⟩
  | oneOf choices => exact acceptAny?_eq_some
  | listOf choices =>
    constructor
    · intro h
      cases v with
      | list xs =>
        obtain ⟨ys, hys, rfl⟩ := Option.map_eq_some_iff.1 h
        obtain ⟨hall, rfl⟩ := mapM_acceptItem?_eq_some.1 hys
        exact ⟨⟨_, rfl, hall⟩, rfl⟩
      | _ => cases h
    · rintro ⟨⟨xs, rfl, hall⟩, hx⟩
      cases x with
      | list ys =>
        obtain rfl : xs = ys.map .text := Value.list.inj hx
        exact Option.map_eq_some_iff.2 ⟨ys, mapM_acceptItem?_eq_some.2 ⟨hall, rfl⟩, rfl⟩
      | _ => cases hx

def Choice.isText : Choice → Bool
  | .anyOf .text | .text _ => true
  | _ => false

/-- Whether a schema asks for lists only if they are lists of texts. -/
def Schema.listsTexts : Schema → Bool
  | .listOf choices => choices.all Choice.isText
  | _ => true

/-- The options of all rules: what they are without being set conforms to what they ask for. -/
theorem schema_facts (rule : Rule) : ∀ spec ∈ rule.specs,
    spec.schema.accept? spec.default.written = some spec.default ∧ spec.schema.listsTexts = true := by
  obtain r | r | r := rule <;> cases r <;> decide

theorem Choice.exists_written (h : c.Conforms v) : ∃ x : OptionValue, v = x.written := by
  cases c with
  | anyOf type =>
    cases type with
    | bool => exact h.elim fun b hv => ⟨.bool b, hv⟩
    | int => exact h.elim fun n hv => ⟨.int n, hv⟩
    | text => exact h.elim fun s hv => ⟨.text s, hv⟩
  | bool b => exact ⟨.bool b, h⟩
  | text s => exact ⟨.text s, h⟩

theorem Choice.exists_text (hc : c.isText = true) (h : c.Conforms v) : ∃ s : String, v = .text s := by
  cases c with
  | anyOf type =>
    cases type with
    | text => exact h
    | _ => cases hc
  | bool b => cases hc
  | text s => exact ⟨s, h⟩

theorem Schema.exists_written (hschema : schema.listsTexts = true) (h : schema.Conforms v) :
    ∃ x : OptionValue, v = x.written := by
  cases schema with
  | ofType type => exact Choice.exists_written h
  | oneOf choices =>
    obtain ⟨c, -, hc⟩ := h
    exact Choice.exists_written hc
  | listOf choices =>
    obtain ⟨xs, rfl, hall⟩ := h
    have htexts : xs ∈ Set.range (List.map Value.text) := by
      rw [Set.range_list_map]
      intro v hv
      obtain ⟨c, hc, hconforms⟩ := hall v hv
      obtain ⟨s, rfl⟩ := Choice.exists_text (List.all_eq_true.1 hschema c hc) hconforms
      exact ⟨s, rfl⟩
    obtain ⟨ys, rfl⟩ := htexts
    exact ⟨.list ys, rfl⟩

/-- For the options of rules, what conforms is accepted. -/
theorem accept?_isSome_iff {rule : Rule} {spec : OptionSpec} (hspec : spec ∈ rule.specs) :
    (spec.schema.accept? v).isSome ↔ spec.schema.Conforms v := by
  rw [Option.isSome_iff_exists]
  constructor
  · rintro ⟨x, hx⟩
    exact (Schema.accept?_eq_some.1 hx).1
  · intro h
    obtain ⟨x, hx⟩ := Schema.exists_written (schema_facts rule spec hspec).2 h
    exact ⟨x, Schema.accept?_eq_some.2 ⟨h, hx⟩⟩

end Rule

end YamlStyle
