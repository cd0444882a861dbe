import Mathlib
import YamlStyle.Journal

/-!
# Contracts

A contract of a computation that leaves records says what its results satisfy, and what its failures
satisfy. Computations in sequence meet a contract together if each of them does.
-/

namespace YamlStyle

/-- A computation whose results satisfy `P` and whose failures satisfy `E`. -/
def Logged.Meets {ε α : Type} (x : Logged ε α) (P : α → Prop) (E : ε → Prop) : Prop :=
  (∀ a, x.outcome = .ok a → P a) ∧ ∀ e, x.outcome = .error e → E e

namespace Logged

variable {ε α β : Type} {P : α → Prop} {E : ε → Prop}

theorem meets_pure {a : α} (h : P a) : (pure a : Logged ε α).Meets P E := by
  constructor
  · intro b hb
    cases hb
    exact h
  · intro e he
    cases he

theorem meets_throw {e : ε} (h : E e) : (throw e : Logged ε α).Meets P E := by
  constructor
  · intro a ha
    cases ha
  · intro e' he
    cases he
    exact h

theorem meets_ite {b : Prop} [Decidable b] {x y : Logged ε α} (hx : b → x.Meets P E) (hy : ¬b → y.Meets P E) :
    (if b then x else y).Meets P E := by
  split
  · next h => exact hx h
  · next h => exact hy h

theorem Meets.weaken {x : Logged ε α} {F : ε → Prop} (hx : x.Meets P E) (h : ∀ e, E e → F e) : x.Meets P F :=
  ⟨hx.1, fun e he => h e (hx.2 e he)⟩

theorem Meets.bind {x : Logged ε α} {k : α → Logged ε β} {Q : β → Prop} (hx : x.Meets P E)
    (hk : ∀ a, P a → (k a).Meets Q E) : (x >>= k).Meets Q E := by
  constructor
  · intro b hb
    obtain ⟨a, ha, hb⟩ := outcome_bind_eq_ok.1 hb
    exact (hk a (hx.1 a ha)).1 b hb
  · intro e he
    rcases outcome_bind_eq_error.1 he with he | ⟨a, ha, he⟩
    · exact hx.2 e he
    · exact (hk a (hx.1 a ha)).2 e he

/-- What is known of the results alone. -/
theorem meets_of_ok {x : Logged ε α} (h : ∀ a, x.outcome = .ok a → P a) : x.Meets P fun _ => True :=
  ⟨h, fun _ _ => trivial⟩

end Logged

/-! ## Results -/

/-- What is known of a result that there is. -/
theorem exists_of_toOption {ε α β : Type} {x : Except ε α} {f : α → β} {b : β} (h : x.toOption.map f = some b) :
    ∃ a, x = .ok a ∧ f a = b := by
  cases x with
  | error e => cases h
  | ok a => exact ⟨a, rfl, Option.some.inj h⟩

end YamlStyle
