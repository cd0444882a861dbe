import YamlStyle.Proofs.Yaml.Ensures
import YamlStyle.Proofs.Yaml.Phrasing

/-!
# How computations fail

The other side of what computations ensure: with what failures one of them may stop. Most stop at
faults only (`Faults`). What is said of both sides, from a fact about the state on, is a contract
(`Meets`).
-/

namespace YamlStyle.Yaml

variable {σ α β : Type} {s : σ} {E : Failure → Prop}

/-- If the computation fails from `s`, the failure satisfies `E`. -/
def FailsIn (x : StateT σ (Except Failure) α) (s : σ) (E : Failure → Prop) : Prop :=
  ∀ e, x.run s = .error e → E e

@[simp] theorem failsIn_pure (a : α) : FailsIn (pure a : StateT σ (Except Failure) α) s E := by
  intro e h
  cases h

@[simp] theorem failsIn_bind {x : StateT σ (Except Failure) α} {f : α → StateT σ (Except Failure) β} :
    FailsIn (x >>= f) s E ↔ FailsIn x s E ∧ Ensures x s fun a s' => FailsIn (f a) s' E := by
  constructor
  · intro h
    constructor
    · intro e hx
      refine h e ?_
      rw [StateT.run_bind, hx]
      rfl
    · intro a s' hx e hf
      refine h e ?_
      rw [StateT.run_bind, hx]
      exact hf
  · rintro ⟨hx, hf⟩ e h
    rw [StateT.run_bind] at h
    cases hr : x.run s with
    | error e' =>
      rw [hr] at h
      cases h
      exact hx e hr
    | ok r =>
      rw [hr] at h
      exact hf r.1 r.2 hr e h

@[simp] theorem failsIn_get : FailsIn (get : StateT σ (Except Failure) σ) s E := failsIn_pure s

@[simp] theorem failsIn_set (s' : σ) : FailsIn (set s' : StateT σ (Except Failure) PUnit) s E := by
  intro e h
  cases h

@[simp] theorem failsIn_modify (f : σ → σ) : FailsIn (modify f : StateT σ (Except Failure) PUnit) s E := by
  intro e h
  cases h

@[simp] theorem failsIn_modifyGet (f : σ → α × σ) : FailsIn (modifyGet f : StateT σ (Except Failure) α) s E := by
  intro e h
  cases h

@[simp] theorem failsIn_throw (e : Failure) : FailsIn (throw e : StateT σ (Except Failure) α) s E ↔ E e := by
  constructor
  · intro h
    exact h e rfl
  · intro h e' hr
    cases hr
    exact h

@[simp] theorem failsIn_lift (x : Except Failure α) :
    FailsIn (liftM x : StateT σ (Except Failure) α) s E ↔ ∀ e, x = .error e → E e := by
  cases x with
  | error e => exact ⟨fun h e' he => h e' (by cases he; rfl), fun h e' hr => h e' (by cases hr; rfl)⟩
  | ok a => exact iff_of_true (fun _ h => by cases h) fun _ h => by cases h

/-! ## Faults -/

/-- A fault of the form of the text, with what was expected and where. -/
def Failure.IsFault (e : Failure) : Prop := ∃ f, e = .fault f ∧ f.IsOfForm

/-- A computation that fails with faults only. -/
def Faults (x : StateT σ (Except Failure) α) : Prop := ∀ s, FailsIn x s Failure.IsFault

theorem faults_pure (a : α) : Faults (pure a : StateT σ (Except Failure) α) := fun _ => failsIn_pure a

theorem Faults.bind {x : StateT σ (Except Failure) α} {f : α → StateT σ (Except Failure) β} (hx : Faults x)
    (hf : ∀ a, Faults (f a)) : Faults (x >>= f) := fun s => failsIn_bind.2 ⟨hx s, fun a s' _ => hf a s'⟩

theorem faults_get : Faults (get : StateT σ (Except Failure) σ) := fun _ => failsIn_get

theorem faults_modify (f : σ → σ) : Faults (modify f : StateT σ (Except Failure) PUnit) := fun _ => failsIn_modify f

theorem faults_modifyGet (f : σ → α × σ) : Faults (modifyGet f : StateT σ (Except Failure) α) :=
  fun _ => failsIn_modifyGet f

theorem faults_throw (f : Fault) (h : f.IsOfForm) :
    Faults (throw (.fault f) : StateT σ (Except Failure) α) :=
  fun _ => (failsIn_throw _).2 ⟨f, rfl, h⟩

theorem faults_ite {b : Prop} [Decidable b] {x y : StateT σ (Except Failure) α} (hx : Faults x) (hy : Faults y) :
    Faults (if b then x else y) := by
  split
  · exact hx
  · exact hy

/-- A check that stops at a fault or does nothing. -/
theorem faults_check {b : Prop} [Decidable b] {x : StateT σ (Except Failure) PUnit}
    {y : PUnit → StateT σ (Except Failure) α} (hx : Faults x) (hy : ∀ u, Faults (y u)) :
    Faults (if b then x >>= y else y ⟨⟩) :=
  faults_ite (hx.bind hy) (hy ⟨⟩)

/-! ## Contracts -/

/-- From a state that satisfies `P` on, the computation gives a result and a state that satisfy `Q`, or
fails with a failure in `E`. -/
def Meets (P : σ → Prop) (E : Failure → Prop) (x : StateT σ (Except Failure) α) (Q : α → σ → Prop) : Prop :=
  ∀ s, P s → Ensures x s Q ∧ FailsIn x s E

variable {P P' : σ → Prop} {Q R : α → σ → Prop}

theorem meets_pure {a : α} (h : ∀ s, P s → Q a s) : Meets P E (pure a) Q :=
  fun s hs => ⟨(ensures_pure a).2 (h s hs), failsIn_pure a⟩

theorem meets_pure_bind {Q : β → σ → Prop} {a : α} {f : α → StateT σ (Except Failure) β} (h : Meets P E (f a) Q) :
    Meets P E (pure a >>= f) Q := by
  rwa [pure_bind]

theorem Meets.bind {Q : β → σ → Prop} {x : StateT σ (Except Failure) α} {f : α → StateT σ (Except Failure) β}
    (hx : Meets P E x R) (hf : ∀ a, Meets (R a) E (f a) Q) : Meets P E (x >>= f) Q := by
  intro s hs
  obtain ⟨hok, hfail⟩ := hx s hs
  constructor
  · exact ensures_bind.2 (hok.imp fun a s' h => (hf a s' h).1)
  · exact failsIn_bind.2 ⟨hfail, hok.imp fun a s' h => (hf a s' h).2⟩

theorem Meets.pre {x : StateT σ (Except Failure) α} (hx : Meets P E x Q) (h : ∀ s, P' s → P s) : Meets P' E x Q :=
  fun s hs => hx s (h s hs)

theorem Meets.post {x : StateT σ (Except Failure) α} (hx : Meets P E x Q) (h : ∀ a s, Q a s → R a s) :
    Meets P E x R :=
  fun s hs => ⟨(hx s hs).1.imp h, (hx s hs).2⟩

/-- What is ensured of results from any state on is part of the contract. -/
theorem Meets.and_ensures {Q : α → Prop} {R : α → σ → Prop} {x : StateT σ (Except Failure) α} (hx : Meets P E x R)
    (h : ∀ s, Ensures x s fun a _ => Q a) : Meets P E x fun a s => Q a ∧ R a s :=
  fun s hs => ⟨fun a s' hr => ⟨h s a s' hr, (hx s hs).1 a s' hr⟩, (hx s hs).2⟩

theorem meets_exists {ι : Sort*} {P : ι → σ → Prop} {x : StateT σ (Except Failure) α} (h : ∀ i, Meets (P i) E x Q) :
    Meets (fun s => ∃ i, P i s) E x Q := by
  rintro s ⟨i, hs⟩
  exact h i s hs

theorem meets_and {p : Prop} {x : StateT σ (Except Failure) α} (h : p → Meets P E x Q) :
    Meets (fun s => p ∧ P s) E x Q := by
  rintro s ⟨hp, hs⟩
  exact h hp s hs

theorem meets_get : Meets P E get fun a s => a = s ∧ P s := fun _ hs => ⟨ensures_get.2 ⟨rfl, hs⟩, failsIn_get⟩

theorem meets_set {s' : σ} {Q : PUnit → σ → Prop} (h : ∀ s, P s → Q ⟨⟩ s') : Meets P E (set s') Q :=
  fun s hs => ⟨(ensures_set s').2 (h s hs), failsIn_set s'⟩

theorem meets_modify {f : σ → σ} {Q : PUnit → σ → Prop} (h : ∀ s, P s → Q ⟨⟩ (f s)) : Meets P E (modify f) Q :=
  fun s hs => ⟨(ensures_modify f).2 (h s hs), failsIn_modify f⟩

theorem meets_throw {e : Failure} (h : ∀ s, P s → E e) : Meets P E (throw e) Q :=
  fun s hs => ⟨ensures_throw e, (failsIn_throw e).2 (h s hs)⟩

theorem meets_lift {x : Except Failure α} (hok : ∀ s a, P s → x = .ok a → Q a s)
    (herror : ∀ s e, P s → x = .error e → E e) : Meets P E (liftM x) Q :=
  fun s hs => ⟨(ensures_lift x).2 fun a => hok s a hs, (failsIn_lift x).2 fun e => herror s e hs⟩

theorem meets_ite {b : Prop} [Decidable b] {x y : StateT σ (Except Failure) α} (hx : b → Meets P E x Q)
    (hy : ¬b → Meets P E y Q) : Meets P E (if b then x else y) Q := by
  split
  · next h => exact hx h
  · next h => exact hy h

end YamlStyle.Yaml
