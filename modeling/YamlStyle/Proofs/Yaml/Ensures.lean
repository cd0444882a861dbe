import Mathlib
import YamlStyle.Yaml.Cursor

/-!
# What computations ensure

Readers of characters, tokens and events are computations with a state that may fail. What one of
them ensures is said of the results it gives: where it fails there is nothing to show. One computation
follows another if it gives a result wherever the other does.
-/

namespace YamlStyle.Yaml

variable {σ α β ε : Type} {Q : α → σ → Prop} {s : σ}

/-- Whatever result the computation gives from `s`, it satisfies `Q`. -/
def Ensures (x : StateT σ (Except ε) α) (s : σ) (Q : α → σ → Prop) : Prop :=
  ∀ a s', x.run s = .ok (a, s') → Q a s'

theorem Ensures.imp {x : StateT σ (Except ε) α} {R : α → σ → Prop} (h : Ensures x s Q)
    (hqr : ∀ a s', Q a s' → R a s') : Ensures x s R := fun a s' hr => hqr a s' (h a s' hr)

@[simp] theorem ensures_pure (a : α) : Ensures (pure a : StateT σ (Except ε) α) s Q ↔ Q a s := by
  constructor
  · intro h
    exact h a s rfl
  · intro h b s' hr
    cases hr
    exact h

@[simp] theorem ensures_bind {x : StateT σ (Except ε) α} {f : α → StateT σ (Except ε) β}
    {Q : β → σ → Prop} : Ensures (x >>= f) s Q ↔ Ensures x s fun a s' => Ensures (f a) s' Q := by
  constructor
  · intro h a s' hx b s'' hf
    refine h b s'' ?_
    rw [StateT.run_bind, hx]
    exact hf
  · intro h b s'' hr
    rw [StateT.run_bind] at hr
    cases hx : x.run s with
    | error e => rw [hx] at hr; cases hr
    | ok r =>
      rw [hx] at hr
      exact h r.1 r.2 hx b s'' hr

@[simp] theorem ensures_get {Q : σ → σ → Prop} : Ensures (get : StateT σ (Except ε) σ) s Q ↔ Q s s := ensures_pure s

@[simp] theorem ensures_set {Q : PUnit → σ → Prop} (s' : σ) :
    Ensures (set s' : StateT σ (Except ε) PUnit) s Q ↔ Q ⟨⟩ s' := by
  constructor
  · intro h
    exact h ⟨⟩ s' rfl
  · intro h b s'' hr
    cases hr
    exact h

@[simp] theorem ensures_modify {Q : PUnit → σ → Prop} (f : σ → σ) :
    Ensures (modify f : StateT σ (Except ε) PUnit) s Q ↔ Q ⟨⟩ (f s) := by
  constructor
  · intro h
    exact h ⟨⟩ (f s) rfl
  · intro h b s'' hr
    cases hr
    exact h

@[simp] theorem ensures_throw (e : ε) : Ensures (throw e : StateT σ (Except ε) α) s Q := by
  intro a s' h
  cases h

@[simp] theorem ensures_map {x : StateT σ (Except ε) α} {f : α → β} {Q : β → σ → Prop} :
    Ensures (f <$> x) s Q ↔ Ensures x s fun a s' => Q (f a) s' := by
  rw [map_eq_pure_bind, ensures_bind]
  simp only [ensures_pure]

@[simp] theorem ensures_lift (x : Except ε α) :
    Ensures (liftM x : StateT σ (Except ε) α) s Q ↔ ∀ a, x = .ok a → Q a s := by
  cases x with
  | error e => exact iff_of_true (fun _ _ h => by cases h) fun _ h => by cases h
  | ok a =>
    refine ⟨fun h b hb => ?_, fun h b s' hr => ?_⟩
    · cases hb
      exact h a s rfl
    · cases hr
      exact h a rfl

@[simp] theorem ensures_ite {b : Prop} [Decidable b] {x y : StateT σ (Except ε) α} :
    Ensures (if b then x else y) s Q ↔ (b → Ensures x s Q) ∧ (¬b → Ensures y s Q) := by
  split <;> simp_all

end YamlStyle.Yaml

/-!
## One computation follows another

What one computation gives, another one gives as well, from a state of its own and up to a relation of the results.
Where the first one fails, or leaves a state that is of no interest, there is nothing to show.
-/

namespace YamlStyle.Yaml

variable {σ τ ρ α β γ δ ε ζ : Type} {G : σ → Prop} {s : σ} {s' : τ} {Q : α → σ → β → τ → Prop}

/-! ### Runs -/

theorem run_bind_ok {x : StateT σ (Except ε) α} {f : α → StateT σ (Except ε) β} {a : α} {r : σ} (h : x.run s = .ok (a, r)) :
    (x >>= f).run s = (f a).run r := by
  rw [StateT.run_bind, h]
  rfl

theorem exists_of_run_bind_ok {x : StateT σ (Except ε) α} {f : α → StateT σ (Except ε) β} {p : β × σ}
    (h : (x >>= f).run s = .ok p) : ∃ a r, x.run s = .ok (a, r) ∧ (f a).run r = .ok p := by
  rw [StateT.run_bind] at h
  cases hx : x.run s with
  | error e => rw [hx] at h; cases h
  | ok q =>
    rw [hx] at h
    exact ⟨q.1, q.2, rfl, h⟩

/-! ### Following -/

/-- Whatever `x` gives from `s` with a state that satisfies `G`, `y` gives from `s'`, up to `Q`. -/
def Follows (G : σ → Prop) (x : StateT σ (Except ε) α) (s : σ) (y : StateT τ (Except ζ) β) (s' : τ)
    (Q : α → σ → β → τ → Prop) : Prop :=
  ∀ a r, x.run s = .ok (a, r) → G r → ∃ b r', y.run s' = .ok (b, r') ∧ Q a r b r'

/-- No state is of no interest. -/
def anywhere (_ : σ) : Prop := True

namespace Follows

variable {x : StateT σ (Except ε) α} {y : StateT τ (Except ζ) β}

theorem imp {R : α → σ → β → τ → Prop} (h : Follows G x s y s' Q) (hqr : ∀ a r b r', G r → Q a r b r' → R a r b r') :
    Follows G x s y s' R := by
  intro a r hx hr
  obtain ⟨b, r', hy, hq⟩ := h a r hx hr
  exact ⟨b, r', hy, hqr a r b r' hr hq⟩

/-- Fewer states are of interest. -/
theorem within {G' : σ → Prop} (h : Follows G x s y s' Q) (hg : ∀ r, G' r → G r) : Follows G' x s y s' Q :=
  fun a r hx hr => h a r hx (hg r hr)

/-- What the first computation ensures comes with what is followed. -/
theorem and_ensures {P : α → σ → Prop} (h : Follows G x s y s' Q) (hp : Ensures x s P) :
    Follows G x s y s' fun a r b r' => Q a r b r' ∧ P a r := by
  intro a r hx hr
  obtain ⟨b, r', hy, hq⟩ := h a r hx hr
  exact ⟨b, r', hy, hq, hp a r hx⟩

/-- A step that is followed wherever it leads, and what comes after it. -/
theorem bind {R : γ → σ → δ → τ → Prop} {x : StateT σ (Except ε) γ} {f : γ → StateT σ (Except ε) α}
    {y : StateT τ (Except ζ) δ} {g : δ → StateT τ (Except ζ) β} (hx : Follows anywhere x s y s' R)
    (hf : ∀ a r b r', R a r b r' → Follows G (f a) r (g b) r' Q) : Follows G (x >>= f) s (y >>= g) s' Q := by
  intro a r hrun hr
  obtain ⟨a', r', hx', hf'⟩ := exists_of_run_bind_ok hrun
  obtain ⟨b, r1, hy, hmid⟩ := hx a' r' hx' trivial
  obtain ⟨b', r2, hg, hq⟩ := hf a' r' b r1 hmid a r hf' hr
  exact ⟨b', r2, by rw [run_bind_ok hy, hg], hq⟩

/-- A step after which no state of interest can be reached any more unless it has been followed. -/
theorem bind_within {M : σ → Prop} {R : γ → σ → δ → τ → Prop} {x : StateT σ (Except ε) γ}
    {f : γ → StateT σ (Except ε) α} {y : StateT τ (Except ζ) δ} {g : δ → StateT τ (Except ζ) β}
    (hx : Follows M x s y s' R) (hback : ∀ a r, Ensures (f a) r fun _ r' => G r' → M r)
    (hf : ∀ a r b r', M r → R a r b r' → Follows G (f a) r (g b) r' Q) : Follows G (x >>= f) s (y >>= g) s' Q := by
  intro a r hrun hr
  obtain ⟨a', r', hx', hf'⟩ := exists_of_run_bind_ok hrun
  have hmiddle := hback a' r' a r hf' hr
  obtain ⟨b, r1, hy, hmid⟩ := hx a' r' hx' hmiddle
  obtain ⟨b', r2, hg, hq⟩ := hf a' r' b r1 hmiddle hmid a r hf' hr
  exact ⟨b', r2, by rw [run_bind_ok hy, hg], hq⟩

/-- Where no state of interest can be reached there is nothing to follow. -/
theorem of_not (h : Ensures x s fun _ r => ¬G r) : Follows G x s y s' Q := fun a r hx hr => absurd hr (h a r hx)

end Follows

theorem follows_pure {a : α} {b : β} (h : Q a s b s') :
    Follows G (pure a : StateT σ (Except ε) α) s (pure b : StateT τ (Except ζ) β) s' Q := by
  intro a' r hx _
  cases hx
  exact ⟨b, s', rfl, h⟩

theorem follows_get {f : σ → StateT σ (Except ε) α} {g : τ → StateT τ (Except ζ) β}
    (h : Follows G (f s) s (g s') s' Q) : Follows G (get >>= f) s (get >>= g) s' Q := h

theorem follows_set {r : σ} {r' : τ} {f : PUnit → StateT σ (Except ε) α} {g : PUnit → StateT τ (Except ζ) β}
    (h : Follows G (f ⟨⟩) r (g ⟨⟩) r' Q) : Follows G (set r >>= f) s (set r' >>= g) s' Q := h

theorem follows_modify {p : σ → σ} {q : τ → τ} {f : PUnit → StateT σ (Except ε) α}
    {g : PUnit → StateT τ (Except ζ) β} (h : Follows G (f ⟨⟩) (p s) (g ⟨⟩) (q s') Q) :
    Follows G (modify p >>= f) s (modify q >>= g) s' Q := h

theorem follows_modify_end {Q : PUnit → σ → PUnit → τ → Prop} {p : σ → σ} {q : τ → τ} (h : Q ⟨⟩ (p s) ⟨⟩ (q s')) :
    Follows G (modify p : StateT σ (Except ε) PUnit) s (modify q : StateT τ (Except ζ) PUnit) s' Q := by
  intro a r hx _
  cases hx
  exact ⟨⟨⟩, q s', rfl, h⟩

theorem follows_throw {e : ε} {y : StateT τ (Except ζ) β} :
    Follows G (throw e : StateT σ (Except ε) α) s y s' Q := by
  intro a r hx
  cases hx

theorem follows_throw_bind {e : ε} {f : γ → StateT σ (Except ε) α} {y : StateT τ (Except ζ) β} :
    Follows G ((throw e : StateT σ (Except ε) γ) >>= f) s y s' Q := by
  intro a r hx
  cases hx

theorem follows_lift {x : Except ε α} {y : Except ζ β} (h : ∀ a, x = .ok a → ∃ b, y = .ok b ∧ Q a s b s') :
    Follows G (liftM x : StateT σ (Except ε) α) s (liftM y : StateT τ (Except ζ) β) s' Q := by
  intro a r hx _
  cases x with
  | error e => cases hx
  | ok a' =>
    cases hx
    obtain ⟨b, rfl, hq⟩ := h a rfl
    exact ⟨b, s', rfl, hq⟩

theorem follows_map {Q : γ → σ → δ → τ → Prop} {x : StateT σ (Except ε) α} {y : StateT τ (Except ζ) β} {f : α → γ}
    {g : β → δ} (h : Follows G x s y s' fun a r b r' => Q (f a) r (g b) r') :
    Follows G (f <$> x) s (g <$> y) s' Q := by
  intro c r hx hr
  rw [StateT.run_map] at hx
  cases hx' : x.run s with
  | error e => rw [hx'] at hx; cases hx
  | ok p =>
    rw [hx'] at hx
    cases hx
    obtain ⟨b, r', hy, hq⟩ := h p.1 p.2 hx' hr
    exact ⟨g b, r', by rw [StateT.run_map, hy]; rfl, hq⟩

theorem follows_ite {b b' : Prop} [Decidable b] [Decidable b'] {x y : StateT σ (Except ε) α}
    {x' y' : StateT τ (Except ζ) β} (hb : b ↔ b') (hx : b → Follows G x s x' s' Q) (hy : ¬b → Follows G y s y' s' Q) :
    Follows G (if b then x else y) s (if b' then x' else y') s' Q := by
  by_cases h : b
  · rw [if_pos h, if_pos (hb.1 h)]
    exact hx h
  · rw [if_neg h, if_neg fun h' => h (hb.2 h')]
    exact hy h

end YamlStyle.Yaml
