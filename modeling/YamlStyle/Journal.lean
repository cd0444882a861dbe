/-!
# Journals

What a computation notes about its own course, apart from what it computes. The records that a
computation leaves stay when it fails.
-/

namespace YamlStyle

/-- How much a record matters. -/
inductive Severity where
  | debug | info | warning | error | critical
  deriving DecidableEq, Repr

namespace Severity

def rank : Severity → Nat
  | debug => 10
  | info => 20
  | warning => 30
  | error => 40
  | critical => 50

def name : Severity → String
  | debug => "DEBUG"
  | info => "INFO"
  | warning => "WARNING"
  | error => "ERROR"
  | critical => "CRITICAL"

end Severity

/-- A note about the course of a computation, and the part of the program it comes from. -/
structure Record where
  severity : Severity
  origin : String
  message : String
  deriving DecidableEq, Repr

/-- The records that a computation leaves, and its result or why it failed. -/
structure Logged (ε α : Type) where
  records : List Record
  outcome : Except ε α

namespace Logged

variable {ε α β : Type}

protected def pure (a : α) : Logged ε α := ⟨[], .ok a⟩

protected def bind (x : Logged ε α) (f : α → Logged ε β) : Logged ε β :=
  match x.outcome with
  | .error e => ⟨x.records, .error e⟩
  | .ok a => ⟨x.records ++ (f a).records, (f a).outcome⟩

instance : Monad (Logged ε) where
  pure := Logged.pure
  bind := Logged.bind

instance : MonadExceptOf ε (Logged ε) where
  throw e := ⟨[], .error e⟩
  tryCatch x handle :=
    match x.outcome with
    | .error e => ⟨x.records ++ (handle e).records, (handle e).outcome⟩
    | .ok _ => x

theorem outcome_pure (a : α) : (pure a : Logged ε α).outcome = .ok a := rfl

/-- The result of a computation does not depend on the records left before. -/
theorem outcome_bind (x : Logged ε α) (f : α → Logged ε β) :
    (x >>= f).outcome = x.outcome >>= fun a => (f a).outcome := by
  show (Logged.bind x f).outcome = _
  unfold Logged.bind
  cases x.outcome <;> rfl

theorem outcome_bind_eq_ok {x : Logged ε α} {f : α → Logged ε β} {b : β} :
    (x >>= f).outcome = .ok b ↔ ∃ a, x.outcome = .ok a ∧ (f a).outcome = .ok b := by
  rw [outcome_bind]
  cases x.outcome with
  | error e => simp [bind, Except.bind]
  | ok a => simp [bind, Except.bind]

theorem outcome_bind_eq_error {x : Logged ε α} {f : α → Logged ε β} {e : ε} :
    (x >>= f).outcome = .error e ↔ x.outcome = .error e ∨ ∃ a, x.outcome = .ok a ∧ (f a).outcome = .error e := by
  rw [outcome_bind]
  cases x.outcome with
  | error e => simp [bind, Except.bind]
  | ok a => simp [bind, Except.bind]

def ofExcept (outcome : Except ε α) : Logged ε α := ⟨[], outcome⟩

/-- Leaves one record. -/
def note (r : Record) : Logged ε Unit := ⟨[r], .ok ()⟩

def debug (origin message : String) : Logged ε Unit := note ⟨.debug, origin, message⟩

/-- The same computation, its failure told in other terms. -/
def mapError {ε' : Type} (f : ε → ε') (x : Logged ε α) : Logged ε' α :=
  ⟨x.records, x.outcome.mapError f⟩

theorem outcome_mapError_eq_ok {ε' : Type} {f : ε → ε'} {x : Logged ε α} {a : α} :
    (x.mapError f).outcome = .ok a ↔ x.outcome = .ok a := by
  show x.outcome.mapError f = .ok a ↔ _
  cases x.outcome with
  | error e => exact ⟨nofun, nofun⟩
  | ok b => exact ⟨fun h => congrArg Except.ok (Except.ok.inj h), fun h => congrArg Except.ok (Except.ok.inj h)⟩

theorem outcome_mapError_eq_error {ε' : Type} {f : ε → ε'} {x : Logged ε α} {e : ε'} :
    (x.mapError f).outcome = .error e ↔ ∃ e', x.outcome = .error e' ∧ f e' = e := by
  show x.outcome.mapError f = .error e ↔ _
  constructor
  · intro h
    cases hx : x.outcome with
    | error e' => exact ⟨e', rfl, Except.error.inj (hx ▸ h)⟩
    | ok a => cases hx ▸ h
  · rintro ⟨e', hx, rfl⟩
    rw [hx]
    rfl

end Logged

/-- A computation that leaves records and asks its surroundings on the way. -/
def LoggedT (m : Type → Type) (ε α : Type) := m (Logged ε α)

namespace LoggedT

variable {m : Type → Type} [Monad m] {ε α β : Type}

def run (x : LoggedT m ε α) : m (Logged ε α) := x

protected def pure (a : α) : LoggedT m ε α := (pure (Logged.pure a) : m (Logged ε α))

protected def bind (x : LoggedT m ε α) (f : α → LoggedT m ε β) : LoggedT m ε β := show m _ from do
  let first ← x.run
  match first.outcome with
  | .error e => return ⟨first.records, .error e⟩
  | .ok a =>
    let second ← (f a).run
    return ⟨first.records ++ second.records, second.outcome⟩

instance : Monad (LoggedT m ε) where
  pure := LoggedT.pure
  bind := LoggedT.bind

/-- Asks the surroundings. -/
def ask (x : m α) : LoggedT m ε α := show m _ from do return Logged.pure (← x)

/-- The result of a computation whose surroundings are a value. -/
def outcome (x : LoggedT Id ε α) : Except ε α := (Id.run x).outcome

theorem outcome_bind (x : LoggedT Id ε α) (f : α → LoggedT Id ε β) :
    (x >>= f).outcome = x.outcome >>= fun a => (f a).outcome := by
  obtain ⟨records, result⟩ := x
  cases result <;> rfl

theorem outcome_bind_eq_ok {x : LoggedT Id ε α} {f : α → LoggedT Id ε β} {b : β} :
    (x >>= f).outcome = .ok b ↔ ∃ a, x.outcome = .ok a ∧ (f a).outcome = .ok b := by
  rw [outcome_bind]
  cases x.outcome with
  | error e => simp [Bind.bind, Except.bind]
  | ok a => simp [Bind.bind, Except.bind]

def ofLogged (x : Logged ε α) : LoggedT m ε α := (pure x : m (Logged ε α))

def fail (e : ε) : LoggedT m ε α := ofLogged (throw e)

/-- Leaves a record. -/
def note (r : Record) : LoggedT m ε Unit := ofLogged (Logged.note r)

def debug (origin message : String) : LoggedT m ε Unit := ofLogged (Logged.debug origin message)

/-- The same computation, its failure told in other terms. -/
def mapError {ε' : Type} (f : ε → ε') (x : LoggedT m ε α) : LoggedT m ε' α := show m _ from do
  return (← x.run).mapError f

end LoggedT

end YamlStyle
