import YamlStyle.Proofs.Yaml.Ensures
import YamlStyle.Proofs.Yaml.Layout
import YamlStyle.Yaml.Event

/-!
# What the grammar takes

The grammar as an automaton with a stack: which tokens may come inside which collections. It
takes fewer than the tokens that can be scanned, and more than those that have events.
-/

namespace YamlStyle.Yaml

/-- A collection that is open. -/
inductive Level where
  | sequence | mapping | flow
  deriving DecidableEq, Repr

def Level.isBlock : Level → Bool
  | flow => false
  | sequence | mapping => true

/-- Tokens of documents and flow collections after which a node may start. -/
def TokenKind.opensNode : TokenKind → Bool
  | streamStart | documentStart | documentEnd | flowSequenceStart | flowMappingStart | flowEntry => true
  | _ => false

/-- The content of a node follows on a token that leads to it. -/
def Leads (levels : List Level) (last : TokenKind) : Prop :=
  last.isLead = true ∨ last.opensNode = true ∧ ∀ l ∈ levels.head?, l.isBlock = false

/-- Whether a token may come within `levels`, innermost first, after the token `last`. -/
def Allows (levels : List Level) (last : TokenKind) : TokenKind → Prop
  | .streamStart => False
  | .directive _ | .documentStart | .documentEnd | .streamEnd => levels = []
  | .flowEntry | .flowSequenceEnd | .flowMappingEnd => levels.head? = some .flow
  | .key | .value => levels.head? ≠ some .sequence
  | .alias _ | .anchor _ | .tag _ | .scalar _ _ | .flowSequenceStart | .flowMappingStart
  | .blockSequenceStart | .blockMappingStart => Leads levels last
  | .blockEnd | .blockEntry => True

def levelsAfter (levels : List Level) : TokenKind → List Level
  | .blockSequenceStart => .sequence :: levels
  | .blockMappingStart => .mapping :: levels
  | .flowSequenceStart | .flowMappingStart => .flow :: levels
  | .blockEnd | .flowSequenceEnd | .flowMappingEnd => levels.tail
  | _ => levels

/-- Whether tokens may come one after another up to the end of the stream. -/
def Accepts : List Level → TokenKind → List TokenKind → Prop
  | _, _, [] => False
  | levels, last, kind :: kinds =>
    Allows levels last kind ∧ (kind = .streamEnd ∨ Accepts (levelsAfter levels kind) kind kinds)

theorem leads_of_isLead {levels : List Level} {last : TokenKind} (h : last.isLead = true) : Leads levels last := .inl h

theorem leads_nil {last : TokenKind} (h : last.opensNode = true) : Leads [] last := by
  refine .inr ⟨h, fun l hl => ?_⟩
  cases hl

theorem leads_flow {levels : List Level} {last : TokenKind} (h : last.opensNode = true) : Leads (.flow :: levels) last := by
  refine .inr ⟨h, fun l hl => ?_⟩
  cases hl
  rfl

/-! ## Steps of the grammar -/

namespace Step

/-- The collection that a step is inside of. -/
def levels : Step → List Level
  | entry => [.sequence]
  | key | value => [.mapping]
  | flowEntry | pairKey | pairValue | pairEnd | flowKey | flowValue | flowMissingValue => [.flow]
  | _ => []

/-- The token at which a step starts, where it is certain. -/
def starts : Step → Option TokenKind
  | firstEntry => some .blockSequenceStart
  | firstKey => some .blockMappingStart
  | flowFirstEntry => some .flowSequenceStart
  | flowFirstKey => some .flowMappingStart
  | pairKey => some .key
  | _ => none

/-- Whether a step is at the start of a document, where its node may stand. -/
def begins : Step → Bool
  | implicitDocument | documentContent | blockNode => true
  | _ => false

theorem begins_of_starts {step : Step} {kind : TokenKind} (h : step.starts = some kind) : step.begins = false := by
  cases step <;> first | rfl | cases h

/-- Whether a node inside a collection may return to a step. -/
def isReturn : Step → Bool
  | entry | indentlessEntry | key | value | flowEntry | pairValue | pairEnd | flowKey | flowValue
  | flowMissingValue => true
  | _ => false

/-- A bound of the steps that take no token from a step on, until one does. -/
def weight : Step → Nat
  | streamStart | document | firstEntry | firstKey | flowFirstEntry | flowFirstKey => 1
  | entry | indentlessEntry | pairKey | flowEntry | flowKey => 1
  | documentEnd | blockNode | documentContent | key | value | pairEnd | flowValue | flowMissingValue => 2
  | pairValue => 3
  | implicitDocument => 5

/-- The weight of a step that sees the next token. -/
def weightAt (step : Step) (next : Option TokenKind) : Nat :=
  match step with
  | key => if next = some .value then 2 else 1
  | value => if next = some .value then 1 else 2
  | _ => step.weight

theorem weightAt_le (step : Step) (next : Option TokenKind) : step.weightAt next ≤ step.weight := by
  unfold weightAt weight
  cases step <;> simp only <;> first | (split <;> omega) | omega

theorem one_le_weightAt (step : Step) (next : Option TokenKind) : 1 ≤ step.weightAt next := by
  unfold weightAt weight
  cases step <;> simp only <;> first | (split <;> omega) | omega

end Step

def levelsOf (steps : List Step) : List Level := steps.flatMap Step.levels

def weightOf (steps : List Step) : Nat := (steps.map Step.weight).sum

@[simp] theorem levelsOf_cons (step : Step) (steps : List Step) :
    levelsOf (step :: steps) = step.levels ++ levelsOf steps := List.flatMap_cons ..

@[simp] theorem weightOf_cons (step : Step) (steps : List Step) :
    weightOf (step :: steps) = step.weight + weightOf steps := by
  simp [weightOf]

/-- Steps to return to, the end of a document the last of them. -/
def Returns (steps : List Step) : Prop :=
  ∃ inner, steps = inner ++ [.documentEnd] ∧ ∀ step ∈ inner, step.isReturn = true

theorem returns_documentEnd : Returns [.documentEnd] := ⟨[], rfl, fun _ h => by simp at h⟩

theorem Returns.cons {step : Step} {steps : List Step} (h : Returns steps) (hs : step.isReturn = true) :
    Returns (step :: steps) := by
  obtain ⟨inner, rfl, hinner⟩ := h
  refine ⟨step :: inner, rfl, fun s hmem => ?_⟩
  rcases List.mem_cons.1 hmem with rfl | hmem
  · exact hs
  · exact hinner s hmem

/-- A step, and those it may return to. -/
def Stacked (step : Step) (returns : List Step) : Prop :=
  match step with
  | .streamStart => False
  | .implicitDocument | .document | .documentEnd => returns = []
  | .documentContent | .blockNode => returns = [.documentEnd]
  | _ => Returns returns

theorem Returns.stacked {step : Step} {steps : List Step} (h : Returns (step :: steps)) : Stacked step steps := by
  obtain ⟨_ | ⟨s, inner⟩, heq, hinner⟩ := h
  · cases heq
    rfl
  · cases heq
    have hs := hinner step (by simp)
    have hrest : Returns (inner ++ [.documentEnd]) := ⟨inner, rfl, fun s hmem => hinner s (by simp [hmem])⟩
    cases step <;> first | exact hrest | (simp [Step.isReturn] at hs)

/-! ## Readers of events -/

/-- A reader for which `goal` holds if the grammar takes the tokens that are left. -/
structure Stands (goal : Prop) (levels : List Level) (last : TokenKind) (tokens : List Released)
    (failure : Option Failure) : Prop where
  closes : Accepts levels last (tokens.map (·.token.kind)) → goal
  fed : failure = none → ∃ r ∈ tokens, r.token.kind = .streamEnd

namespace Stands

variable {goal : Prop} {levels : List Level} {last : TokenKind} {r : Released} {rest : List Released}
  {failure : Option Failure}

theorem failure_ne_none (h : Stands goal levels last [] failure) : failure ≠ none := by
  intro hf
  obtain ⟨r, hr, -⟩ := h.fed hf
  simp at hr

theorem take {kind : TokenKind} (h : Stands goal levels last (r :: rest) failure) (hr : r.token.kind = kind)
    (ha : Allows levels last kind) (hne : kind ≠ .streamEnd) :
    Stands goal (levelsAfter levels kind) kind rest failure where
  closes hrest := by
    refine h.closes ?_
    rw [List.map_cons, hr]
    exact ⟨ha, .inr hrest⟩
  fed hf := by
    obtain ⟨r', hmem, hend⟩ := h.fed hf
    rcases List.mem_cons.1 hmem with rfl | hmem
    · exact absurd (hr.symm.trans hend) hne
    · exact ⟨r', hmem, hend⟩

theorem enter {kind : TokenKind} {tokens : List Released} (h : Stands goal levels last tokens failure)
    (hstart : tokens.head?.map (·.token.kind) = some kind ∧ Allows levels last kind) (hne : kind ≠ .streamEnd) :
    ∃ r rest, tokens = r :: rest ∧ Stands goal (levelsAfter levels kind) kind rest failure := by
  cases tokens with
  | nil => cases hstart.1
  | cons r rest => exact ⟨r, rest, rfl, h.take (Option.some.inj hstart.1) hstart.2 hne⟩

theorem finish (h : Stands goal [] last (r :: rest) failure) (hr : r.token.kind = .streamEnd) : goal := by
  refine h.closes ?_
  rw [List.map_cons, hr]
  exact ⟨rfl, .inl rfl⟩

end Stands

/-- A reader that has more steps to take, but fewer than `budget`. -/
structure Going (goal : Prop) (budget : Nat) (step : Step) (p : EventReader) : Prop where
  next : p.step = some step
  stacked : Stacked step p.returns
  stands : ∃ last, Stands goal (levelsOf (step :: p.returns)) last p.tokens p.failure ∧
    (∀ kind ∈ step.starts, p.tokens.head?.map (·.token.kind) = some kind ∧ Allows (levelsOf (step :: p.returns)) last kind) ∧
    (step.begins = true → last.opensNode = true)
  light : 5 * p.tokens.length + step.weightAt (p.tokens.head?.map (·.token.kind)) + weightOf p.returns < budget

/-- A reader at the end of the stream, or one that goes on. -/
def Settles (goal : Prop) (budget : Nat) (p : EventReader) : Prop :=
  (p.step = none ∧ goal) ∨ ∃ step, Going goal budget step p

section

variable {goal : Prop} {budget : Nat} {last : TokenKind} {tokens : List Released} {failure : Option Failure}
  {returns : List Step} {marks : List Mark} {handles : List (String × String)}

theorem settles_goto (step : Step) (h : Stands goal (levelsOf (step :: returns)) last tokens failure)
    (hs : Stacked step returns)
    (hstart : ∀ kind ∈ step.starts, tokens.head?.map (·.token.kind) = some kind ∧
      Allows (levelsOf (step :: returns)) last kind)
    (hbegin : step.begins = true → last.opensNode = true)
    (hb : 5 * tokens.length + step.weightAt (tokens.head?.map (·.token.kind)) + weightOf returns < budget) :
    Settles goal budget ⟨tokens, failure, some step, returns, marks, handles⟩ :=
  .inr ⟨step, rfl, hs, ⟨last, h, hstart, hbegin⟩, hb⟩

/-- At the start of a document. -/
theorem settles_begin (step : Step) (h : Stands goal (levelsOf (step :: returns)) last tokens failure)
    (hs : Stacked step returns) (hn : step.starts = none) (hlast : last.opensNode = true)
    (hb : 5 * tokens.length + step.weightAt (tokens.head?.map (·.token.kind)) + weightOf returns < budget) :
    Settles goal budget ⟨tokens, failure, some step, returns, marks, handles⟩ := by
  refine settles_goto step h hs (fun kind hk => ?_) (fun _ => hlast) hb
  rw [hn] at hk
  cases hk

theorem settles_next (step : Step) (h : Stands goal (levelsOf (step :: returns)) last tokens failure)
    (hs : Stacked step returns) (hn : step.starts = none ∧ step.begins = false)
    (hb : 5 * tokens.length + step.weightAt (tokens.head?.map (·.token.kind)) + weightOf returns < budget) :
    Settles goal budget ⟨tokens, failure, some step, returns, marks, handles⟩ := by
  refine settles_goto step h hs (fun kind hk => ?_) (fun hbegin => ?_) hb
  · rw [hn.1] at hk
    cases hk
  · rw [hn.2] at hbegin
    cases hbegin

/-- What a node returns to is neither bound to a token nor at the start of a document. -/
theorem Returns.starts_begins {step : Step} {steps : List Step} (h : Returns (step :: steps)) :
    step.starts = none ∧ step.begins = false := by
  obtain ⟨_ | ⟨s, inner⟩, heq, hinner⟩ := h
  · cases heq
    exact ⟨rfl, rfl⟩
  · cases heq
    have hs := hinner step (by simp)
    cases step <;> first | exact ⟨rfl, rfl⟩ | simp [Step.isReturn] at hs

/-- After a node the step goes on that called for it. -/
theorem settles_leave (h : Stands goal (levelsOf returns) last tokens failure) (hr : Returns returns)
    (hb : 5 * tokens.length + weightOf returns < budget) :
    Settles goal budget ⟨tokens, failure, returns.head?, returns.tail, marks, handles⟩ := by
  cases returns with
  | nil =>
    obtain ⟨inner, heq, -⟩ := hr
    simp at heq
  | cons step steps =>
    refine settles_next step h hr.stacked hr.starts_begins ?_
    have := step.weightAt_le (tokens.head?.map (·.token.kind))
    rw [weightOf_cons] at hb
    simp only [List.tail_cons]
    omega

end

end YamlStyle.Yaml
