import YamlStyle.Proofs.Rule.Indentation.Levels

/-!
# The step that is inferred

A step that has to be consistent is taken from the first nested level and then stays. A rule that is told
that step from the start keeps the same levels after each lexeme and has the same findings, as long as
sequences need not be deeper than the mappings around them (`steps_inferred`).
-/

namespace YamlStyle.Rule.Indentation

variable {α β : Type} {t : Text} {w : Window} {x : Lexeme} {o : Options} {k : Int} {s : State}

/-! ## Steps -/

/-- A step that is known stays. -/
def Step.LeadsTo (a b : Step) : Prop := ∀ n, a = .columns n → b = .columns n

/-- No other step than `k` is known. -/
def Step.Allows (k : Int) (a : Step) : Prop := ∀ n, a = .columns n → n = k

namespace Step.LeadsTo

variable {a b c : Step}

theorem refl (a : Step) : a.LeadsTo a := fun _ h => h

theorem trans (hab : a.LeadsTo b) (hbc : b.LeadsTo c) : a.LeadsTo c := fun n h => hbc n (hab n h)

theorem allows (h : a.LeadsTo b) (hb : b.Allows k) : a.Allows k := fun n hn => hb n (h n hn)

end Step.LeadsTo

namespace State

/-- The same state of a rule that has been told the step. -/
def told (s : State) (k : Int) : State := { s with step := .columns k }

@[simp] theorem top_told : (s.told k).top = s.top := rfl

@[simp] theorem frames_told : (s.told k).frames = s.frames := rfl

@[simp] theorem root_told : (s.told k).root = s.root := rfl

@[simp] theorem line_told : (s.told k).line = s.line := rfl

@[simp] theorem lineIndent_told : (s.told k).lineIndent = s.lineIndent := rfl

@[simp] theorem sequences_told : (s.told k).sequences = s.sequences := rfl

@[simp] theorem isFirst_told : (s.told k).isFirst x = s.isFirst x := rfl

/-- Sequences are not found to be deeper before the step is known. -/
def IsInferring (s : State) : Prop := s.sequences = .indented → s.step ≠ .consistent

end State

/-! ## Results -/

/-- What comes of a state, and what comes of it if the step has been told: the same, if it is the step that
is known in the end. -/
structure Agree (k : Int) (s : State) (r r' : State × α) : Prop where
  leads : s.step.LeadsTo r.1.step
  inferring : r.1.IsInferring
  told : r.1.step.Allows k → r' = (r.1.told k, r.2)

namespace Agree

variable {r r' : State × α}

theorem same (s' : State) (hs : s.IsInferring) (hstep : s'.step = s.step) (hsequences : s'.sequences = s.sequences)
    (a : α) : Agree k s (s', a) (s'.told k, a) where
  leads := by
    rw [hstep]
    exact .refl _
  inferring := by
    unfold State.IsInferring
    rw [hstep, hsequences]
    exact hs
  told _ := rfl

theorem refl (hs : s.IsInferring) (a : α) : Agree k s (s, a) (s.told k, a) :=
  same s hs rfl rfl a

theorem trans (h : Agree k s r r') {g : α → State → State × β}
    (hg : r.1.IsInferring → Agree k r.1 (g r.2 r.1) (g r.2 (r.1.told k))) :
    Agree k s (g r.2 r.1) (g r'.2 r'.1) where
  leads := h.leads.trans (hg h.inferring).leads
  inferring := (hg h.inferring).inferring
  told hk := by
    rw [h.told ((hg h.inferring).leads.allows hk)]
    exact (hg h.inferring).told hk

/-- A change that leaves the step and what sequences are like may follow. -/
theorem change (h : Agree k s r r') {u : α → State → State} (hstep : ∀ a s, (u a s).step = s.step)
    (hsequences : ∀ a s, (u a s).sequences = s.sequences) (htold : ∀ a s, u a (s.told k) = (u a s).told k) (b : β) :
    Agree k s (u r.2 r.1, b) (u r'.2 r'.1, b) :=
  h.trans (g := fun a s => (u a s, b)) fun hs => by
    rw [htold]
    exact same _ hs (hstep _ _) (hsequences _ _) b

/-- Only the step of the state counts from which it comes. -/
theorem congr {s₁ : State} (h : Agree k s₁ r r') (hstep : s₁.step = s.step) : Agree k s r r' :=
  ⟨hstep ▸ h.leads, h.inferring, h.told⟩

theorem told_swap {r r' : α × State} (h : Agree k s r.swap r'.swap) (hk : r.2.step.Allows k) :
    r' = (r.1, r.2.told k) :=
  congrArg Prod.swap (h.told hk)

end Agree

/-! ## The column of a lexeme -/

theorem agree_deeper (s : State) (base found : Int) :
    Agree k s (s.deeper base found).swap ((s.told k).deeper base found).swap := by
  unfold State.deeper
  split
  · next n hstep =>
    refine ⟨.refl _, fun _ hnone => (by cases hstep.symm.trans hnone), fun hk => ?_⟩
    obtain rfl : n = k := hk n hstep
    rfl
  · next hstep =>
    refine ⟨fun n hn => (by cases hstep.symm.trans hn), fun _ => nofun, fun hk => ?_⟩
    have hfound : found - base = k := hk _ rfl
    subst hfound
    exact Prod.ext rfl (add_sub_cancel base found)

theorem agree_expected (hs : s.IsInferring) (x : Lexeme) :
    Agree k s (s.expected x).swap ((s.told k).expected x).swap := by
  unfold State.expected
  rw [State.top_told]
  dsimp only
  split
  · exact .refl hs _
  · split
    · exact agree_deeper s _ _
    · exact .refl hs _

theorem agree_checkColumn (hs : s.IsInferring) (x : Lexeme) :
    Agree k s (checkColumn x s) (checkColumn x (s.told k)) := by
  unfold checkColumn
  rw [State.isFirst_told]
  split
  · have h := agree_expected (k := k) hs x
    exact ⟨h.leads, h.inferring, fun hk => by rw [h.told_swap hk]⟩
  · exact .refl hs _

/-! ## Scalars of several lines -/

theorem agree_expectedInScalar (hs : s.IsInferring) (x : Lexeme) (found : Int) :
    Agree k s (s.expectedInScalar x found).swap ((s.told k).expectedInScalar x found).swap := by
  unfold State.expectedInScalar
  rw [State.top_told, State.frames_told, State.line_told, State.root_told]
  dsimp only
  split
  · exact .refl hs _
  · exact .refl hs _
  · exact .refl hs _
  · split
    · exact agree_deeper s _ _
    · exact agree_deeper s _ _
    · split
      · exact agree_deeper s _ _
      · exact agree_deeper s _ _
    · exact agree_deeper s _ _

theorem agree_checkScalar (hs : s.IsInferring) (t : Text) (x : Lexeme) :
    Agree k s (checkScalar t x s) (checkScalar t x (s.told k)) := by
  unfold checkScalar
  split
  · exact .refl hs _
  · dsimp only
    split
    · exact .refl hs _
    · next first _ _ =>
      have h := agree_expectedInScalar (k := k) hs x first
      exact ⟨h.leads, h.inferring, fun hk => by rw [h.told_swap hk]⟩

/-! ## Opening levels -/

theorem agree_openFlow (hs : s.IsInferring) (kind : FrameKind) (x next : Lexeme) :
    Agree k s (s.openFlow kind x next, true) ((s.told k).openFlow kind x next, true) := by
  have hindent : Agree k s
      (if next.start.line == x.start.line then ((next.start.column : Int), s)
        else s.deeper s.lineIndent next.start.column).swap
      (if next.start.line == x.start.line then ((next.start.column : Int), s.told k)
        else (s.told k).deeper s.lineIndent next.start.column).swap := by
    split
    · exact .refl hs _
    · exact agree_deeper s _ _
  exact hindent.change (u := fun indent s => s.push { kind, indent, lineIndent := some s.lineIndent })
    (fun _ _ => rfl) (fun _ _ => rfl) (fun _ _ => rfl) true

theorem agree_openEntry (hs : s.IsInferring) (x next : Lexeme) :
    Agree k s (s.openEntry x next, true) ((s.told k).openEntry x next, true) := by
  -- The sequence is there, or an indentless one is opened for the entry.
  obtain ⟨s₁, hs₁, hstep, hsequence, htold⟩ : ∃ s₁ : State, s₁.IsInferring ∧ s₁.step = s.step ∧
      (if s.top.kind == .blockSequence then s
        else s.push { kind := .blockSequence, indent := x.start.column, isIndentless := true }) = s₁ ∧
      (if s.top.kind == .blockSequence then s.told k
        else (s.told k).push { kind := .blockSequence, indent := x.start.column, isIndentless := true }) =
          s₁.told k := by
    split
    · exact ⟨s, hs, rfl, rfl, rfl⟩
    · exact ⟨s.push _, hs, rfl, rfl, rfl⟩
  unfold State.openEntry
  rw [State.top_told]
  dsimp only
  rw [hsequence, htold]
  have hindent : Agree k s₁
      (if next.start.line == x.stop.line || next.start.column == x.start.column then
          ((next.start.column : Int), s₁)
        else s₁.deeper x.start.column next.start.column).swap
      (if next.start.line == x.stop.line || next.start.column == x.start.column then
          ((next.start.column : Int), s₁.told k)
        else (s₁.told k).deeper x.start.column next.start.column).swap := by
    split
    · exact .refl hs₁ _
    · exact agree_deeper s₁ _ _
  exact (hindent.congr hstep).change (u := fun indent s => s.push { kind := .entry, indent })
    (fun _ _ => rfl) (fun _ _ => rfl) (fun _ _ => rfl) true

/-- Where sequences are found to be deeper, the step is known. -/
theorem agree_sequenceIndent (hs : s.IsInferring) (next : Lexeme) :
    Agree k s (s.sequenceIndent next).swap ((s.told k).sequenceIndent next).swap := by
  unfold State.sequenceIndent
  rw [State.top_told, State.sequences_told]
  dsimp only
  split
  · exact .refl hs _
  · next hindented =>
    have hknown : (s.step == .consistent) = false := beq_eq_false_iff_ne.2 (hs hindented)
    have htold : ((s.told k).step == .consistent) = false := rfl
    rw [hknown, htold]
    exact agree_deeper s _ _
  · split
    · exact .refl hs _
    · exact agree_deeper s _ _
  · split
    · exact ⟨.refl _, nofun, fun _ => rfl⟩
    · obtain ⟨hleads, hinferring, htold⟩ :=
        agree_deeper (k := k) { s with sequences := .indented } s.top.indent next.start.column
      exact ⟨hleads, hinferring, htold⟩

theorem agree_openValue (hs : s.IsInferring) (w : Window) (prev next : Lexeme) :
    Agree k s (s.openValue w prev next, true) ((s.told k).openValue w prev next, true) := by
  unfold State.openValue
  dsimp only
  split
  · exact .refl hs _
  · exact .refl hs _
  · exact .refl hs _
  · exact .refl hs _
  · generalize valueStart w prev next = next
    have hindent : Agree k s
        (if s.top.isExplicitKey then s.deeper s.top.indent next.start.column
          else if next.start.line == prev.start.line then ((next.start.column : Int), s)
          else if next.kind == .blockSequenceStart || next.kind == .blockEntry then s.sequenceIndent next
          else s.deeper s.top.indent next.start.column).swap
        (if s.top.isExplicitKey then (s.told k).deeper s.top.indent next.start.column
          else if next.start.line == prev.start.line then ((next.start.column : Int), s.told k)
          else if next.kind == .blockSequenceStart || next.kind == .blockEntry then (s.told k).sequenceIndent next
          else (s.told k).deeper s.top.indent next.start.column).swap := by
      split
      · exact agree_deeper s _ _
      · split
        · exact .refl hs _
        · split
          · exact agree_sequenceIndent hs next
          · exact agree_deeper s _ _
    exact hindent.change (u := fun indent s => s.push { kind := .value, indent })
      (fun _ _ => rfl) (fun _ _ => rfl) (fun _ _ => rfl) true

/-- The state after a lexeme has been tried, and whether it can stand where it does. -/
def State.tried (s : State) : Option State → State × Bool
  | some s => (s, true)
  | none => (s, false)

theorem agree_open? (hs : s.IsInferring) (t : Text) (w : Window) :
    Agree k s (s.tried (s.open? t w)) ((s.told k).tried ((s.told k).open? t w)) := by
  have hblock : ∀ (b : Bool) (f : Frame), Agree k s (s.tried (if b then some (s.push f) else none))
      ((s.told k).tried (if b then some ((s.told k).push f) else none)) := by
    intro b f
    cases b with
    | true => exact .same (s.push f) hs rfl rfl _
    | false => exact .refl hs _
  have hflow : ∀ kind (next : Option Lexeme), Agree k s (s.tried (next.map (s.openFlow kind w.curr)))
      ((s.told k).tried (next.map ((s.told k).openFlow kind w.curr))) := by
    intro kind next
    cases next with
    | some next => exact agree_openFlow hs kind w.curr next
    | none => exact .refl hs _
  unfold State.open?
  rw [State.top_told]
  dsimp only
  split
  · exact hblock _ _
  · exact hblock _ _
  · exact hflow _ _
  · exact hflow _ _
  · split
    · exact .refl hs _
    · exact agree_openEntry hs _ _
  · exact .same (s.push _) hs rfl rfl _
  · split
    · exact agree_openValue hs _ _ _
    · exact .refl hs _
  · exact .refl hs _
  · exact .refl hs _

/-! ## One lexeme -/

theorem agree_reach (hs : s.IsInferring) (t : Text) (x : Lexeme) (isFirst : Bool) :
    Agree k s (s.reach t x isFirst, ()) ((s.told k).reach t x isFirst, ()) := by
  have htold : (s.told k).reach t x isFirst = (s.reach t x isFirst).told k := by
    unfold State.reach
    split <;> rfl
  rw [htold]
  exact .same _ hs (step_reach s t x isFirst) (sequences_reach s t x isFirst) _

theorem agree_advance (hs : s.IsInferring) (t : Text) (w : Window) :
    Agree k s (s.advance t w) ((s.told k).advance t w) := by
  let g (isOpen : Bool) (s : State) : State × Bool :=
    if isOpen then ({ s with frames := (close w s.root false s.frames).1 }, (close w s.root false s.frames).2)
    else (s, false)
  have hadvance : ∀ s : State, s.advance t w = g (s.tried (s.open? t w)).2 (s.tried (s.open? t w)).1 := by
    intro s
    unfold State.advance
    cases s.open? t w <;> rfl
  rw [hadvance, hadvance]
  refine (agree_open? hs t w).trans (g := g) fun hs₁ => ?_
  generalize (s.tried (s.open? t w)).1 = s₁ at hs₁ ⊢
  cases (s.tried (s.open? t w)).2 with
  | true => exact .same { s₁ with frames := (close w s₁.root false s₁.frames).1 } hs₁ rfl rfl _
  | false => exact .refl hs₁ _

theorem agree_check (hs : s.IsInferring) (o : Options) (t : Text) (w : Window) :
    Agree k s (check o t w s) (check o t w (s.told k)) := by
  have hcolumn := agree_checkColumn (k := k) hs w.curr
  have hscalar : Agree k (checkColumn w.curr s).1
      (if w.curr.kind == .scalar && o.checkMultiLine then checkScalar t w.curr (checkColumn w.curr s).1
        else ((checkColumn w.curr s).1, []))
      (if w.curr.kind == .scalar && o.checkMultiLine then checkScalar t w.curr ((checkColumn w.curr s).1.told k)
        else ((checkColumn w.curr s).1.told k, [])) := by
    split
    · exact agree_checkScalar hcolumn.inferring t _
    · exact .refl hcolumn.inferring _
  have hreach := agree_reach (k := k) hscalar.inferring t w.curr (s.isFirst w.curr)
  have hadvance := agree_advance (k := k) hreach.inferring t w
  refine ⟨hcolumn.leads.trans (hscalar.leads.trans (hreach.leads.trans hadvance.leads)), hadvance.inferring,
    fun hk => ?_⟩
  have hreached := hadvance.leads.allows hk
  have hscanned := hreach.leads.allows hreached
  unfold check
  dsimp only
  rw [State.isFirst_told, hcolumn.told (hscalar.leads.allows hscanned)]
  dsimp only
  rw [hscalar.told hscanned]
  dsimp only
  rw [(Prod.mk.inj (hreach.told hreached)).1, hadvance.told hk]

/-! ## All lexemes -/

theorem leads_steps (hs : s.IsInferring) (o : Options) (t : Text) (ws : List Window) :
    (∀ r ∈ steps o t s ws, s.step.LeadsTo r.1.step) ∧
      (steps o t s ws).Pairwise fun r r' => r.1.step.LeadsTo r'.1.step := by
  induction ws generalizing s with
  | nil => exact ⟨List.forall_mem_nil _, .nil⟩
  | cons w ws ih =>
    have hcheck := agree_check (k := 0) hs o t w
    obtain ⟨hfrom, hpairwise⟩ := ih hcheck.inferring
    refine ⟨List.forall_mem_cons.2 ⟨hcheck.leads, fun r hr => hcheck.leads.trans (hfrom r hr)⟩, ?_⟩
    exact .cons hfrom hpairwise

theorem steps_told (hs : s.IsInferring) (o : Options) (t : Text) {ws : List Window}
    (hk : ∀ r ∈ steps o t s ws, r.1.step.Allows k) :
    steps o t (s.told k) ws = (steps o t s ws).map fun r => (r.1.told k, r.2) := by
  induction ws generalizing s with
  | nil => rfl
  | cons w ws ih =>
    obtain ⟨hfirst, hrest⟩ := List.forall_mem_cons.1 hk
    have hcheck := agree_check (k := k) hs o t w
    rw [steps, steps, List.map_cons, hcheck.told hfirst, ih hcheck.inferring hrest]

/-- The step is kept in the state, so the one among the options does not count. -/
theorem steps_congr (step step' : Step) (sequences : Sequences) (checkMultiLine : Bool) (t : Text) (s : State)
    (ws : List Window) :
    steps ⟨step, sequences, checkMultiLine⟩ t s ws = steps ⟨step', sequences, checkMultiLine⟩ t s ws := by
  induction ws generalizing s with
  | nil => rfl
  | cons w ws ih => exact congrArg _ (ih _)

/-- Over any lexemes, a step that is to be consistent is found at most once. If it is found to be `k`, a rule
that is told `k` has the same findings and, apart from the step, the same state after each lexeme. -/
theorem steps_inferred (t : Text) (ws : List Window) {sequences : Sequences} (hsequences : sequences ≠ .indented)
    (checkMultiLine : Bool) :
    let run (step : Step) : List (State × List Finding) :=
      steps ⟨step, sequences, checkMultiLine⟩ t (.start ⟨step, sequences, checkMultiLine⟩) ws
    ((run .consistent).Pairwise fun r r' => r.1.step.LeadsTo r'.1.step) ∧
      ∀ k, (run .consistent).getLast?.map (·.1.step) = some (.columns k) →
        run (.columns k) = (run .consistent).map fun r => (r.1.told k, r.2) := by
  intro run
  have hstart : (State.start ⟨.consistent, sequences, checkMultiLine⟩).IsInferring := fun h => absurd h hsequences
  have hpairwise : (run .consistent).Pairwise fun r r' => r.1.step.LeadsTo r'.1.step :=
    (leads_steps hstart ⟨.consistent, sequences, checkMultiLine⟩ t ws).2
  refine ⟨hpairwise, fun k hlast => ?_⟩
  obtain ⟨last, hlast, hstep⟩ := Option.map_eq_some_iff.1 hlast
  have hallows : ∀ r ∈ run .consistent, r.1.step.Allows k := by
    -- Every step leads to the last one.
    obtain ⟨earlier, hrun⟩ := List.getLast?_eq_some_iff.1 hlast
    rw [hrun] at hpairwise ⊢
    have hleads := (List.pairwise_append.1 hpairwise).2.2
    have hlastAllows : last.1.step.Allows k := fun n hn => Step.columns.inj (hn.symm.trans hstep)
    refine List.forall_mem_append.2 ⟨fun r hr => ?_, List.forall_mem_singleton.2 hlastAllows⟩
    exact (hleads r hr last (List.mem_singleton_self _)).allows hlastAllows
  show steps _ t ((State.start ⟨.consistent, sequences, checkMultiLine⟩).told k) ws = _
  rw [steps_congr (.columns k) .consistent, steps_told hstart _ t hallows]

/-- Two nested mappings, the first of them three columns deeper than the one around it, the other two. -/
def steep : List Lexeme :=
  [⟨.blockMappingStart, ⟨0, 0, 0⟩, ⟨0, 0, 0⟩, none, none⟩, ⟨.key, ⟨0, 0, 0⟩, ⟨0, 0, 0⟩, none, none⟩,
    ⟨.scalar, ⟨0, 0, 0⟩, ⟨0, 1, 1⟩, some "a", some .plain⟩, ⟨.value, ⟨0, 1, 1⟩, ⟨0, 2, 2⟩, none, none⟩,
    ⟨.blockMappingStart, ⟨1, 3, 6⟩, ⟨1, 3, 6⟩, none, none⟩, ⟨.key, ⟨1, 3, 6⟩, ⟨1, 3, 6⟩, none, none⟩,
    ⟨.scalar, ⟨1, 3, 6⟩, ⟨1, 4, 7⟩, some "b", some .plain⟩, ⟨.value, ⟨1, 4, 7⟩, ⟨1, 5, 8⟩, none, none⟩,
    ⟨.blockMappingStart, ⟨2, 5, 14⟩, ⟨2, 5, 14⟩, none, none⟩, ⟨.key, ⟨2, 5, 14⟩, ⟨2, 5, 14⟩, none, none⟩]

theorem steps_inferred_steep :
    let run (step : Step) : List (State × List Finding) :=
      steps ⟨step, .consistent, true⟩ "a:\n   b:\n     c:\n".toList (.start ⟨step, .consistent, true⟩)
        (Window.slide none steep)
    Sequences.consistent ≠ .indented ∧ (run .consistent).getLast?.map (·.1.step) = some (.columns 3) ∧
      (run .consistent).flatMap (·.2) = [⟨3, 6, "wrong indentation: expected 6 but found 5"⟩] ∧
      run (.columns 3) = (run .consistent).map fun r => (r.1.told 3, r.2) := by
  intro run
  have hsequences : Sequences.consistent ≠ .indented := nofun
  have hlast : (run .consistent).getLast?.map (·.1.step) = some (.columns 3) := by decide
  exact ⟨hsequences, hlast, by decide, (steps_inferred _ _ hsequences true).2 3 hlast⟩

end YamlStyle.Rule.Indentation
