import YamlStyle.Proofs.Yaml.Nesting

/-!
# The grammar takes only what nests

Each step of the grammar takes tokens that may come where it stands, and leaves a step that does
so in turn.
-/

namespace YamlStyle.Yaml

namespace Parse

variable {r : Released} {rest : List Released} {failure : Option Failure} {step : Option Step} {returns : List Step}
  {marks : List Mark} {handles : List (String × String)} {α : Type}

/-! ## Small steps -/

@[simp] theorem ensures_peek {Q : Released → EventReader → Prop} :
    Ensures peek ⟨r :: rest, failure, step, returns, marks, handles⟩ Q ↔
      Q r ⟨r :: rest, failure, step, returns, marks, handles⟩ := by
  simp only [peek, ensures_bind, ensures_get, ensures_pure]

theorem ensures_peek_nil {Q : Released → EventReader → Prop} (hf : failure ≠ none) :
    Ensures peek ⟨[], failure, step, returns, marks, handles⟩ Q := by
  cases failure with
  | none => exact absurd rfl hf
  | some e => simp only [peek, ensures_bind, ensures_get, ensures_throw]

@[simp] theorem ensures_peekToken {Q : Token → EventReader → Prop} :
    Ensures peekToken ⟨r :: rest, failure, step, returns, marks, handles⟩ Q ↔
      Q r.token ⟨r :: rest, failure, step, returns, marks, handles⟩ := by
  simp only [peekToken, ensures_bind, ensures_peek, ensures_pure]

theorem ensures_peekToken_nil {Q : Token → EventReader → Prop} (hf : failure ≠ none) :
    Ensures peekToken ⟨[], failure, step, returns, marks, handles⟩ Q := by
  rw [peekToken, ensures_bind]
  exact ensures_peek_nil hf

@[simp] theorem ensures_peekKind {Q : TokenKind → EventReader → Prop} :
    Ensures peekKind ⟨r :: rest, failure, step, returns, marks, handles⟩ Q ↔
      Q r.token.kind ⟨r :: rest, failure, step, returns, marks, handles⟩ := by
  simp only [peekKind, ensures_bind, ensures_peekToken, ensures_pure]

theorem ensures_peekKind_nil {Q : TokenKind → EventReader → Prop} (hf : failure ≠ none) :
    Ensures peekKind ⟨[], failure, step, returns, marks, handles⟩ Q := by
  rw [peekKind, ensures_bind]
  exact ensures_peekToken_nil hf

@[simp] theorem ensures_take {Q : Token → EventReader → Prop} :
    Ensures take ⟨r :: rest, failure, step, returns, marks, handles⟩ Q ↔
      Q r.token ⟨rest, failure, step, returns, marks, handles⟩ := by
  simp only [take, ensures_bind, ensures_peekToken, ensures_modify, ensures_pure, List.tail_cons]

@[simp] theorem ensures_goto {p : EventReader} {Q : Unit → EventReader → Prop} (s : Step) :
    Ensures (goto s) p Q ↔ Q () { p with step := some s } := by
  rw [goto, ensures_modify]

@[simp] theorem ensures_call {p : EventReader} {Q : Unit → EventReader → Prop} (s : Step) :
    Ensures (call s) p Q ↔ Q () { p with returns := s :: p.returns } := by
  rw [call, ensures_modify]

@[simp] theorem ensures_leave {p : EventReader} {Q : Unit → EventReader → Prop} :
    Ensures leave p Q ↔ Q () { p with step := p.returns.head?, returns := p.returns.tail } := by
  rw [leave, ensures_modify]

@[simp] theorem ensures_emptyScalar {p : EventReader} {Q : Event → EventReader → Prop} (m : Mark) :
    Ensures (emptyScalar m) p Q ↔ Q ⟨.scalar ⟨none, none⟩ "" .plain, m⟩ p := by
  rw [emptyScalar, ensures_pure]

@[simp] theorem ensures_enter {Q : Unit → EventReader → Prop} :
    Ensures enter ⟨r :: rest, failure, step, returns, marks, handles⟩ Q ↔
      Q () ⟨rest, failure, step, returns, r.token.start :: marks, handles⟩ := by
  simp only [enter, ensures_bind, ensures_take, ensures_modify]

@[simp] theorem ensures_finish {Q : Event → EventReader → Prop} (kind : EventKind) :
    Ensures (finish kind) ⟨r :: rest, failure, step, returns, marks, handles⟩ Q ↔
      Q ⟨kind, r.token.start⟩ ⟨rest, failure, returns.head?, returns.tail, marks.tail, handles⟩ := by
  simp only [finish, ensures_bind, ensures_take, ensures_leave, ensures_modify, ensures_pure]

theorem ensures_failInside {Q : α → EventReader → Prop} (context : Context) (cause : TokenKind → Cause) :
    Ensures (failInside context cause) ⟨r :: rest, failure, step, returns, marks, handles⟩ Q := by
  simp only [failInside, ensures_bind, ensures_peekToken, ensures_get, ensures_throw]

theorem ensures_expandTag {p : EventReader} (start tagMark : Mark) (t : Tag) :
    Ensures (expandTag start tagMark t) p fun _ p' => p' = p := by
  simp only [expandTag, ensures_bind, ensures_get]
  split
  · simp
  · split
    · simp
    · simp

/-! ## Nodes -/

variable {goal : Prop} {budget : Nat} {levels : List Level} {last : TokenKind} {tokens : List Released}

/-- The properties of a node lead to its content. -/
theorem ensures_properties (h : Stands goal levels last tokens failure) (hl : Leads levels last) :
    Ensures properties ⟨tokens, failure, step, returns, marks, handles⟩ fun found p' => ∃ tokens' last',
      p' = ⟨tokens', failure, step, returns, marks, handles⟩ ∧ Stands goal levels last' tokens' failure ∧
      Leads levels last' ∧ tokens'.length ≤ tokens.length ∧ (found.2.isSome = true → tokens'.length < tokens.length) := by
  cases tokens with
  | nil =>
    rw [properties, ensures_bind]
    exact ensures_peekToken_nil h.failure_ne_none
  | cons r rest =>
    have hproperty : ∀ kind, kind.isLead = true → r.token.kind = kind → Allows levels last kind → kind ≠ .streamEnd →
        levelsAfter levels kind = levels → Stands goal levels kind rest failure ∧ Leads levels kind := by
      intro kind hlead hk ha hne hlevels
      have := h.take hk ha hne
      rw [hlevels] at this
      exact ⟨this, leads_of_isLead hlead⟩
    simp only [properties, ensures_bind, ensures_peekToken]
    split
    · next name hk =>
      obtain ⟨h1, hl1⟩ := hproperty _ rfl hk hl (by simp) rfl
      simp only [ensures_bind, ensures_take]
      cases rest with
      | nil => exact ensures_peekToken_nil h1.failure_ne_none
      | cons r' rest' =>
        have hlt : rest'.length < (r :: r' :: rest').length := Nat.lt_add_of_pos_right Nat.two_pos
        simp only [ensures_peekToken]
        split
        · next t hk' =>
          simp only [ensures_bind, ensures_take, ensures_pure]
          refine (ensures_expandTag _ _ _).imp fun tag p' hp => ?_
          rw [hp]
          exact ⟨rest', .tag t, rfl, h1.take hk' hl1 (by simp), leads_of_isLead rfl, Nat.le_of_lt hlt, fun _ => hlt⟩
        · rw [ensures_pure]
          exact ⟨_, _, rfl, h1, hl1, by simp, fun _ => by simp⟩
    · next t hk =>
      obtain ⟨h1, hl1⟩ := hproperty _ rfl hk hl (by simp) rfl
      simp only [ensures_bind, ensures_take]
      cases rest with
      | nil => exact ensures_peekToken_nil h1.failure_ne_none
      | cons r' rest' =>
        have hlt : rest'.length < (r :: r' :: rest').length := Nat.lt_add_of_pos_right Nat.two_pos
        simp only [ensures_peekToken]
        split
        · next name hk' =>
          simp only [ensures_bind, ensures_take, ensures_pure]
          refine (ensures_expandTag _ _ _).imp fun tag p' hp => ?_
          rw [hp]
          exact ⟨rest', .anchor name, rfl, h1.take hk' hl1 (by simp), leads_of_isLead rfl, Nat.le_of_lt hlt,
            fun _ => hlt⟩
        · simp only [ensures_bind, ensures_pure]
          refine (ensures_expandTag _ _ _).imp fun tag p' hp => ?_
          rw [hp]
          exact ⟨_, _, rfl, h1, hl1, by simp, fun _ => by simp⟩
    · rw [ensures_pure]
      exact ⟨_, _, rfl, h, hl, Nat.le_refl _, fun hs => by simp at hs⟩

/-- A step that starts at the token at hand. -/
theorem settles_start {s : Step} {kind : TokenKind} (h : Stands goal (levelsOf returns) last (r :: rest) failure)
    (hk : r.token.kind = kind) (hs : s.starts = some kind) (hlevels : s.levels = [])
    (hstacked : Stacked s returns) (ha : Allows (levelsOf returns) last kind) (hw : ∀ next, s.weightAt next = 1)
    (hb : 5 * (rest.length + 1) + 1 + weightOf returns < budget) :
    Settles goal budget ⟨r :: rest, failure, some s, returns, marks, handles⟩ := by
  have hl : levelsOf (s :: returns) = levelsOf returns := by rw [levelsOf_cons, hlevels, List.nil_append]
  refine settles_goto s (hl ▸ h) hstacked (fun kind' hk' => ?_) (fun hbegin => ?_) ?_
  · rw [hs] at hk'
    cases hk'
    exact ⟨by simp [hk], hl ▸ ha⟩
  · rw [Step.begins_of_starts hs] at hbegin
    cases hbegin
  · rw [hw]
    exact hb

theorem ensures_node (h : Stands goal (levelsOf returns) last tokens failure) (hr : Returns returns)
    (hl : Leads (levelsOf returns) last) (block indentless : Bool)
    (hb : 5 * tokens.length + 1 + weightOf returns < budget) :
    Ensures (node block indentless) ⟨tokens, failure, step, returns, marks, handles⟩ fun _ p' => Settles goal budget p' := by
  cases tokens with
  | nil =>
    rw [node, ensures_bind]
    exact ensures_peekToken_nil h.failure_ne_none
  | cons r rest =>
    rw [List.length_cons] at hb
    simp only [node, ensures_bind, ensures_peekToken]
    split
    · next name start stop heq =>
      simp only [ensures_bind, ensures_take, ensures_leave, ensures_pure]
      have hk : r.token.kind = .alias name := by rw [heq]
      exact settles_leave (h.take hk hl (by simp)) hr (by omega)
    · rw [ensures_bind]
      refine (ensures_properties h hl).imp fun found p' hfound => ?_
      obtain ⟨tokens', last', rfl, h', hl', hle, hlt⟩ := hfound
      obtain ⟨props, propsStart⟩ := found
      rw [List.length_cons] at hle hlt
      dsimp only at hlt ⊢
      cases tokens' with
      | nil =>
        rw [ensures_bind]
        exact ensures_peekToken_nil h'.failure_ne_none
      | cons r' rest' =>
        rw [List.length_cons] at hle hlt
        simp only [ensures_bind, ensures_peekToken, ensures_ite, ensures_goto, ensures_pure]
        refine ⟨fun _ => ?_, fun _ => ?_⟩
        · refine settles_next .indentlessEntry h' hr ⟨rfl, rfl⟩ ?_
          simp only [Step.weightAt, Step.weight, List.length_cons]
          omega
        · split
          · next hk =>
            simp only [ensures_bind, ensures_take, ensures_leave, ensures_pure]
            exact settles_leave (h'.take hk hl' (by simp)) hr (by omega)
          · next hk =>
            simp only [ensures_bind, ensures_goto, ensures_pure]
            exact settles_start h' hk rfl rfl hr hl' (fun _ => rfl) (by omega)
          · next hk =>
            simp only [ensures_bind, ensures_goto, ensures_pure]
            exact settles_start h' hk rfl rfl hr hl' (fun _ => rfl) (by omega)
          · next hk =>
            simp only [ensures_bind, ensures_goto, ensures_pure]
            exact settles_start h' hk rfl rfl hr hl' (fun _ => rfl) (by omega)
          · next hk =>
            simp only [ensures_bind, ensures_goto, ensures_pure]
            exact settles_start h' hk rfl rfl hr hl' (fun _ => rfl) (by omega)
          · simp only [ensures_bind, ensures_ite, ensures_leave, ensures_pure, ensures_throw]
            refine ⟨fun hs => ?_, fun _ => trivial⟩
            exact settles_leave h' hr (by simp only [List.length_cons]; omega)

/-- A node, or the step after it. -/
theorem ensures_nodeUnless (after : Step) (h : Stands goal (levelsOf (after :: returns)) last tokens failure)
    (hr : Returns returns) (ha : after.isReturn = true) (hl : Leads (levelsOf (after :: returns)) last)
    (followers : List TokenKind) (block indentless : Bool) (m : Mark)
    (hb : 5 * tokens.length + after.weight + 1 + weightOf returns < budget) :
    Ensures (nodeUnless followers block indentless after m) ⟨tokens, failure, step, returns, marks, handles⟩
      fun _ p' => Settles goal budget p' := by
  have hreturns := hr.cons ha
  cases tokens with
  | nil =>
    rw [nodeUnless, ensures_bind]
    exact ensures_peekKind_nil h.failure_ne_none
  | cons r rest =>
    simp only [nodeUnless, ensures_bind, ensures_peekKind, ensures_ite, ensures_goto, ensures_emptyScalar, ensures_call]
    refine ⟨fun _ => settles_next after h hreturns.stacked hreturns.starts_begins ?_, fun _ => ?_⟩
    · have := after.weightAt_le ((r :: rest).head?.map (·.token.kind))
      omega
    · exact ensures_node h hreturns hl block indentless (by rw [weightOf_cons]; omega)

/-! ## Block collections -/

theorem ensures_entry (h : Stands goal (levelsOf (.entry :: returns)) last tokens failure) (hr : Returns returns)
    (hb : 5 * tokens.length + weightOf returns < budget) :
    Ensures entry ⟨tokens, failure, step, returns, marks, handles⟩ fun _ p' => Settles goal budget p' := by
  cases tokens with
  | nil =>
    rw [entry, ensures_bind]
    exact ensures_peekToken_nil h.failure_ne_none
  | cons r rest =>
    rw [List.length_cons] at hb
    simp only [entry, ensures_bind, ensures_peekToken, ensures_ite, ensures_take, ensures_finish, beq_iff_eq]
    refine ⟨fun hk => ?_, fun _ => ⟨fun hk => ?_, fun _ => ensures_failInside _ _⟩⟩
    · exact ensures_nodeUnless .entry (h.take hk trivial (by simp)) hr rfl (leads_of_isLead rfl) _ _ _ _
        (by simp only [Step.weight]; omega)
    · exact settles_leave (h.take hk trivial (by simp)) hr (by omega)

theorem ensures_indentlessEntry (h : Stands goal (levelsOf (.indentlessEntry :: returns)) last tokens failure)
    (hr : Returns returns) (hb : 5 * tokens.length + weightOf returns < budget) :
    Ensures indentlessEntry ⟨tokens, failure, step, returns, marks, handles⟩ fun _ p' => Settles goal budget p' := by
  cases tokens with
  | nil =>
    rw [indentlessEntry, ensures_bind]
    exact ensures_peekToken_nil h.failure_ne_none
  | cons r rest =>
    simp only [indentlessEntry, ensures_bind, ensures_peekToken, ensures_ite, ensures_take, ensures_leave, ensures_pure,
      beq_iff_eq]
    refine ⟨fun hk => ?_, fun _ => settles_leave h hr hb⟩
    rw [List.length_cons] at hb
    exact ensures_nodeUnless .indentlessEntry (h.take hk trivial (by simp)) hr rfl (leads_of_isLead rfl) _ _ _ _
      (by simp only [Step.weight]; omega)

theorem ensures_key (h : Stands goal (levelsOf (.key :: returns)) last tokens failure) (hr : Returns returns)
    (hb : 5 * tokens.length + Step.key.weightAt (tokens.head?.map (·.token.kind)) + weightOf returns ≤ budget) :
    Ensures key ⟨tokens, failure, step, returns, marks, handles⟩ fun _ p' => Settles goal budget p' := by
  cases tokens with
  | nil =>
    rw [key, ensures_bind]
    exact ensures_peek_nil h.failure_ne_none
  | cons r rest =>
    obtain ⟨token, version⟩ := r
    rw [List.length_cons] at hb
    have hone := Step.key.one_le_weightAt (((⟨token, version⟩ : Released) :: rest).head?.map (·.token.kind))
    have htwo := Step.key.weightAt_le (((⟨token, version⟩ : Released) :: rest).head?.map (·.token.kind))
    simp only [key, ensures_bind, ensures_peek, ensures_ite, ensures_take, ensures_goto, ensures_emptyScalar,
      ensures_finish, beq_iff_eq, Bool.and_eq_true]
    refine ⟨fun hk => ?_, fun _ => ⟨fun hk => ?_, fun _ => ⟨fun hk => ?_, fun _ => ensures_failInside _ _⟩⟩⟩
    · exact ensures_nodeUnless .value (h.take hk (by simp [Allows, Step.levels]) (by simp)) hr rfl (leads_of_isLead rfl) _ _ _ _
        (by simp only [Step.weight]; omega)
    · refine settles_next .value h hr ⟨rfl, rfl⟩ ?_
      simp only [Step.weightAt, List.head?_cons, Option.map_some, hk.2, List.length_cons, if_true] at hb ⊢
      omega
    · exact settles_leave (h.take hk trivial (by simp)) hr (by omega)

theorem ensures_value (h : Stands goal (levelsOf (.value :: returns)) last tokens failure) (hr : Returns returns)
    (hb : 5 * tokens.length + Step.value.weightAt (tokens.head?.map (·.token.kind)) + weightOf returns ≤ budget) :
    Ensures value ⟨tokens, failure, step, returns, marks, handles⟩ fun _ p' => Settles goal budget p' := by
  cases tokens with
  | nil =>
    rw [value, ensures_bind]
    exact ensures_peekToken_nil h.failure_ne_none
  | cons r rest =>
    rw [List.length_cons] at hb
    simp only [value, ensures_bind, ensures_peekToken, ensures_ite, ensures_take, ensures_goto, ensures_emptyScalar,
      beq_iff_eq]
    refine ⟨fun hk => ?_, fun hk => ?_⟩
    · have htake := h.take hk (by simp [Allows, Step.levels]) (by simp)
      cases rest with
      | nil => exact ensures_peekToken_nil htake.failure_ne_none
      | cons r' rest' =>
        rw [ensures_peekToken]
        refine ensures_nodeUnless .key htake hr rfl (leads_of_isLead rfl) _ _ _ _ ?_
        simp only [Step.weight]
        have := Step.value.one_le_weightAt ((r :: r' :: rest').head?.map (·.token.kind))
        omega
    · refine settles_next .key h hr ⟨rfl, rfl⟩ ?_
      simp only [Step.weightAt, List.head?_cons, Option.map_some, Option.some.injEq, hk, List.length_cons, if_false] at hb ⊢
      omega

/-! ## Flow collections -/

theorem ensures_comma (h : Stands goal (.flow :: levels) last tokens failure) (context : Context)
    (cause : TokenKind → Cause) : Ensures (comma context cause) ⟨tokens, failure, step, returns, marks, handles⟩
      fun _ p' => ∃ tokens', p' = ⟨tokens', failure, step, returns, marks, handles⟩ ∧
        Stands goal (.flow :: levels) .flowEntry tokens' failure ∧ tokens'.length < tokens.length := by
  cases tokens with
  | nil =>
    rw [comma, ensures_bind]
    exact ensures_peekKind_nil h.failure_ne_none
  | cons r rest =>
    simp only [comma, ensures_bind, ensures_peekKind, ensures_ite, ensures_take, ensures_pure, beq_iff_eq]
    refine ⟨fun hk => ⟨rest, rfl, h.take hk rfl (by simp), by simp⟩, fun _ => ensures_failInside _ _⟩

/-- An item of a flow sequence, after the comma before it. -/
theorem ensures_flowItem (h : Stands goal (levelsOf (.flowEntry :: returns)) last tokens failure)
    (hlast : last.opensNode = true) (hr : Returns returns) (hb : 5 * tokens.length + 3 + weightOf returns < budget) :
    Ensures (do
      let t ← peekToken
      if t.kind == .key then
        goto .pairKey
        return ⟨.mappingStart ⟨none, none⟩, t.start⟩
      else if t.kind == .flowSequenceEnd then finish .sequenceEnd
      else
        call .flowEntry
        node false false) ⟨tokens, failure, step, returns, marks, handles⟩ fun _ p' => Settles goal budget p' := by
  cases tokens with
  | nil =>
    rw [ensures_bind]
    exact ensures_peekToken_nil h.failure_ne_none
  | cons r rest =>
    simp only [ensures_bind, ensures_peekToken, ensures_ite, ensures_goto, ensures_pure, ensures_finish, ensures_call,
      beq_iff_eq]
    rw [List.length_cons] at hb
    refine ⟨fun hk => ?_, fun _ => ⟨fun hk => ?_, fun _ => ?_⟩⟩
    · refine settles_goto .pairKey h hr (fun kind hs => ?_) (fun hbegin => by cases hbegin) ?_
      · cases hs
        exact ⟨by simp [hk], by simp [Allows, Step.levels]⟩
      · simp only [Step.weightAt, Step.weight, List.length_cons]
        omega
    · exact settles_leave (h.take hk rfl (by simp)) hr (by omega)
    · refine ensures_node h (hr.cons rfl) (leads_flow hlast) false false ?_
      simp only [weightOf_cons, Step.weight, List.length_cons]
      omega

theorem ensures_flowEntry (first : Bool) (h : Stands goal (levelsOf (.flowEntry :: returns)) last tokens failure)
    (hr : Returns returns) (hb : 5 * tokens.length + weightOf returns < budget)
    (hfirst : first = true → last.opensNode = true ∧ 5 * tokens.length + 3 + weightOf returns < budget) :
    Ensures (flowEntry first) ⟨tokens, failure, step, returns, marks, handles⟩ fun _ p' => Settles goal budget p' := by
  cases tokens with
  | nil =>
    rw [flowEntry, ensures_bind]
    exact ensures_peekKind_nil h.failure_ne_none
  | cons r rest =>
    rw [flowEntry, ensures_bind, ensures_peekKind, ensures_ite, ensures_finish, ensures_ite]
    refine ⟨fun hk => ?_, fun _ => ⟨fun _ => ?_, fun hf => ?_⟩⟩
    · rw [List.length_cons] at hb
      exact settles_leave (h.take (eq_of_beq hk) rfl (by simp)) hr (by omega)
    · rw [ensures_bind]
      refine (ensures_comma h _ _).imp fun _ p' hp => ?_
      obtain ⟨tokens', rfl, h', hlt⟩ := hp
      exact ensures_flowItem h' rfl hr (by omega)
    · obtain ⟨hlast, hb'⟩ := hfirst (by simpa using hf)
      exact ensures_flowItem h hlast hr hb'

theorem ensures_pairKey (h : Stands goal (levelsOf (.pairKey :: returns)) last tokens failure) (hr : Returns returns)
    (hk : tokens.head?.map (·.token.kind) = some .key) (hb : 5 * tokens.length + weightOf returns < budget) :
    Ensures pairKey ⟨tokens, failure, step, returns, marks, handles⟩ fun _ p' => Settles goal budget p' := by
  cases tokens with
  | nil => cases hk
  | cons r rest =>
    rw [List.length_cons] at hb
    simp only [pairKey, ensures_bind, ensures_take]
    exact ensures_nodeUnless .pairValue (h.take (Option.some.inj hk) (by simp [Allows, Step.levels]) (by simp)) hr rfl (leads_of_isLead rfl)
      _ _ _ _ (by simp only [Step.weight]; omega)

theorem ensures_pairValue (h : Stands goal (levelsOf (.pairValue :: returns)) last tokens failure) (hr : Returns returns)
    (hb : 5 * tokens.length + 2 + weightOf returns < budget) :
    Ensures pairValue ⟨tokens, failure, step, returns, marks, handles⟩ fun _ p' => Settles goal budget p' := by
  cases tokens with
  | nil =>
    rw [pairValue, ensures_bind]
    exact ensures_peekToken_nil h.failure_ne_none
  | cons r rest =>
    simp only [pairValue, ensures_bind, ensures_peekToken, ensures_ite, ensures_take, ensures_goto, ensures_emptyScalar,
      beq_iff_eq]
    refine ⟨fun hk => ?_, fun _ => settles_next .pairEnd h hr ⟨rfl, rfl⟩ hb⟩
    rw [List.length_cons] at hb
    exact ensures_nodeUnless .pairEnd (h.take hk (by simp [Allows, Step.levels]) (by simp)) hr rfl (leads_of_isLead rfl) _ _ _ _
      (by simp only [Step.weight]; omega)

theorem ensures_pairEnd (h : Stands goal (levelsOf (.pairEnd :: returns)) last tokens failure) (hr : Returns returns)
    (hb : 5 * tokens.length + 1 + weightOf returns < budget) :
    Ensures pairEnd ⟨tokens, failure, step, returns, marks, handles⟩ fun _ p' => Settles goal budget p' := by
  cases tokens with
  | nil =>
    simp only [pairEnd, ensures_bind, ensures_goto]
    exact ensures_peekToken_nil h.failure_ne_none
  | cons r rest =>
    simp only [pairEnd, ensures_bind, ensures_goto, ensures_peekToken, ensures_pure]
    exact settles_next .flowEntry h hr ⟨rfl, rfl⟩ hb

/-- A pair of a flow mapping, after the comma before it. -/
theorem ensures_flowPair (h : Stands goal (levelsOf (.flowKey :: returns)) last tokens failure)
    (hlast : last.opensNode = true) (hr : Returns returns) (hb : 5 * tokens.length + 4 + weightOf returns < budget) :
    Ensures (do
      let ⟨t, version⟩ ← peek
      if t.kind == .key then
        let _ ← take
        nodeUnless [.value, .flowEntry, .flowMappingEnd] false false .flowValue t.stop
      else if version.after1_1 && t.kind == .value then
        goto .flowValue
        emptyScalar t.stop
      else if t.kind == .flowMappingEnd then finish .mappingEnd
      else
        call .flowMissingValue
        node false false) ⟨tokens, failure, step, returns, marks, handles⟩ fun _ p' => Settles goal budget p' := by
  cases tokens with
  | nil =>
    rw [ensures_bind]
    exact ensures_peek_nil h.failure_ne_none
  | cons r rest =>
    obtain ⟨token, version⟩ := r
    simp only [ensures_bind, ensures_peek, ensures_ite, ensures_take, ensures_goto, ensures_emptyScalar, ensures_finish,
      ensures_call, beq_iff_eq, Bool.and_eq_true]
    rw [List.length_cons] at hb
    refine ⟨fun hk => ?_, fun _ => ⟨fun hk => ?_, fun _ => ⟨fun hk => ?_, fun _ => ?_⟩⟩⟩
    · exact ensures_nodeUnless .flowValue (h.take hk (by simp [Allows, Step.levels]) (by simp)) hr rfl (leads_of_isLead rfl) _ _ _ _
        (by simp only [Step.weight]; omega)
    · refine settles_next .flowValue h hr ⟨rfl, rfl⟩ ?_
      simp only [Step.weightAt, Step.weight, List.length_cons]
      omega
    · exact settles_leave (h.take hk rfl (by simp)) hr (by omega)
    · have hmissing : Stands goal (levelsOf (.flowMissingValue :: returns)) last (⟨token, version⟩ :: rest) failure := h
      refine ensures_node hmissing (hr.cons rfl) (leads_flow hlast) false false ?_
      simp only [weightOf_cons, Step.weight, List.length_cons]
      omega

theorem ensures_flowKey (first : Bool) (h : Stands goal (levelsOf (.flowKey :: returns)) last tokens failure)
    (hr : Returns returns) (hb : 5 * tokens.length + weightOf returns < budget)
    (hfirst : first = true → last.opensNode = true ∧ 5 * tokens.length + 4 + weightOf returns < budget) :
    Ensures (flowKey first) ⟨tokens, failure, step, returns, marks, handles⟩ fun _ p' => Settles goal budget p' := by
  cases tokens with
  | nil =>
    rw [flowKey, ensures_bind]
    exact ensures_peekKind_nil h.failure_ne_none
  | cons r rest =>
    rw [flowKey, ensures_bind, ensures_peekKind, ensures_ite, ensures_finish, ensures_ite]
    refine ⟨fun hk => ?_, fun _ => ⟨fun _ => ?_, fun hf => ?_⟩⟩
    · rw [List.length_cons] at hb
      exact settles_leave (h.take (eq_of_beq hk) rfl (by simp)) hr (by omega)
    · rw [ensures_bind]
      refine (ensures_comma h _ _).imp fun _ p' hp => ?_
      obtain ⟨tokens', rfl, h', hlt⟩ := hp
      exact ensures_flowPair h' rfl hr (by omega)
    · obtain ⟨hlast, hb'⟩ := hfirst (by simpa using hf)
      exact ensures_flowPair h hlast hr hb'

theorem ensures_flowValue (h : Stands goal (levelsOf (.flowValue :: returns)) last tokens failure) (hr : Returns returns)
    (hb : 5 * tokens.length + 1 + weightOf returns < budget) :
    Ensures flowValue ⟨tokens, failure, step, returns, marks, handles⟩ fun _ p' => Settles goal budget p' := by
  cases tokens with
  | nil =>
    rw [flowValue, ensures_bind]
    exact ensures_peekToken_nil h.failure_ne_none
  | cons r rest =>
    simp only [flowValue, ensures_bind, ensures_peekToken, ensures_ite, ensures_take, ensures_goto, ensures_emptyScalar,
      beq_iff_eq]
    refine ⟨fun hk => ?_, fun _ => settles_next .flowKey h hr ⟨rfl, rfl⟩ hb⟩
    rw [List.length_cons] at hb
    exact ensures_nodeUnless .flowKey (h.take hk (by simp [Allows, Step.levels]) (by simp)) hr rfl (leads_of_isLead rfl) _ _ _ _
      (by simp only [Step.weight]; omega)

/-! ## Documents -/

theorem ensures_documentEnds (fuel : Nat) (h : Stands goal [] last tokens failure) :
    Ensures (documentEnds fuel) ⟨tokens, failure, step, returns, marks, handles⟩ fun _ p' => ∃ tokens' last',
      p' = ⟨tokens', failure, step, returns, marks, handles⟩ ∧ Stands goal [] last' tokens' failure ∧
      tokens'.length ≤ tokens.length := by
  induction fuel generalizing tokens last with
  | zero =>
    rw [documentEnds, ensures_pure]
    exact ⟨tokens, last, rfl, h, Nat.le_refl _⟩
  | succ fuel ih =>
    cases tokens with
    | nil =>
      rw [documentEnds, ensures_bind]
      exact ensures_peekKind_nil h.failure_ne_none
    | cons r rest =>
      simp only [documentEnds, ensures_bind, ensures_peekKind, ensures_ite, ensures_take, ensures_pure, beq_iff_eq]
      refine ⟨fun hk => (ih (h.take hk rfl (by simp))).imp fun _ p' hp => ?_, fun _ => ?_⟩
      · obtain ⟨tokens', last', rfl, h', hle⟩ := hp
        exact ⟨tokens', last', rfl, h', Nat.le_succ_of_le hle⟩
      · exact ⟨r :: rest, last, rfl, h, Nat.le_refl _⟩

theorem ensures_directives (fuel : Nat) (version : Option Version) (declared : List (String × String))
    (h : Stands goal [] last tokens failure) :
    Ensures (directives fuel version declared) ⟨tokens, failure, step, returns, marks, handles⟩ fun _ p' =>
      ∃ tokens' last' handles', p' = ⟨tokens', failure, step, returns, marks, handles'⟩ ∧
        Stands goal [] last' tokens' failure ∧ tokens'.length ≤ tokens.length := by
  induction fuel generalizing tokens last version declared with
  | zero =>
    rw [directives, ensures_pure]
    exact ⟨tokens, last, handles, rfl, h, Nat.le_refl _⟩
  | succ fuel ih =>
    cases tokens with
    | nil =>
      rw [directives, ensures_bind]
      exact ensures_peekToken_nil h.failure_ne_none
    | cons r rest =>
      simp only [directives, ensures_bind, ensures_peekToken]
      split
      · next d hk =>
        have h' := h.take hk rfl (by simp)
        have hnext : ∀ version declared, Ensures (directives fuel version declared)
            ⟨rest, failure, step, returns, marks, handles⟩ fun _ p' => ∃ tokens' last' handles',
              p' = ⟨tokens', failure, step, returns, marks, handles'⟩ ∧ Stands goal [] last' tokens' failure ∧
              tokens'.length ≤ (r :: rest).length := by
          intro version declared
          refine (ih version declared h').imp fun _ p' hp => ?_
          obtain ⟨tokens', last', handles', rfl, h', hle⟩ := hp
          exact ⟨tokens', last', handles', rfl, h', Nat.le_succ_of_le hle⟩
        simp only [ensures_bind, ensures_take]
        cases d with
        | yaml v =>
          simp only [ensures_bind, ensures_ite, ensures_throw, implies_true, true_and]
          exact fun _ _ => hnext _ _
        | tag handle lead =>
          simp only [ensures_bind, ensures_ite, ensures_throw, implies_true, true_and]
          exact fun _ => hnext _ _
        | reserved name => exact hnext _ _
      · have hend : ∀ handles', ∃ tokens' last' handles'', (⟨r :: rest, failure, step, returns, marks, handles'⟩ : EventReader) =
            ⟨tokens', failure, step, returns, marks, handles''⟩ ∧ Stands goal [] last' tokens' failure ∧
            tokens'.length ≤ (r :: rest).length := fun handles' =>
          ⟨r :: rest, last, handles', rfl, h, Nat.le_refl _⟩
        cases version with
        | some v =>
          simp only [ensures_bind, ensures_ite, ensures_throw, ensures_modify, ensures_pure, implies_true, true_and]
          exact fun _ => hend _
        | none =>
          simp only [ensures_bind, ensures_modify, ensures_pure]
          exact hend _

theorem ensures_document (h : Stands goal [] last tokens failure) (hb : 5 * tokens.length < budget) :
    Ensures document ⟨tokens, failure, step, [], marks, handles⟩ fun _ p' => Settles goal budget p' := by
  simp only [document, ensures_bind, ensures_get]
  refine (ensures_documentEnds _ h).imp fun _ p1 h1 => ?_
  obtain ⟨tokens1, last1, rfl, h1, hle1⟩ := h1
  cases tokens1 with
  | nil => exact ensures_peekKind_nil h1.failure_ne_none
  | cons r1 rest1 =>
    simp only [ensures_peekKind, ensures_ite, ensures_bind, ensures_take, ensures_modify, ensures_pure, ensures_get,
      beq_iff_eq]
    refine ⟨fun hk => .inl ⟨rfl, h1.finish hk⟩, fun _ => ?_⟩
    refine (ensures_directives _ none [] h1).imp fun _ p2 h2 => ?_
    obtain ⟨tokens2, last2, handles2, rfl, h2, hle2⟩ := h2
    cases tokens2 with
    | nil => exact ensures_peekToken_nil h2.failure_ne_none
    | cons r2 rest2 =>
      simp only [ensures_peekToken, ensures_throw, ensures_take, ensures_call, ensures_goto, implies_true, true_and]
      intro hk
      have hk : r2.token.kind = .documentStart := by simpa using hk
      refine settles_begin .documentContent (h2.take hk rfl (by simp)) rfl rfl rfl ?_
      rw [List.length_cons] at hle2
      simp only [Step.weightAt, Step.weight, weightOf, List.map_cons, List.map_nil, List.sum_cons, List.sum_nil]
      omega

theorem ensures_implicitDocument (h : Stands goal [] last tokens failure) (hlast : last.opensNode = true) (hb : 5 * tokens.length + 4 < budget) :
    Ensures implicitDocument ⟨tokens, failure, step, [], marks, handles⟩ fun _ p' => Settles goal budget p' := by
  cases tokens with
  | nil =>
    rw [implicitDocument, ensures_bind]
    exact ensures_peekToken_nil h.failure_ne_none
  | cons r rest =>
    simp only [implicitDocument, ensures_bind, ensures_peekToken, ensures_ite, ensures_modify, ensures_call, ensures_goto,
      ensures_pure]
    refine ⟨fun _ => ensures_document h (by omega), fun _ => settles_begin .blockNode h rfl rfl hlast ?_⟩
    simpa [Step.weightAt, Step.weight, weightOf] using hb

theorem ensures_documentEnd (h : Stands goal [] last tokens failure) (hb : 5 * tokens.length + 1 < budget) :
    Ensures documentEnd ⟨tokens, failure, step, [], marks, handles⟩ fun _ p' => Settles goal budget p' := by
  -- After the end marker, or without one.
  have hnext : ∀ last' tokens' (explicit : Bool) (t : Token), Stands goal [] last' tokens' failure →
      5 * tokens'.length + 1 < budget → (explicit = true → last'.opensNode = true ∧ 5 * tokens'.length + 5 < budget) → Ensures (do
        let version := (← peek).version
        goto (if version != .v1_1 && explicit then .implicitDocument else .document)
        return ⟨.documentEnd, t.start⟩ : Parse Event) ⟨tokens', failure, step, [], marks, handles⟩
      fun _ p' => Settles goal budget p' := by
    intro last' tokens' explicit t h' hb' hexplicit
    cases tokens' with
    | nil =>
      rw [ensures_bind]
      exact ensures_peek_nil h'.failure_ne_none
    | cons r' rest' =>
      simp only [ensures_bind, ensures_peek, ensures_goto, ensures_pure]
      split
      · next he =>
        obtain ⟨hlast, hb'⟩ := hexplicit (Bool.and_eq_true_iff.1 he).2
        refine settles_begin .implicitDocument h' rfl rfl hlast ?_
        simpa [Step.weightAt, Step.weight, weightOf] using hb'
      · refine settles_next .document h' rfl ⟨rfl, rfl⟩ ?_
        simpa [Step.weightAt, Step.weight, weightOf] using hb'
  cases tokens with
  | nil =>
    rw [documentEnd, ensures_bind]
    exact ensures_peekToken_nil h.failure_ne_none
  | cons r rest =>
    rw [documentEnd, ensures_bind, ensures_peekToken]
    rw [List.length_cons] at hb
    dsimp only
    rw [ensures_ite]
    refine ⟨fun hk => ?_, fun hk => hnext _ _ _ _ h (by simpa using hb) fun he => absurd he hk⟩
    have h' := h.take (eq_of_beq hk) rfl (by simp)
    rw [ensures_bind, ensures_take, ensures_bind]
    cases rest with
    | nil => exact ensures_peekToken_nil h'.failure_ne_none
    | cons r' rest' =>
      rw [ensures_peekToken, ensures_ite]
      refine ⟨fun _ => ?_, fun _ => hnext _ _ _ _ h' (by omega) fun _ => ⟨rfl, by omega⟩⟩
      rw [ensures_bind]
      exact ensures_throw _

/-! ## All steps -/

theorem ensures_perform {s : Step} {p : EventReader} (h : Going goal budget s p) :
    Ensures (perform s) p fun _ p' => Settles goal (budget - 1) p' := by
  obtain ⟨hnext, hstacked, ⟨last, hs, hstart, hbegin⟩, hlight⟩ := h
  obtain ⟨tokens, failure, step, returns, marks, handles⟩ := p
  simp only at hnext hstacked hs hstart hbegin hlight
  cases s with
  | streamStart => exact absurd hstacked id
  -- Documents: nothing to return to but their end.
  | implicitDocument =>
    cases hstacked
    refine ensures_implicitDocument hs (hbegin rfl) ?_
    simp only [Step.weightAt, Step.weight] at hlight
    omega
  | document =>
    cases hstacked
    refine ensures_document hs ?_
    simp only [Step.weightAt, Step.weight] at hlight
    omega
  | documentEnd =>
    cases hstacked
    refine ensures_documentEnd hs ?_
    simp only [Step.weightAt, Step.weight] at hlight
    omega
  | documentContent =>
    cases hstacked
    simp only [Step.weightAt, Step.weight] at hlight
    cases tokens with
    | nil =>
      rw [perform, ensures_bind]
      exact ensures_peekToken_nil hs.failure_ne_none
    | cons r rest =>
      have hs' : Stands goal (levelsOf [.documentEnd]) last (r :: rest) failure := hs
      simp only [perform, ensures_bind, ensures_peekToken, ensures_ite, ensures_leave, ensures_emptyScalar]
      exact ⟨fun _ => settles_leave hs' returns_documentEnd (by omega),
        fun _ => ensures_node hs' returns_documentEnd (leads_nil (hbegin rfl)) true false (by omega)⟩
  | blockNode =>
    cases hstacked
    simp only [Step.weightAt, Step.weight] at hlight
    have hs' : Stands goal (levelsOf [.documentEnd]) last tokens failure := hs
    exact ensures_node hs' returns_documentEnd (leads_nil (hbegin rfl)) true false (by omega)
  -- Block collections.
  | firstEntry =>
    obtain ⟨r, rest, rfl, h'⟩ := hs.enter (hstart _ rfl) (by simp)
    simp only [Step.weightAt, Step.weight, List.length_cons] at hlight
    rw [perform, ensures_bind, ensures_enter]
    exact ensures_entry h' hstacked (by omega)
  | entry => exact ensures_entry hs hstacked (by simp only [Step.weightAt, Step.weight] at hlight; omega)
  | indentlessEntry =>
    exact ensures_indentlessEntry hs hstacked (by simp only [Step.weightAt, Step.weight] at hlight; omega)
  | firstKey =>
    obtain ⟨r, rest, rfl, h'⟩ := hs.enter (hstart _ rfl) (by simp)
    simp only [Step.weightAt, Step.weight, List.length_cons] at hlight
    have hle : Step.key.weightAt (rest.head?.map (·.token.kind)) ≤ 2 := Step.weightAt_le _ _
    rw [perform, ensures_bind, ensures_enter]
    exact ensures_key h' hstacked (by omega)
  | key => exact ensures_key hs hstacked (by omega)
  | value => exact ensures_value hs hstacked (by omega)
  -- Flow collections, and pairs inside flow sequences.
  | flowFirstEntry =>
    obtain ⟨r, rest, rfl, h'⟩ := hs.enter (hstart _ rfl) (by simp)
    simp only [Step.weightAt, Step.weight, List.length_cons] at hlight
    rw [perform, ensures_bind, ensures_enter]
    exact ensures_flowEntry true h' hstacked (by omega) fun _ => ⟨rfl, by omega⟩
  | flowEntry =>
    exact ensures_flowEntry false hs hstacked (by simp only [Step.weightAt, Step.weight] at hlight; omega) fun h => by cases h
  | pairKey =>
    exact ensures_pairKey hs hstacked (hstart _ rfl).1 (by simp only [Step.weightAt, Step.weight] at hlight; omega)
  | pairValue => exact ensures_pairValue hs hstacked (by simp only [Step.weightAt, Step.weight] at hlight; omega)
  | pairEnd => exact ensures_pairEnd hs hstacked (by simp only [Step.weightAt, Step.weight] at hlight; omega)
  | flowFirstKey =>
    obtain ⟨r, rest, rfl, h'⟩ := hs.enter (hstart _ rfl) (by simp)
    simp only [Step.weightAt, Step.weight, List.length_cons] at hlight
    rw [perform, ensures_bind, ensures_enter]
    exact ensures_flowKey true h' hstacked (by omega) fun _ => ⟨rfl, by omega⟩
  | flowKey =>
    exact ensures_flowKey false hs hstacked (by simp only [Step.weightAt, Step.weight] at hlight; omega) fun h => by cases h
  | flowValue => exact ensures_flowValue hs hstacked (by simp only [Step.weightAt, Step.weight] at hlight; omega)
  | flowMissingValue =>
    have hnext : Settles goal (budget - 1) ⟨tokens, failure, some .flowKey, returns, marks, handles⟩ :=
      settles_next .flowKey hs hstacked ⟨rfl, rfl⟩ (by simp only [Step.weightAt, Step.weight] at hlight ⊢; omega)
    cases tokens with
    | nil =>
      simp only [perform, ensures_bind, ensures_goto]
      exact ensures_peekToken_nil hs.failure_ne_none
    | cons r rest =>
      simp only [perform, ensures_bind, ensures_goto, ensures_peekToken, ensures_emptyScalar]
      exact hnext

end Parse

/-! ## The whole stream -/

/-- A reader that takes all its steps without a fault has come to the end of the stream. -/
theorem EventReader.goal_of_drain {goal : Prop} {fuel : Nat} {p : EventReader} {events : List Event} (budget : Nat)
    (h : Settles goal budget p) (hb : budget ≤ fuel) (hf : (p.drain fuel events).failure = none) : goal := by
  induction fuel generalizing budget p events with
  | zero =>
    -- A reader that goes on weighs less than the fuel, so there is some left.
    rcases h with ⟨-, hgoal⟩ | ⟨step, hgoing⟩
    · exact hgoal
    · exact absurd (Nat.lt_of_lt_of_le hgoing.light hb) (Nat.not_lt_zero _)
  | succ fuel ih =>
    rcases h with ⟨-, hgoal⟩ | ⟨step, hgoing⟩
    · exact hgoal
    · rw [drain, hgoing.next] at hf
      dsimp only at hf
      cases hrun : (Parse.perform step).run p with
      | error e =>
        rw [hrun] at hf
        cases hf
      | ok r =>
        rw [hrun] at hf
        exact ih _ (Parse.ensures_perform hgoing r.1 r.2 hrun) (by omega) hf

/-- The grammar accepts the tokens of a text that has all its events. -/
theorem accepts_of_events {t : Text} (hf : (EventStream.ofText t).failure = none)
    (hfed : (TokenStream.ofText t).failure = none →
      ∃ r ∈ (TokenStream.ofText t).tokens.tail, r.token.kind = .streamEnd) :
    Accepts [] .streamStart ((TokenStream.ofText t).tokens.tail.map (·.token.kind)) := by
  rw [EventStream.ofText] at hf
  generalize hstream : TokenStream.ofText t = stream at hf hfed ⊢
  obtain ⟨tokens, failure⟩ := stream
  have hfuel : parseFuel ⟨tokens, failure⟩ = (8 * tokens.length + 31) + 1 := by
    simp only [parseFuel]
    omega
  rw [hfuel, EventReader.drain, EventReader.start] at hf
  dsimp only at hf
  cases hrun : (Parse.perform .streamStart).run
      ⟨tokens, failure, some .streamStart, [], [], Parse.defaultHandles⟩ with
  | error e =>
    rw [hrun] at hf
    cases hf
  | ok r =>
    rw [hrun] at hf
    refine EventReader.goal_of_drain (5 * tokens.length + 6) (?_ : Settles _ _ r.2) (by omega) hf
    have hstart : Ensures (Parse.perform .streamStart) ⟨tokens, failure, some .streamStart, [], [], Parse.defaultHandles⟩
        fun _ p' => Settles (Accepts [] .streamStart (tokens.tail.map (·.token.kind))) (5 * tokens.length + 6) p' := by
      have hs : Stands (Accepts [] .streamStart (tokens.tail.map (·.token.kind))) [] .streamStart tokens.tail failure :=
        ⟨id, hfed⟩
      cases tokens with
      | nil =>
        rw [Parse.perform, ensures_bind, Parse.take, ensures_bind]
        exact Parse.ensures_peekToken_nil hs.failure_ne_none
      | cons first rest =>
        simp only [Parse.perform, ensures_bind, Parse.ensures_take, Parse.ensures_goto, ensures_pure]
        refine settles_begin .implicitDocument hs rfl rfl rfl ?_
        simp only [List.length_cons, Step.weightAt, Step.weight, weightOf, List.map_nil, List.sum_nil]
        omega
    exact hstart r.1 r.2 hrun

end YamlStyle.Yaml
