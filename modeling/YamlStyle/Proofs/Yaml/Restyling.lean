import YamlStyle.Proofs.Yaml.Ensures
import YamlStyle.Proofs.Yaml.Layout
import YamlStyle.Yaml.Event

/-!
# The grammar does not see how scalars are written

Two texts whose tokens differ only in where they stand and in how scalars are written are both accepted, or neither is.
-/

namespace YamlStyle.Yaml

/-! ## Tokens -/

/-- The same token, or scalars that are written in other styles. -/
inductive TokenKind.IsLike : TokenKind → TokenKind → Prop
  | refl (kind : TokenKind) : IsLike kind kind
  | scalar (text : String) (style style' : ScalarStyle) : IsLike (.scalar text style) (.scalar text style')

/-- Questions about tokens other than scalars have the same answers. -/
theorem TokenKind.IsLike.eq_iff {kind kind' k : TokenKind} (h : kind.IsLike kind') (hk : k.lexemeKind ≠ .scalar) :
    kind = k ↔ kind' = k := by
  cases h with
  | refl => exact Iff.rfl
  | scalar => constructor <;> (rintro rfl; exact absurd rfl hk)

theorem TokenKind.IsLike.beq_iff {kind kind' k : TokenKind} (h : kind.IsLike kind') (hk : k.lexemeKind ≠ .scalar) :
    (kind == k) = true ↔ (kind' == k) = true := by
  rw [beq_iff_eq, beq_iff_eq]
  exact h.eq_iff hk

/-- The same token for the grammar. -/
structure Released.IsLike (r r' : Released) : Prop where
  kind : r.token.kind.IsLike r'.token.kind
  version : r'.version = r.version

/-- The same tokens for the grammar, with the marker of the end of a document on a line of its own, or not. -/
inductive Abreast : List Released → List Released → Prop
  | nil : Abreast [] []
  | cons {r r' : Released} {rest rest' : List Released} (h : r.IsLike r')
      (hline : r.token.kind = .documentEnd → ∀ x ∈ rest.head?, ∀ x' ∈ rest'.head?,
        (r'.token.stop.line = x'.token.start.line ↔ r.token.stop.line = x.token.start.line))
      (hrest : Abreast rest rest') : Abreast (r :: rest) (r' :: rest')

theorem Abreast.length_eq {rs rs' : List Released} (h : Abreast rs rs') : rs'.length = rs.length := by
  induction h with
  | nil => rfl
  | cons _ _ _ ih => rw [List.length_cons, List.length_cons, ih]

namespace Parse

/-- Two readers of the same tokens at the same step. -/
structure Level (p p' : EventReader) : Prop where
  tokens : Abreast p.tokens p'.tokens
  failure : p.failure = none ∧ p'.failure = none
  step : p'.step = p.step
  returns : p'.returns = p.returns
  handles : p'.handles = p.handles

variable {α β : Type} {p p' : EventReader} {G : EventReader → Prop} {Q : α → EventReader → β → EventReader → Prop}

/-- Whatever one reader does, the other does as well. -/
def Same (x x' : Parse α) : Prop := ∀ p p', Level p p' → Follows anywhere x p x' p' fun _ q _ q' => Level q q'

theorem Same.bind {x x' : Parse α} {f f' : α → Parse β} (hx : Same x x') (hf : ∀ a a', Same (f a) (f' a')) :
    Same (x >>= f) (x' >>= f') := fun p p' h => (hx p p' h).bind fun a q a' q' hq => hf a a' q q' hq

theorem same_pure (a a' : α) : Same (pure a : Parse α) (pure a') := fun _ _ h => follows_pure h

theorem same_modify {f g : EventReader → EventReader} (h : ∀ p p', Level p p' → Level (f p) (g p')) :
    Same (modify f) (modify g) := fun p p' hp => follows_modify_end (h p p' hp)

theorem same_throw {e : Failure} {x : Parse α} : Same (throw e : Parse α) x := fun _ _ _ => follows_throw

theorem same_ite {b b' : Prop} [Decidable b] [Decidable b'] {x y x' y' : Parse α} (hb : b ↔ b') (hx : Same x x')
    (hy : Same y y') :
    Same (if b then x else y) (if b' then x' else y') := fun p p' h => follows_ite hb (fun _ => hx p p' h) fun _ => hy p p' h

theorem same_goto (step : Step) : Same (goto step) (goto step) := same_modify fun _ _ h => { h with step := rfl }

theorem same_call (step : Step) : Same (call step) (call step) := same_modify fun _ _ h => { h with
  returns := congrArg (step :: ·) h.returns }

theorem same_leave : Same leave leave := same_modify fun _ _ h => { h with
  step := by rw [h.returns]
  returns := congrArg List.tail h.returns }

/-- The next token is the same. -/
theorem same_peek {f f' : Released → Parse α} (h : ∀ r r', r.IsLike r' → Same (f r) (f' r')) :
    Same (peek >>= f) (peek >>= f') := by
  intro p p' hp
  obtain ⟨tokens, failure, step, returns, marks, handles⟩ := p
  obtain ⟨tokens', failure', step', returns', marks', handles'⟩ := p'
  obtain ⟨htokens, ⟨hf, hf'⟩, -⟩ := id hp
  cases hf
  cases hf'
  cases htokens with
  | nil => exact h _ _ ⟨.refl _, rfl⟩ _ _ hp
  | cons hr hline hrest => exact h _ _ hr _ _ hp

theorem same_peekToken {f f' : Token → Parse α} (h : ∀ t t', t.kind.IsLike t'.kind → Same (f t) (f' t')) :
    Same (peekToken >>= f) (peekToken >>= f') := by
  rw [peekToken, bind_assoc, bind_assoc]
  refine same_peek fun r r' hr => ?_
  rw [pure_bind, pure_bind]
  exact h _ _ hr.kind

theorem same_peekKind {f f' : TokenKind → Parse α} (h : ∀ k k' : TokenKind, k.IsLike k' → Same (f k) (f' k')) :
    Same (peekKind >>= f) (peekKind >>= f') := by
  rw [peekKind, bind_assoc, bind_assoc]
  refine same_peekToken fun t t' ht => ?_
  rw [pure_bind, pure_bind]
  exact h _ _ ht

theorem same_drop : Same (modify fun s => { s with tokens := s.tokens.tail })
    (modify fun s => { s with tokens := s.tokens.tail }) := by
  have htail : ∀ {rs rs' : List Released}, Abreast rs rs' → Abreast rs.tail rs'.tail := by
    intro rs rs' h
    cases h with
    | nil => exact .nil
    | cons _ _ hrest => exact hrest
  exact same_modify fun p p' h => { h with tokens := htail h.tokens }

theorem same_take {f f' : Token → Parse α} (h : ∀ t t', t.kind.IsLike t'.kind → Same (f t) (f' t')) :
    Same (take >>= f) (take >>= f') := by
  rw [take, bind_assoc, bind_assoc]
  refine same_peekToken fun t t' ht => ?_
  rw [bind_assoc, bind_assoc]
  refine same_drop.bind fun _ _ => ?_
  rw [pure_bind, pure_bind]
  exact h t t' ht

/-! ## Nodes -/

theorem same_expandTag (start tagMark start' tagMark' : Mark) (t : Tag) :
    Same (expandTag start tagMark t) (expandTag start' tagMark' t) := by
  intro p p' hp
  rw [expandTag, expandTag]
  refine follows_get ?_
  dsimp only
  rw [hp.handles]
  have hsuffix : ∀ lead : String, Same (do return lead ++ String.ofList (← unescaped t.suffix.toList))
      (do return lead ++ String.ofList (← unescaped t.suffix.toList)) := fun lead => by
    refine Same.bind (fun q q' hq => follows_lift fun a ha => ⟨a, ha, hq⟩) fun _ _ => same_pure _ _
  cases t.handle with
  | none => exact hsuffix "" p p' hp
  | some h =>
    dsimp only
    cases p.handles.lookup h with
    | none => exact follows_throw
    | some lead => exact hsuffix lead p p' hp

theorem same_properties {f f' : Properties × Option Mark → Parse α}
    (h : ∀ a a', a'.2.isSome = a.2.isSome → Same (f a) (f' a')) :
    Same (properties >>= f) (properties >>= f') := by
  rw [properties, bind_assoc, bind_assoc]
  refine same_peekToken fun ⟨kind, start, stop⟩ ⟨kind', start', stop'⟩ ht => ?_
  have hpure : ∀ a a' : Properties × Option Mark, a'.2.isSome = a.2.isSome → Same (pure a >>= f) (pure a' >>= f') := by
    intro a a' ha
    rw [pure_bind, pure_bind]
    exact h a a' ha
  cases ht with
  | scalar => exact hpure _ _ rfl
  | refl =>
    cases kind with
    | anchor name =>
      simp only [bind_assoc]
      refine same_take fun _ _ _ => same_peekToken fun ⟨kind, mark, stop⟩ ⟨kind', mark', stop'⟩ ht => ?_
      cases ht with
      | scalar => exact hpure _ _ rfl
      | refl =>
        cases kind with
        | tag t =>
          simp only [bind_assoc]
          exact same_take fun _ _ _ => (same_expandTag _ _ _ _ t).bind fun _ _ => hpure _ _ rfl
        | _ => exact hpure _ _ rfl
    | tag t =>
      simp only [bind_assoc]
      refine same_take fun _ _ _ => same_peekToken fun ⟨kind, mark, stop⟩ ⟨kind', mark', stop'⟩ ht => ?_
      have hlone : Same (do
            let tag ← expandTag start start t
            pure (⟨none, some tag⟩, some start) >>= f) (do
            let tag ← expandTag start' start' t
            pure (⟨none, some tag⟩, some start') >>= f') :=
        (same_expandTag _ _ _ _ t).bind fun _ _ => hpure _ _ rfl
      cases ht with
      | scalar => simpa only [bind_assoc] using hlone
      | refl =>
        cases kind with
        | anchor name =>
          simp only [bind_assoc]
          exact same_take fun _ _ _ => (same_expandTag _ _ _ _ t).bind fun _ _ => hpure _ _ rfl
        | _ => simpa only [bind_assoc] using hlone
    | _ => exact hpure _ _ rfl

/-- What comes after the properties of a node. -/
def content (block indentless : Bool) (found : Properties × Option Mark) : Parse Event := do
  let (props, propsStart) := found
  let t ← peekToken
  let start := propsStart.getD t.start
  if indentless && t.kind == .blockEntry then
    goto .indentlessEntry
    return ⟨.sequenceStart props, start⟩
  match t.kind, block with
  | .scalar value style, _ =>
    let _ ← take
    leave
    return ⟨.scalar props value style, start⟩
  | .flowSequenceStart, _ =>
    goto .flowFirstEntry
    return ⟨.sequenceStart props, start⟩
  | .flowMappingStart, _ =>
    goto .flowFirstKey
    return ⟨.mappingStart props, start⟩
  | .blockSequenceStart, true =>
    goto .firstEntry
    return ⟨.sequenceStart props, start⟩
  | .blockMappingStart, true =>
    goto .firstKey
    return ⟨.mappingStart props, start⟩
  | _, _ =>
    if propsStart.isSome then
      leave
      return ⟨.scalar props "" .plain, start⟩
    throw (.fault
      ⟨some (if block then .blockNode else .flowNode), some start, some (.expectedContent t.kind),
        some t.start⟩)

/-- A node is an alias, or properties and content. -/
theorem node_eq (block indentless : Bool) : node block indentless = (do
    let t ← peekToken
    match t.kind with
    | .alias name =>
      let _ ← take
      leave
      return ⟨.alias name, t.start⟩
    | _ => properties >>= content block indentless) := by
  refine congrArg (peekToken >>= ·) (funext fun ⟨kind, start, stop⟩ => ?_)
  cases kind <;> rfl

theorem same_content (block indentless : Bool) {found found' : Properties × Option Mark}
    (h : found'.2.isSome = found.2.isSome) :
    Same (content block indentless found) (content block indentless found') := by
  obtain ⟨props, propsStart⟩ := found
  obtain ⟨props', propsStart'⟩ := found'
  have hgoto : ∀ (step : Step) (e e' : Event), Same (do goto step; return e) (do goto step; return e') :=
    fun step e e' => (same_goto step).bind fun _ _ => same_pure _ _
  have hleave : ∀ e e' : Event, Same (do leave; return e) (do leave; return e') :=
    fun e e' => same_leave.bind fun _ _ => same_pure _ _
  have hnone : ∀ {e e' : Event} {failure failure' : Failure},
      Same (if propsStart.isSome then (do leave; return e) else throw failure)
        (if propsStart'.isSome then (do leave; return e') else throw failure') :=
    same_ite (by rw [← h]) (hleave _ _) same_throw
  refine same_peekToken fun ⟨kind, start, stop⟩ ⟨kind', start', stop'⟩ ht => ?_
  refine same_ite (by simp only [Bool.and_eq_true, beq_iff_eq, ht.eq_iff (k := .blockEntry) nofun]) (hgoto _ _ _) ?_
  cases ht with
  | scalar => exact same_take fun _ _ _ => hleave _ _
  | refl =>
    cases kind with
    | scalar text style => exact same_take fun _ _ _ => hleave _ _
    | flowSequenceStart => exact hgoto _ _ _
    | flowMappingStart => exact hgoto _ _ _
    | blockSequenceStart => cases block <;> first | exact hgoto _ _ _ | exact hnone
    | blockMappingStart => cases block <;> first | exact hgoto _ _ _ | exact hnone
    | _ => exact hnone

theorem same_node (block indentless : Bool) : Same (node block indentless) (node block indentless) := by
  have hcontent : Same (properties >>= content block indentless) (properties >>= content block indentless) :=
    same_properties fun _ _ h => same_content block indentless h
  rw [node_eq]
  refine same_peekToken fun ⟨kind, start, stop⟩ ⟨kind', start', stop'⟩ ht => ?_
  cases ht with
  | scalar => exact hcontent
  | refl =>
    cases kind with
    | «alias» name => exact same_take fun _ _ _ => same_leave.bind fun _ _ => same_pure _ _
    | _ => exact hcontent

theorem same_emptyScalar (m m' : Mark) : Same (emptyScalar m) (emptyScalar m') := same_pure _ _

theorem same_nodeUnless {followers : List TokenKind} (hf : ∀ k ∈ followers, k.lexemeKind ≠ .scalar) (block indentless : Bool)
    (after : Step) (m m' : Mark) : Same (nodeUnless followers block indentless after m)
    (nodeUnless followers block indentless after m') := by
  refine same_peekKind fun k k' hk => same_ite ?_ ((same_goto _).bind fun _ _ => same_emptyScalar _ _)
    ((same_call _).bind fun _ _ => same_node _ _)
  simp only [List.contains_iff_mem]
  exact ⟨fun hmem => (hk.eq_iff (hf k hmem)).1 rfl ▸ hmem, fun hmem => (hk.eq_iff (hf k' hmem)).2 rfl ▸ hmem⟩

/-! ## Collections -/

theorem same_enter : Same enter enter := same_take fun _ _ _ => same_modify fun _ _ h => { h with }

theorem same_finish (kind : EventKind) : Same (finish kind) (finish kind) :=
  same_take fun _ _ _ => same_leave.bind fun _ _ =>
    (same_modify (f := fun s => { s with marks := s.marks.tail }) (g := fun s => { s with marks := s.marks.tail })
      fun _ _ h => { h with }).bind fun _ _ => same_pure _ _

theorem same_failInside {context : Context} {cause : TokenKind → Cause} {x : Parse α} : Same (failInside context cause) x :=
  fun _ _ _ _ _ h => by
    obtain ⟨_, _, -, h⟩ := exists_of_run_bind_ok h
    obtain ⟨_, _, -, h⟩ := exists_of_run_bind_ok h
    cases h

theorem same_entry : Same entry entry :=
  same_peekToken fun _ _ ht => same_ite (ht.beq_iff nofun)
    (same_take fun _ _ _ => same_nodeUnless (by decide) _ _ _ _ _)
    (same_ite (ht.beq_iff nofun) (same_finish _) same_failInside)

theorem same_indentlessEntry : Same indentlessEntry indentlessEntry :=
  same_peekToken fun _ _ ht => same_ite (ht.beq_iff nofun)
    (same_take fun _ _ _ => same_nodeUnless (by decide) _ _ _ _ _)
    (same_leave.bind fun _ _ => same_pure _ _)

theorem same_key : Same key key := by
  refine same_peek fun ⟨t, version⟩ ⟨t', version'⟩ ⟨ht, hversion⟩ => ?_
  cases hversion
  refine same_ite (ht.beq_iff nofun) (same_take fun _ _ _ => same_nodeUnless (by decide) _ _ _ _ _) (same_ite ?_ ?_ ?_)
  · rw [Bool.and_eq_true, Bool.and_eq_true, ht.beq_iff (k := .value) nofun]
  · exact (same_goto _).bind fun _ _ => same_emptyScalar _ _
  · exact same_ite (ht.beq_iff nofun) (same_finish _) same_failInside

theorem same_value : Same value value :=
  same_peekToken fun _ _ ht => same_ite (ht.beq_iff nofun)
    (same_take fun _ _ _ => same_peekToken fun _ _ _ => same_nodeUnless (by decide) _ _ _ _ _)
    ((same_goto _).bind fun _ _ => same_emptyScalar _ _)

theorem same_comma (context : Context) (cause : TokenKind → Cause) : Same (comma context cause) (comma context cause) :=
  same_peekKind fun _ _ hk => same_ite (hk.beq_iff nofun) (same_take fun _ _ _ => same_pure _ _) same_failInside

theorem same_flowEntry (first : Bool) : Same (flowEntry first) (flowEntry first) := by
  refine same_peekKind fun _ _ hk => same_ite (hk.beq_iff nofun) (same_finish _) ?_
  refine same_ite Iff.rfl ((same_comma _ _).bind fun _ _ => ?_) ?_
  all_goals
    exact same_peekToken fun _ _ ht => same_ite (ht.beq_iff nofun) ((same_goto _).bind fun _ _ => same_pure _ _)
      (same_ite (ht.beq_iff nofun) (same_finish _) ((same_call _).bind fun _ _ => same_node _ _))

theorem same_pairKey : Same pairKey pairKey := same_take fun _ _ _ => same_nodeUnless (by decide) _ _ _ _ _

theorem same_pairValue : Same pairValue pairValue :=
  same_peekToken fun _ _ ht => same_ite (ht.beq_iff nofun)
    (same_take fun _ _ _ => same_nodeUnless (by decide) _ _ _ _ _)
    ((same_goto _).bind fun _ _ => same_emptyScalar _ _)

theorem same_pairEnd : Same pairEnd pairEnd := (same_goto _).bind fun _ _ => same_peekToken fun _ _ _ => same_pure _ _

theorem same_flowKey (first : Bool) : Same (flowKey first) (flowKey first) := by
  refine same_peekKind fun _ _ hk => same_ite (hk.beq_iff nofun) (same_finish _) ?_
  refine same_ite Iff.rfl ((same_comma _ _).bind fun _ _ => ?_) ?_
  all_goals
    refine same_peek fun ⟨t, version⟩ ⟨t', version'⟩ ⟨ht, hversion⟩ => ?_
    cases hversion
    refine same_ite (ht.beq_iff nofun) (same_take fun _ _ _ => same_nodeUnless (by decide) _ _ _ _ _) (same_ite ?_ ?_ ?_)
    · rw [Bool.and_eq_true, Bool.and_eq_true, ht.beq_iff (k := .value) nofun]
    · exact (same_goto _).bind fun _ _ => same_emptyScalar _ _
    · exact same_ite (ht.beq_iff nofun) (same_finish _) ((same_call _).bind fun _ _ => same_node _ _)

theorem same_flowValue : Same flowValue flowValue :=
  same_peekToken fun _ _ ht => same_ite (ht.beq_iff nofun)
    (same_take fun _ _ _ => same_nodeUnless (by decide) _ _ _ _ _)
    ((same_goto _).bind fun _ _ => same_emptyScalar _ _)

/-! ## Documents -/

theorem same_documentEnds (fuel : Nat) : Same (documentEnds fuel) (documentEnds fuel) := by
  induction fuel with
  | zero => exact same_pure _ _
  | succ fuel ih => exact same_peekKind fun _ _ hk => same_ite (hk.beq_iff nofun) (same_take fun _ _ _ => ih) (same_pure _ _)

/-- Handles that no directive names stand for themselves. -/
theorem same_declare (version : Option Version) (handles : List (String × String)) :
    Same (do
      let missing := defaultHandles.filter fun (h, _) => !handles.any (·.1 == h)
      modify fun s => { s with handles := handles ++ missing }
      return version) (do
      let missing := defaultHandles.filter fun (h, _) => !handles.any (·.1 == h)
      modify fun s => { s with handles := handles ++ missing }
      return version) :=
  Same.bind (same_modify fun _ _ h => { h with handles := rfl }) fun _ _ => same_pure _ _

theorem same_directivesEnd (version : Option Version) (handles : List (String × String)) :
    Same (do
      match version with
      | some v => if v.minor != 1 && v.minor != 2 then throw (.unknownMinorVersion v)
      | none => pure ()
      let missing := defaultHandles.filter fun (h, _) => !handles.any (·.1 == h)
      modify fun s => { s with handles := handles ++ missing }
      return version) (do
      match version with
      | some v => if v.minor != 1 && v.minor != 2 then throw (.unknownMinorVersion v)
      | none => pure ()
      let missing := defaultHandles.filter fun (h, _) => !handles.any (·.1 == h)
      modify fun s => { s with handles := handles ++ missing }
      return version) := by
  cases version with
  | none => exact same_declare none handles
  | some v => exact same_ite Iff.rfl (same_throw.bind fun _ _ => same_declare _ handles) (same_declare _ handles)

theorem same_directives (fuel : Nat) (version : Option Version) (handles : List (String × String)) :
    Same (directives fuel version handles) (directives fuel version handles) := by
  induction fuel generalizing version handles with
  | zero => exact same_pure _ _
  | succ fuel ih =>
    rw [directives]
    refine same_peekToken fun ⟨kind, start, stop⟩ ⟨kind', start', stop'⟩ ht => ?_
    cases ht with
    | scalar => exact same_directivesEnd _ _
    | refl =>
      cases kind with
      | directive d =>
        refine same_take fun _ _ _ => ?_
        cases d with
        | yaml v =>
          refine same_ite Iff.rfl (same_throw.bind fun _ _ => ?_) ?_
          all_goals exact same_ite Iff.rfl (same_throw.bind fun _ _ => ih _ _) (ih _ _)
        | tag handle lead => exact same_ite Iff.rfl (same_throw.bind fun _ _ => ih _ _) (ih _ _)
        | reserved name => exact ih _ _
      | _ => exact same_directivesEnd _ _

/-- As many tokens are left. -/
theorem same_length {f f' : Nat → Parse α} (h : ∀ n, Same (f n) (f' n)) :
    Same (do f (← get).tokens.length) (do f' (← get).tokens.length) := by
  intro p p' hp
  refine follows_get ?_
  rw [hp.tokens.length_eq]
  exact h _ p p' hp

theorem same_document : Same document document := by
  refine same_length (f := fun n => documentEnds (n + 1) >>= _) fun n => (same_documentEnds _).bind fun _ _ => ?_
  refine same_peekKind fun _ _ hk => same_ite (hk.beq_iff nofun) (same_take fun _ _ _ => ?_) ?_
  · exact Same.bind (same_modify fun _ _ h => { h with step := rfl }) fun _ _ => same_pure _ _
  · refine same_length (f := fun n => directives (n + 1) none [] >>= _) fun n =>
      (same_directives _ _ _).bind fun version version' => ?_
    refine same_peekToken fun t t' ht => ?_
    have hstart : Same (do
        let t ← take
        call .documentEnd
        goto .documentContent
        return (⟨.documentStart version, t.start⟩ : Event)) (do
        let t ← take
        call .documentEnd
        goto .documentContent
        return ⟨.documentStart version', t.start⟩) :=
      same_take fun _ _ _ => (same_call _).bind fun _ _ => (same_goto _).bind fun _ _ => same_pure _ _
    exact same_ite (by simp [ht.eq_iff (k := .documentStart) nofun]) (same_throw.bind fun _ _ => hstart) hstart

theorem isDirective_congr {k k' : TokenKind} (h : k.IsLike k') : isDirective k = isDirective k' := by
  cases h <;> rfl

theorem same_implicitDocument : Same implicitDocument implicitDocument := by
  refine same_peekToken fun t t' ht => same_ite ?_ same_document ?_
  · simp only [isDirective_congr ht, Bool.or_eq_true, ht.beq_iff (k := .documentStart) nofun,
      ht.beq_iff (k := .streamEnd) nofun]
  · exact Same.bind (same_modify fun _ _ h => { h with handles := rfl }) fun _ _ => (same_call _).bind fun _ _ =>
      (same_goto _).bind fun _ _ => same_pure _ _

/-- The document ends on both sides, or on both sides there is content on the line of the marker. -/
theorem same_documentEnd : Same documentEnd documentEnd := by
  have hclose : ∀ {explicit explicit' : Bool} (e e' : Event), explicit' = explicit → Same (do
        let version := (← peek).version
        goto (if version != .v1_1 && explicit then .implicitDocument else .document)
        return e) (do
        let version := (← peek).version
        goto (if version != .v1_1 && explicit' then .implicitDocument else .document)
        return e') := by
    rintro explicit _ e e' rfl
    refine same_peek fun r r' hr => ?_
    rw [hr.version]
    exact (same_goto _).bind fun _ _ => same_pure _ _
  intro p p' hp
  obtain ⟨tokens, failure, step, returns, marks, handles⟩ := p
  obtain ⟨tokens', failure', step', returns', marks', handles'⟩ := p'
  obtain ⟨htokens, ⟨hf, hf'⟩, -⟩ := id hp
  cases hf
  cases hf'
  cases htokens with
  | nil => exact hclose _ _ rfl _ _ hp
  | @cons r r' rest rest' hr hline hrest =>
    have hpeek : ∀ {x x' : Released} {xs xs' : List Released} {f f' : Token → Parse Event}
      {Q : Event → EventReader → Event → EventReader → Prop},
        Follows anywhere (f x.token) ⟨x :: xs, none, step, returns, marks, handles⟩ (f' x'.token)
          ⟨x' :: xs', none, step', returns', marks', handles'⟩ Q →
        Follows anywhere (peekToken >>= f) ⟨x :: xs, none, step, returns, marks, handles⟩ (peekToken >>= f')
          ⟨x' :: xs', none, step', returns', marks', handles'⟩ Q := id
    have htake : ∀ {f f' : Token → Parse Event} {Q : Event → EventReader → Event → EventReader → Prop},
        Follows anywhere (f r.token) ⟨rest, none, step, returns, marks, handles⟩ (f' r'.token)
          ⟨rest', none, step', returns', marks', handles'⟩ Q →
        Follows anywhere (take >>= f) ⟨r :: rest, none, step, returns, marks, handles⟩ (take >>= f')
          ⟨r' :: rest', none, step', returns', marks', handles'⟩ Q := id
    have hkind := hr.kind.beq_iff (k := .documentEnd) nofun
    have hsame : (r'.token.kind == .documentEnd) = (r.token.kind == .documentEnd) := Bool.eq_iff_iff.2 hkind.symm
    have hp' : Level ⟨rest, none, step, returns, marks, handles⟩ ⟨rest', none, step', returns', marks', handles'⟩ :=
      { hp with tokens := hrest }
    refine hpeek (follows_ite hkind (fun he => htake ?_) fun _ => hclose _ _ hsame _ _ hp)
    cases hrest with
    | nil => exact hclose _ _ hsame _ _ hp'
    | @cons x x' xs xs' hx _ _ =>
      refine hpeek (follows_ite ?_ (fun _ => follows_throw_bind) fun _ => hclose _ _ hsame _ _ hp')
      have hlines := hline (eq_of_beq he) x rfl x' rfl
      simp only [Bool.and_eq_true, bne_iff_ne, ne_eq, beq_iff_eq, hx.kind.eq_iff (k := .streamEnd) nofun, hlines]

/-! ## All steps -/

theorem same_perform (step : Step) : Same (perform step) (perform step) := by
  cases step with
  | streamStart => exact same_take fun _ _ _ => (same_goto _).bind fun _ _ => same_pure _ _
  | implicitDocument => exact same_implicitDocument
  | document => exact same_document
  | documentContent =>
    refine same_peekToken fun t t' ht => same_ite ?_ (same_leave.bind fun _ _ => same_emptyScalar _ _) (same_node _ _)
    have hmarker := fun k (hk : k.lexemeKind ≠ .scalar) => (ht.eq_iff (k := k) hk)
    simp only [isDirective_congr ht, Bool.or_eq_true, List.contains_cons, List.contains_nil, beq_iff_eq, Bool.or_false,
      hmarker .documentStart nofun, hmarker .documentEnd nofun, hmarker .streamEnd nofun]
  | documentEnd => exact same_documentEnd
  | blockNode => exact same_node _ _
  | firstEntry => exact same_enter.bind fun _ _ => same_entry
  | entry => exact same_entry
  | indentlessEntry => exact same_indentlessEntry
  | firstKey => exact same_enter.bind fun _ _ => same_key
  | key => exact same_key
  | value => exact same_value
  | flowFirstEntry => exact same_enter.bind fun _ _ => same_flowEntry _
  | flowEntry => exact same_flowEntry _
  | pairKey => exact same_pairKey
  | pairValue => exact same_pairValue
  | pairEnd => exact same_pairEnd
  | flowFirstKey => exact same_enter.bind fun _ _ => same_flowKey _
  | flowKey => exact same_flowKey _
  | flowValue => exact same_flowValue
  | flowMissingValue => exact (same_goto _).bind fun _ _ => same_peekToken fun _ _ _ => same_emptyScalar _ _

end Parse

/-! ## Streams -/

namespace EventReader

theorem failure_drain {p p' : EventReader} (h : Parse.Level p p') (fuel : Nat) (events events' : List Event)
    (hf : (p.drain fuel events).failure = none) : (p'.drain fuel events').failure = none := by
  induction fuel generalizing p p' events events' with
  | zero => rfl
  | succ fuel ih =>
    rw [drain] at hf ⊢
    rw [h.step]
    cases hstep : p.step with
    | none => rfl
    | some step =>
      rw [hstep] at hf
      dsimp only at hf ⊢
      cases hrun : (Parse.perform step).run p with
      | error e =>
        rw [hrun] at hf
        cases hf
      | ok r =>
        obtain ⟨event, q⟩ := r
        obtain ⟨event', q', hrun', hlevel⟩ := Parse.same_perform step p p' h event q hrun trivial
        rw [hrun] at hf
        rw [hrun']
        exact ih hlevel _ _ hf

end EventReader

/-- What has the same tokens for the grammar as an accepted text is accepted. -/
theorem EventStream.failure_ofText {t t' : Text} {rs rs' : List Released} (ht : TokenStream.ofText t = ⟨rs, none⟩)
    (ht' : TokenStream.ofText t' = ⟨rs', none⟩) (h : Abreast rs rs') (hf : (ofText t).failure = none) :
    (ofText t').failure = none := by
  rw [ofText, ht] at hf
  rw [ofText, ht', parseFuel, h.length_eq]
  have hlevel : Parse.Level (.start ⟨rs, none⟩) (.start ⟨rs', none⟩) := ⟨h, ⟨rfl, rfl⟩, rfl, rfl, rfl⟩
  exact EventReader.failure_drain hlevel _ [] [] hf

end YamlStyle.Yaml
