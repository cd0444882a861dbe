import YamlStyle.Proofs.Yaml.TokenHazards
import YamlStyle.Yaml.Event

/-!
# Where the events of a text stop

The events of a text stop where its tokens do, at a fault of the grammar, at a version without meaning,
or at a tag in which a percent sign was escaped.
-/

namespace YamlStyle.Yaml

variable {t : Text}

/-- A reason in the text why its events stop. -/
def Stops (t : Text) (e : Failure) : Prop := e.IsOfForm ∨ Hazard t e

/-- A reader of events whose tokens are traced and stop for a reason. -/
structure EventReader.Traces (t : Text) (s : EventReader) : Prop where
  tokens : ∀ r ∈ s.tokens, Traced t r.token
  failure : ∀ e, s.failure = some e → Stops t e

namespace Parse

variable {α β : Type}

/-- A step that takes tokens and stops for a reason only. -/
def Keeps (t : Text) (x : Parse α) : Prop :=
  Meets (EventReader.Traces t) (Stops t) x fun _ s => s.Traces t

theorem keeps_pure (a : α) : Keeps t (pure a) := meets_pure fun _ h => h

theorem Keeps.bind {x : Parse α} {f : α → Parse β} (hx : Keeps t x) (hf : ∀ a, Keeps t (f a)) : Keeps t (x >>= f) :=
  Meets.bind hx hf

theorem keeps_get : Keeps t get := Meets.post meets_get fun _ _ h => h.2

theorem keeps_modify {f : EventReader → EventReader}
    (hf : ∀ s, (f s).tokens = s.tokens ∧ (f s).failure = s.failure) : Keeps t (modify f) := by
  refine meets_modify fun s hs => ?_
  obtain ⟨htokens, hfailure⟩ := hf s
  constructor
  · rw [htokens]
    exact hs.tokens
  · rw [hfailure]
    exact hs.failure

theorem keeps_ite {b : Prop} [Decidable b] {x y : Parse α} (hx : Keeps t x) (hy : Keeps t y) :
    Keeps t (if b then x else y) := meets_ite (fun _ => hx) fun _ => hy

theorem keeps_throw (f : Fault) (h : f.IsOfForm) : Keeps t (throw (.fault f) : Parse α) :=
  meets_throw fun _ _ => .inl h

theorem meets_peek :
    Meets (EventReader.Traces t) (Stops t) peek fun r s => Traced t r.token ∧ s.Traces t := by
  refine Meets.bind meets_get fun s => ?_
  split
  · next r _ hr =>
    refine meets_pure fun s' hs => ?_
    obtain ⟨rfl, hs⟩ := hs
    exact ⟨hs.tokens r (by rw [hr]; exact .head _), hs⟩
  · next e _ he =>
    refine meets_throw fun s' hs => ?_
    obtain ⟨rfl, hs⟩ := hs
    exact hs.failure e he
  · exact meets_pure fun s' hs => ⟨trivial, hs.2⟩

theorem meets_peekToken :
    Meets (EventReader.Traces t) (Stops t) peekToken fun x s => Traced t x ∧ s.Traces t :=
  Meets.bind meets_peek fun _ => meets_and fun hr => meets_pure fun _ h => ⟨hr, h⟩

theorem keeps_peek : Keeps t peek := Meets.post meets_peek fun _ _ h => h.2

theorem keeps_peekToken : Keeps t peekToken := Meets.post meets_peekToken fun _ _ h => h.2

theorem keeps_peekKind : Keeps t peekKind := Keeps.bind keeps_peekToken fun _ => keeps_pure _

theorem keeps_take : Keeps t take := by
  refine Keeps.bind keeps_peekToken fun _ => Meets.bind (meets_modify fun s hs => ?_) fun _ => keeps_pure _
  exact ⟨fun r hr => hs.tokens r (List.mem_of_mem_tail hr), hs.failure⟩

theorem keeps_goto (step : Step) : Keeps t (goto step) := keeps_modify fun _ => ⟨rfl, rfl⟩

theorem keeps_call (returnTo : Step) : Keeps t (call returnTo) := keeps_modify fun _ => ⟨rfl, rfl⟩

theorem keeps_leave : Keeps t leave := keeps_modify fun _ => ⟨rfl, rfl⟩

theorem keeps_enter : Keeps t enter := Keeps.bind keeps_take fun _ => keeps_modify fun _ => ⟨rfl, rfl⟩

theorem keeps_finish (kind : EventKind) : Keeps t (finish kind) :=
  Keeps.bind keeps_take fun _ => Keeps.bind keeps_leave fun _ => Keeps.bind (keeps_modify fun _ => ⟨rfl, rfl⟩) fun _ => keeps_pure _

theorem keeps_emptyScalar (m : Mark) : Keeps t (emptyScalar m) := keeps_pure _

theorem keeps_failInside (context : Context) (cause : TokenKind → Cause)
    (h : ∀ k, (cause k).IsOfForm) : Keeps t (failInside context cause : Parse α) :=
  Keeps.bind keeps_peekToken fun _ => Keeps.bind keeps_get fun _ => keeps_throw _ (h _)

/-- A check that stops at a fault before a step goes on. -/
theorem keeps_check {b : Prop} [Decidable b] (f : Fault) (hf : f.IsOfForm) {next : PUnit → Parse α}
    (h : ¬b → Keeps t (next ⟨⟩)) : Keeps t (if b then (throw (.fault f) : Parse PUnit) >>= next else next ⟨⟩) := by
  refine meets_ite (fun _ => ?_) h
  exact (meets_throw (Q := fun _ _ => False) fun _ _ => .inl hf).bind fun _ _ h => h.elim

/-! ## Documents -/

/-- The version of a document so far is one that a directive names, and of the first series. -/
theorem keeps_directives (fuel : Nat) {version : Option Version} (handles : List (String × String))
    (h : ∀ v, version = some v → NamesVersion t v ∧ v.major = 1) : Keeps t (directives fuel version handles) := by
  induction fuel generalizing version handles with
  | zero => exact keeps_pure _
  | succ fuel ih =>
    have hend : ∀ missing : List (String × String),
        Keeps t (do modify fun s => { s with handles := handles ++ missing }; return version) := fun _ =>
      Keeps.bind (keeps_modify fun _ => ⟨rfl, rfl⟩) fun _ => keeps_pure _
    refine Meets.bind meets_peekToken fun x => meets_and fun hx => ?_
    split
    · next d hd =>
      have hnames := (hx.of_directive hd).1
      refine Keeps.bind keeps_take fun _ => ?_
      split
      · next v =>
        refine keeps_check _ (by trivial) fun _ => keeps_check _ (by trivial) fun hmajor => ih handles fun v' hv => ?_
        cases hv
        exact ⟨hnames, by simpa using hmajor⟩
      · exact keeps_check _ (by trivial) fun _ => ih _ h
      · exact ih _ h
    · cases version with
      | none => exact hend _
      | some v =>
        refine meets_ite (fun hminor => ?_) fun _ => hend _
        obtain ⟨hnames, hmajor⟩ := h v rfl
        simp only [Bool.and_eq_true, bne_iff_ne] at hminor
        refine (meets_throw (Q := fun _ _ => False) fun _ _ => ?_).bind fun _ _ h => h.elim
        exact .inr (.minorVersion hnames hmajor hminor.1 hminor.2)

theorem keeps_documentEnds (fuel : Nat) : Keeps t (documentEnds fuel) := by
  induction fuel with
  | zero => exact keeps_pure _
  | succ fuel ih => exact Keeps.bind keeps_peekKind fun _ => keeps_ite (keeps_take.bind fun _ => ih) (keeps_pure _)

theorem keeps_document : Keeps t document := by
  refine Keeps.bind keeps_get fun s => (keeps_documentEnds _).bind fun _ => Keeps.bind keeps_peekKind fun kind => keeps_ite ?_ ?_
  · exact Keeps.bind keeps_take fun _ => Keeps.bind (keeps_modify fun _ => ⟨rfl, rfl⟩) fun _ => keeps_pure _
  · refine Keeps.bind keeps_get fun s => (keeps_directives _ _ fun v hv => by cases hv).bind fun version => ?_
    refine Keeps.bind keeps_peekToken fun found => keeps_check _ (by trivial) fun _ => ?_
    exact Keeps.bind keeps_take fun _ => (keeps_call _).bind fun _ => (keeps_goto _).bind fun _ => keeps_pure _

theorem keeps_implicitDocument : Keeps t implicitDocument := by
  refine Keeps.bind keeps_peekToken fun x => keeps_ite keeps_document ?_
  refine Keeps.bind (keeps_modify fun _ => ⟨rfl, rfl⟩) fun _ => ?_
  exact (keeps_call _).bind fun _ => (keeps_goto _).bind fun _ => keeps_pure _

theorem keeps_documentEnd : Keeps t documentEnd := by
  have hend : ∀ (x : Token) (explicit : Bool), Keeps t (do
      let version := (← peek).version
      goto (if version != .v1_1 && explicit then .implicitDocument else .document)
      return (⟨.documentEnd, x.start⟩ : Event)) := fun _ _ =>
    Keeps.bind keeps_peek fun _ => (keeps_goto _).bind fun _ => keeps_pure _
  refine Keeps.bind keeps_peekToken fun x => keeps_ite ?_ (hend _ _)
  exact Keeps.bind keeps_take fun _ => Keeps.bind keeps_peekToken fun _ => keeps_check _ (by trivial) fun _ => hend _ _

/-! ## Tags -/

/-- A suffix can only fail to be read at a percent sign in it. -/
theorem percent_of_unescaped {suffix : Text} {e : Failure} (h : unescaped suffix = .error e) :
    '%' ∈ suffix ∧ ((∃ digits, e = .notNumeral (.malformed 16 digits)) ∨ e = .escapeBeyondUnicode) := by
  induction suffix using unescaped.induct with
  | case1 => rw [unescaped] at h; cases h
  | case2 c r hc ih =>
    obtain rfl := eq_of_beq hc
    refine ⟨.head _, ?_⟩
    rw [unescaped, if_pos hc] at h
    cases hchar : escapedChar (r.take 2) with
    | error e' =>
      rw [hchar] at h
      cases h
      unfold escapedChar at hchar
      split at hchar
      · split at hchar
        · cases hchar
          exact .inr rfl
        · cases hchar
      · next f hf =>
        cases hchar
        rw [Numeral.eq_malformed_of_ofText hf]
        exact .inl ⟨_, rfl⟩
    | ok ch =>
      rw [hchar] at h
      cases hrest : unescaped (r.drop 2) with
      | error e' =>
        rw [hrest] at h
        cases h
        exact (ih hrest).2
      | ok read =>
        rw [hrest] at h
        cases h
  | case3 c r hc ih =>
    rw [unescaped, if_neg hc] at h
    cases hrest : unescaped r with
    | error e' =>
      rw [hrest] at h
      cases h
      exact ⟨.tail _ (ih hrest).1, (ih hrest).2⟩
    | ok read =>
      rw [hrest] at h
      cases h

theorem stops_of_unescaped {suffix : Text} {e : Failure} (hsuffix : EscapesPercent t suffix)
    (h : unescaped suffix = .error e) : Stops t e := by
  obtain ⟨hmem, ⟨digits, rfl⟩ | rfl⟩ := percent_of_unescaped h
  · exact .inr (.tagEscape (hsuffix hmem))
  · exact .inr (.negativeTagEscape (hsuffix hmem))

theorem keeps_expandTag {read : Tag} (hread : EscapesPercent t read.suffix.toList) (start tagMark : Mark) :
    Keeps t (expandTag start tagMark read) := by
  have hend : ∀ lead : String, Keeps t (do return lead ++ String.ofList (← unescaped read.suffix.toList)) :=
    fun lead => Keeps.bind (meets_lift (fun _ _ hs _ => hs) fun _ _ _ he => stops_of_unescaped hread he) fun _ =>
      keeps_pure _
  refine Keeps.bind keeps_get fun s => ?_
  dsimp only
  split
  · exact meets_pure_bind (hend _)
  · split
    · exact meets_pure_bind (hend _)
    · exact (meets_throw (Q := fun _ _ => False) fun _ _ => .inl trivial).bind fun _ _ h => h.elim

theorem keeps_properties : Keeps t properties := by
  refine Meets.bind meets_peekToken fun first => meets_and fun hfirst => ?_
  split
  · refine Keeps.bind keeps_take fun _ => Meets.bind meets_peekToken fun second => meets_and fun hsecond => ?_
    split
    · next read hread =>
      exact Keeps.bind keeps_take fun _ => (keeps_expandTag (hsecond.of_tag hread) _ _).bind fun _ => keeps_pure _
    · exact keeps_pure _
  · next read hread =>
    have hexpand := fun start tagMark => keeps_expandTag (hfirst.of_tag hread) start tagMark
    refine Keeps.bind keeps_take fun _ => Keeps.bind keeps_peekToken fun second => ?_
    split
    · exact Keeps.bind keeps_take fun _ => (hexpand _ _).bind fun _ => keeps_pure _
    · exact (hexpand _ _).bind fun _ => keeps_pure _
  · exact keeps_pure _

/-! ## Nodes -/

theorem keeps_node (block indentless : Bool) : Keeps t (node block indentless) := by
  have hgoto : ∀ (step : Step) (event : Event), Keeps t (do goto step; return event) := fun _ _ =>
    (keeps_goto _).bind fun _ => keeps_pure _
  refine Keeps.bind keeps_peekToken fun x => ?_
  split
  · exact Keeps.bind keeps_take fun _ => Keeps.bind keeps_leave fun _ => keeps_pure _
  · refine Keeps.bind keeps_properties fun found => Keeps.bind keeps_peekToken fun x => keeps_ite (hgoto _ _) ?_
    split
    · exact Keeps.bind keeps_take fun _ => Keeps.bind keeps_leave fun _ => keeps_pure _
    · exact hgoto _ _
    · exact hgoto _ _
    · exact hgoto _ _
    · exact hgoto _ _
    · exact keeps_ite (keeps_leave.bind fun _ => keeps_pure _) (keeps_throw _ trivial)

theorem keeps_nodeUnless (followers : List TokenKind) (block indentless : Bool) (after : Step) (m : Mark) :
    Keeps t (nodeUnless followers block indentless after m) := by
  refine Keeps.bind keeps_peekKind fun _ => keeps_ite ?_ ?_
  · exact (keeps_goto _).bind fun _ => keeps_emptyScalar _
  · exact (keeps_call _).bind fun _ => keeps_node _ _

/-! ## Block collections -/

theorem keeps_entry : Keeps t entry := by
  refine Keeps.bind keeps_peekToken fun x => keeps_ite ?_ (keeps_ite (keeps_finish _) (keeps_failInside _ _ (fun _ => by trivial)))
  exact Keeps.bind keeps_take fun _ => keeps_nodeUnless _ _ _ _ _

theorem keeps_indentlessEntry : Keeps t indentlessEntry := by
  refine Keeps.bind keeps_peekToken fun x => keeps_ite ?_ ?_
  · exact Keeps.bind keeps_take fun _ => keeps_nodeUnless _ _ _ _ _
  · exact Keeps.bind keeps_leave fun _ => keeps_pure _

theorem keeps_key : Keeps t key := by
  refine Keeps.bind keeps_peek fun r => keeps_ite ?_ (keeps_ite ?_ (keeps_ite (keeps_finish _) (keeps_failInside _ _ (fun _ => by trivial))))
  · exact Keeps.bind keeps_take fun _ => keeps_nodeUnless _ _ _ _ _
  · exact (keeps_goto _).bind fun _ => keeps_emptyScalar _

theorem keeps_value : Keeps t value := by
  refine Keeps.bind keeps_peekToken fun x => keeps_ite ?_ ?_
  · exact Keeps.bind keeps_take fun _ => Keeps.bind keeps_peekToken fun _ => keeps_nodeUnless _ _ _ _ _
  · exact (keeps_goto _).bind fun _ => keeps_emptyScalar _

/-! ## Flow collections -/

theorem keeps_comma (context : Context) (cause : TokenKind → Cause)
    (h : ∀ k, (cause k).IsOfForm) : Keeps t (comma context cause) :=
  Keeps.bind keeps_peekKind fun _ => keeps_ite (keeps_take.bind fun _ => keeps_pure _) (keeps_failInside _ _ h)

theorem keeps_flowEntry (first : Bool) : Keeps t (flowEntry first) := by
  refine Keeps.bind keeps_peekKind fun _ => keeps_ite (keeps_finish _) ?_
  have hitem : Keeps t (do
      let x ← peekToken
      if x.kind == .key then
        goto .pairKey
        return ⟨.mappingStart ⟨none, none⟩, x.start⟩
      else if x.kind == .flowSequenceEnd then finish .sequenceEnd
      else
        call .flowEntry
        node false false) := by
    refine Keeps.bind keeps_peekToken fun x => keeps_ite ?_ (keeps_ite (keeps_finish _) ?_)
    · exact (keeps_goto _).bind fun _ => keeps_pure _
    · exact (keeps_call _).bind fun _ => keeps_node _ _
  exact keeps_ite ((keeps_comma _ _ fun _ => by trivial).bind fun _ => hitem) hitem

theorem keeps_pairKey : Keeps t pairKey := Keeps.bind keeps_take fun _ => keeps_nodeUnless _ _ _ _ _

theorem keeps_pairValue : Keeps t pairValue := by
  refine Keeps.bind keeps_peekToken fun x => keeps_ite ?_ ?_
  · exact Keeps.bind keeps_take fun _ => keeps_nodeUnless _ _ _ _ _
  · exact (keeps_goto _).bind fun _ => keeps_emptyScalar _

theorem keeps_pairEnd : Keeps t pairEnd := (keeps_goto _).bind fun _ => Keeps.bind keeps_peekToken fun _ => keeps_pure _

theorem keeps_flowKey (first : Bool) : Keeps t (flowKey first) := by
  refine Keeps.bind keeps_peekKind fun _ => keeps_ite (keeps_finish _) ?_
  have hitem : Keeps t (do
      let r ← peek
      if r.1.kind == .key then
        let _ ← take
        nodeUnless [.value, .flowEntry, .flowMappingEnd] false false .flowValue r.1.stop
      else if r.2.after1_1 && r.1.kind == .value then
        goto .flowValue
        emptyScalar r.1.stop
      else if r.1.kind == .flowMappingEnd then finish .mappingEnd
      else
        call .flowMissingValue
        node false false) := by
    refine Keeps.bind keeps_peek fun r => keeps_ite ?_ (keeps_ite ?_ (keeps_ite (keeps_finish _) ?_))
    · exact Keeps.bind keeps_take fun _ => keeps_nodeUnless _ _ _ _ _
    · exact (keeps_goto _).bind fun _ => keeps_emptyScalar _
    · exact (keeps_call _).bind fun _ => keeps_node _ _
  exact keeps_ite ((keeps_comma _ _ fun _ => by trivial).bind fun _ => hitem) hitem

theorem keeps_flowValue : Keeps t flowValue := by
  refine Keeps.bind keeps_peekToken fun x => keeps_ite ?_ ?_
  · exact Keeps.bind keeps_take fun _ => keeps_nodeUnless _ _ _ _ _
  · exact (keeps_goto _).bind fun _ => keeps_emptyScalar _

/-! ## A run -/

theorem keeps_perform (step : Step) : Keeps t (perform step) := by
  cases step with
  | streamStart => exact Keeps.bind keeps_take fun _ => (keeps_goto _).bind fun _ => keeps_pure _
  | implicitDocument => exact keeps_implicitDocument
  | document => exact keeps_document
  | documentContent =>
    refine Keeps.bind keeps_peekToken fun x => keeps_ite ?_ (keeps_node _ _)
    exact Keeps.bind keeps_leave fun _ => keeps_emptyScalar _
  | documentEnd => exact keeps_documentEnd
  | blockNode => exact keeps_node _ _
  | firstEntry => exact Keeps.bind keeps_enter fun _ => keeps_entry
  | entry => exact keeps_entry
  | indentlessEntry => exact keeps_indentlessEntry
  | firstKey => exact Keeps.bind keeps_enter fun _ => keeps_key
  | key => exact keeps_key
  | value => exact keeps_value
  | flowFirstEntry => exact Keeps.bind keeps_enter fun _ => keeps_flowEntry _
  | flowEntry => exact keeps_flowEntry _
  | pairKey => exact keeps_pairKey
  | pairValue => exact keeps_pairValue
  | pairEnd => exact keeps_pairEnd
  | flowFirstKey => exact Keeps.bind keeps_enter fun _ => keeps_flowKey _
  | flowKey => exact keeps_flowKey _
  | flowValue => exact keeps_flowValue
  | flowMissingValue => exact (keeps_goto _).bind fun _ => Keeps.bind keeps_peekToken fun _ => keeps_emptyScalar _

end Parse

theorem stops_of_drain {fuel : Nat} {s : EventReader} {events : List Event} {e : Failure} (hs : s.Traces t)
    (h : (s.drain fuel events).failure = some e) : Stops t e := by
  induction fuel generalizing s events with
  | zero => cases h
  | succ fuel ih =>
    rw [EventReader.drain] at h
    split at h
    · cases h
    · next step _ =>
      obtain ⟨hok, hfails⟩ := Parse.keeps_perform step s hs
      split at h
      · next e' he =>
        cases h
        exact hfails e he
      · next event s' he => exact ih (hok _ _ he) h

/-- The events of a text stop for a reason. -/
theorem stops_of_ofText {e : Failure} (h : (EventStream.ofText t).failure = some e) : Stops t e := by
  have htraces := traces_ofText t
  refine stops_of_drain ⟨htraces.tokens, fun e he => ?_⟩ h
  rcases htraces.failure e he with hform | hhazard
  · exact .inl hform
  · exact .inr (.ofToken hhazard)

end YamlStyle.Yaml
