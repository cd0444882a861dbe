import YamlStyle.Proofs.Journal
import YamlStyle.Proofs.Lexeme.Complete
import YamlStyle.Proofs.Lexeme.Spelling
import YamlStyle.Proofs.Rule.Anchors.Declared
import YamlStyle.Proofs.Text.Place
import YamlStyle.Proofs.Yaml.Endings

/-!
# Anchors that are not used

Where a document closes, the rule for anchors reports those that no alias has named since they were declared
last. It looks for them before it follows the last lexeme of the document, so an anchor or an alias there comes
too late: which anchors are reported is told by `IsForgotten` (`steps_unused`). A document of nothing but an
anchor shows that these are not all that are unused (`not_unused_of_lone_anchor`).
-/

namespace YamlStyle

/-- An offset is told by its line and column. -/
theorem LineIndex.mark_inj {t : Text} {a b : Nat} (hline : ((ofText t).mark a).line = ((ofText t).mark b).line)
    (hcolumn : ((ofText t).mark a).column = ((ofText t).mark b).column) : a = b := by
  wlog h : a ≤ b
  · exact (this hline.symm hcolumn.symm (Nat.le_of_not_le h)).symm
  obtain ⟨k, rfl⟩ := Nat.exists_eq_add_of_le h
  rw [LineIndex.column_mark_add hline.symm] at hcolumn
  omega

namespace Lexeme

/-- No two lexemes of one kind stand at one place, but for the ends of blocks. -/
theorem pairwise_ofTree (t : Text) (root : Node) : (ofTree t root).Pairwise fun x y =>
    x.kind.isShown = true → y.kind = x.kind → (y.start.line, y.start.column) ≠ (x.start.line, x.start.column) := by
  have hshown : ((ofTree t root).filter (·.kind.isShown)).Pairwise fun x y =>
      y.kind = x.kind → (y.start.line, y.start.column) ≠ (x.start.line, x.start.column) := by
    rw [filter_ofTree, List.pairwise_map]
    refine (Piece.distinct_pairwise [] _).imp fun {p q} hne hkind hplace => ?_
    obtain ⟨hline, hcolumn⟩ := Prod.mk.inj hplace
    have hsame := Piece.isSame_iff.2 ⟨hkind.symm, (LineIndex.mark_inj hline hcolumn).symm⟩
    rw [hsame] at hne
    cases hne
  refine (List.pairwise_filter.1 hshown).imp fun hxy hx hkind => hxy hx ?_ hkind
  rw [hkind]
  exact hx

/-- Anchors and aliases are nodes with a name. -/
theorem isNamed_of_unitOf? {x : Yaml.Token} {offset : Nat} {source : String} {u : Tree.LexicalUnit}
    (h : Tree.unitOf? x offset source = some u) (hk : u.kind = .anchor ∨ u.kind = .alias) : u.resolved ≠ none := by
  obtain ⟨kind, start, stop⟩ := x
  cases kind with
  | streamStart | streamEnd | blockEnd => cases h
  | anchor name | «alias» name =>
    cases h
    exact Option.some_ne_none name
  | key =>
    cases h
    dsimp only at hk
    split at hk <;> simp at hk
  | scalar value style => cases style <;> cases h <;> simp at hk
  | _ =>
    cases h
    simp at hk

theorem unit_of_piece? {u : Tree.LexicalUnit} {p : Piece} (h : u.leaf.piece? = some p)
    (hk : p.kind = .anchor ∨ p.kind = .alias) : (u.kind = .anchor ∨ u.kind = .alias) ∧ p.value = u.resolved := by
  obtain ⟨kind, offset, source, resolved⟩ := u
  cases kind with
  | anchor | «alias» =>
    cases h
    exact ⟨by simp, rfl⟩
  | stream | document | flowCollection | item | other => cases h
  | _ =>
    cases h
    simp at hk

/-- Every anchor and every alias of a text has a name. -/
theorem isNamed_of_ofText {t : Text} {xs : List Lexeme} (h : (ofText t).outcome = .ok xs) {x : Lexeme} (hx : x ∈ xs)
    (hk : x.kind = .anchor ∨ x.kind = .alias) : x.value ≠ none := by
  obtain ⟨root, hroot, rfl⟩ := outcome_ofText_eq_ok.1 h
  rcases List.mem_cons.1 hx with rfl | hx
  · simp [OffSide.lexeme] at hk
  · rcases List.mem_append.1 hx with hx | hx
    · rcases OffSide.mem_run hx with ⟨p, hp, rfl⟩ | ⟨_, -, rfl⟩
      · have hp := Node.mem_of_mem_pieces hp
        rw [Tree.filterMap_piece?] at hp
        obtain ⟨u, hu, hp⟩ := List.mem_filterMap.1 hp
        obtain ⟨hunit, hvalue⟩ := unit_of_piece? hp hk
        obtain ⟨⟨base, y⟩ | _, -, hfeed⟩ := Tree.unit?_of_build hroot hu
        · show p.value ≠ none
          rw [hvalue]
          exact isNamed_of_unitOf? hfeed hunit
        · cases hfeed
      · simp [OffSide.lexeme] at hk
    · rw [List.mem_singleton.1 hx] at hk
      simp [OffSide.lexeme] at hk

end Lexeme

namespace Rule.Anchors

variable {o : Options} {s : State} {x : Lexeme} {xs before after : List Lexeme} {prev : Option Lexeme} {name : String}

/-- The lexemes up to where the document closes. -/
def untilClose (xs : List Lexeme) : List Lexeme := xs.takeWhile fun x => x.kind ∉ closers

/-- Whether the last lexeme of the document is still to come, and none before it is an alias to an anchor with a
name or declares one. -/
def IsForgotten (name : String) (after : List Lexeme) : Prop :=
  untilClose after ≠ [] ∧ ∀ y ∈ (untilClose after).dropLast, ¬IsAlias y name ∧ ¬IsAnchor y name

instance (name : String) (after : List Lexeme) : Decidable (IsForgotten name after) :=
  inferInstanceAs (Decidable (_ ∧ _))

/-- The anchors with a name that are forgotten, in the order of the text. -/
def forgotten (name : String) : List Lexeme → List Lexeme
  | [] => []
  | x :: after => if IsAnchor x name ∧ IsForgotten name after then x :: forgotten name after else forgotten name after

/-- Whether no alias names an anchor before the next anchor with its name or the close of the document. -/
def HasNoAlias (name : String) (after : List Lexeme) : Prop :=
  ∀ y ∈ after.takeWhile fun y => y.kind ∉ closers ∧ ¬IsAnchor y name, ¬IsAlias y name

instance (name : String) (after : List Lexeme) : Decidable (HasNoAlias name after) := List.decidableBAll _ _

/-- All that the rule finds. -/
def findings (o : Options) (xs : List Lexeme) : List Finding := (steps o [] (Window.slide none xs)).flatMap (·.2)

/-! ## Forgotten anchors -/

theorem untilClose_of_mem (h : x.kind ∈ closers) (after : List Lexeme) : untilClose (x :: after) = [] :=
  List.takeWhile_cons_of_neg (by simpa using h)

theorem untilClose_of_not_mem (h : x.kind ∉ closers) (after : List Lexeme) :
    untilClose (x :: after) = x :: untilClose after := List.takeWhile_cons_of_pos (by simpa using h)

theorem not_isForgotten_of_mem (h : x.kind ∈ closers) (after : List Lexeme) : ¬IsForgotten name (x :: after) :=
  fun hforgotten => hforgotten.1 (untilClose_of_mem h after)

/-- What the last lexeme of a document is does not count. -/
theorem isForgotten_of_last {next : Lexeme} (h : x.kind ∉ closers) (hnext : next.kind ∈ closers)
    (after : List Lexeme) : IsForgotten name (x :: next :: after) := by
  rw [IsForgotten, untilClose_of_not_mem h, untilClose_of_mem hnext]
  exact ⟨List.cons_ne_nil _ _, fun y hy => by cases hy⟩

theorem isForgotten_cons_iff {next : Lexeme} (h : x.kind ∉ closers) (hnext : next.kind ∉ closers)
    (after : List Lexeme) : IsForgotten name (x :: next :: after) ↔
      (¬IsAlias x name ∧ ¬IsAnchor x name) ∧ IsForgotten name (next :: after) := by
  have hne : untilClose (next :: after) ≠ [] := by
    rw [untilClose_of_not_mem hnext]
    exact List.cons_ne_nil _ _
  rw [IsForgotten, untilClose_of_not_mem h, List.dropLast_cons_of_ne_nil hne, List.forall_mem_cons, IsForgotten]
  simp [hne]

/-- Of an anchor that is declared once in its document, and not at the very end, where no alias to it stands
either, the rule knows whether it is used. -/
theorem isForgotten_iff_hasNoAlias (hmore : untilClose after ≠ []) (honce : ∀ y ∈ untilClose after, ¬IsAnchor y name)
    (hlast : ¬IsAlias ((untilClose after).getLast hmore) name) : IsForgotten name after ↔ HasNoAlias name after := by
  have hscope : after.takeWhile (fun y => y.kind ∉ closers ∧ ¬IsAnchor y name) = untilClose after := by
    clear hmore hlast
    induction after with
    | nil => rfl
    | cons y after ih =>
      by_cases hy : y.kind ∈ closers
      · rw [untilClose_of_mem hy, List.takeWhile_cons_of_neg (by simp [hy])]
      · rw [untilClose_of_not_mem hy] at honce ⊢
        obtain ⟨hanchor, honce⟩ := List.forall_mem_cons.1 honce
        rw [List.takeWhile_cons_of_pos (by simp [hy, hanchor]), ih honce]
  rw [IsForgotten, HasNoAlias, hscope]
  constructor
  · rintro ⟨-, hunnamed⟩ y hy
    rw [← List.dropLast_concat_getLast hmore, List.mem_append, List.mem_singleton] at hy
    rcases hy with hy | rfl
    · exact (hunnamed y hy).1
    · exact hlast
  · intro hunused
    refine ⟨hmore, fun y hy => ?_⟩
    have hmem := List.dropLast_subset _ hy
    exact ⟨hunused y hmem, honce y hmem⟩

theorem forgotten_cons (x : Lexeme) (after : List Lexeme) : forgotten name (x :: after) =
    if IsAnchor x name ∧ IsForgotten name after then x :: forgotten name after else forgotten name after := rfl

theorem forgotten_cons_of_not (h : ¬IsAnchor x name) (after : List Lexeme) :
    forgotten name (x :: after) = forgotten name after := by
  rw [forgotten, if_neg fun hx => h hx.1]

theorem forgotten_sublist (name : String) (xs : List Lexeme) : (forgotten name xs).Sublist xs := by
  induction xs with
  | nil => exact .slnil
  | cons x after ih =>
    rw [forgotten]
    split
    · exact ih.cons_cons x
    · exact ih.cons x

theorem isAnchor_of_mem_forgotten (h : x ∈ forgotten name xs) : IsAnchor x name := by
  induction xs with
  | nil => cases h
  | cons y xs ih =>
    rw [forgotten_cons] at h
    split at h
    · next hy =>
      rcases List.mem_cons.1 h with rfl | h
      · exact hy.1
      · exact ih h
    · exact ih h

/-- The anchors that are forgotten before some place. -/
theorem exists_forgotten_append (name : String) (before after : List Lexeme) :
    ∃ earlier, earlier.Sublist before ∧ forgotten name (before ++ after) = earlier ++ forgotten name after := by
  induction before with
  | nil => exact ⟨[], .slnil, rfl⟩
  | cons x before ih =>
    obtain ⟨earlier, hsub, heq⟩ := ih
    rw [List.cons_append, forgotten, heq]
    split
    · exact ⟨x :: earlier, hsub.cons_cons x, rfl⟩
    · exact ⟨earlier, hsub.cons x, rfl⟩

/-! ## Anchors that wait for an alias -/

namespace State

/-- What the rule would report of the anchors with a name. -/
def pending (s : State) (name : String) : List Finding := (unused s).filter (·.desc == unusedText name)

theorem pending_cons (a : Declared) (s : State) (name : String) : pending (a :: s) name =
    if a.used = false ∧ a.name = name then ⟨a.line + 1, a.column + 1, unusedText name⟩ :: pending s name
    else pending s name := by
  have htext : ∀ other, s!"found unused anchor \"{other}\"" = unusedText other := fun _ => rfl
  obtain ⟨other, line, column, _ | _⟩ := a
  · by_cases h : other = name
    · simp [pending, unused, htext, h]
    · have hne : unusedText other ≠ unusedText name := fun heq => h (unusedText_inj.1 heq)
      simp [pending, unused, htext, h, hne]
  · simp [pending, unused]

theorem pending_append (s s' : State) (name : String) : pending (s ++ s') name = pending s name ++ pending s' name := by
  simp [pending, unused]

theorem pending_of_not_mem (h : name ∉ s.map (·.name)) : pending s name = [] := by
  induction s with
  | nil => rfl
  | cons a s ih =>
    rw [List.map_cons, List.mem_cons, not_or] at h
    rw [pending_cons, if_neg fun ha => h.1 ha.2.symm, ih h.2]

/-- Only what is said of the anchors with the name counts. -/
theorem pending_map {f : Declared → Declared} (h : ∀ a, a.name = name ∨ (f a).name = name → f a = a) (s : State) :
    pending (s.map f) name = pending s name := by
  induction s with
  | nil => rfl
  | cons a s ih =>
    rw [List.map_cons, pending_cons, pending_cons, ih]
    by_cases hname : a.name = name ∨ (f a).name = name
    · rw [h a hname]
    · rw [not_or] at hname
      rw [if_neg fun ha => hname.2 ha.2, if_neg fun ha => hname.1 ha.2]

theorem pending_use_self (s : State) (name : String) : pending (s.use (some name)) name = [] := by
  induction s with
  | nil => rfl
  | cons a s ih =>
    rw [use] at ih ⊢
    rw [List.map_cons, pending_cons, ih, if_neg]
    rintro ⟨hused, hname⟩
    split at hused
    · cases hused
    · next hne =>
      rw [if_neg hne] at hname
      exact hne (by rw [hname]; exact beq_self_eq_true _)

theorem pending_use_of_ne {other : Option String} (h : other ≠ some name) (s : State) :
    pending (s.use other) name = pending s name := by
  refine pending_map (fun a hname => ?_) s
  split at hname
  · next heq =>
    rw [or_self] at hname
    exact absurd ((eq_of_beq heq).symm.trans (congrArg some hname)) h
  · next hne => rw [if_neg hne]

theorem pending_replace {a : Declared} (hused : a.used = false) (hnodup : (s.map (·.name)).Nodup)
    (h : a.name ∈ s.map (·.name)) : pending (s.map fun b => if b.name == a.name then a else b) a.name =
      [⟨a.line + 1, a.column + 1, unusedText a.name⟩] := by
  induction s with
  | nil => cases h
  | cons b s ih =>
    rw [List.map_cons, List.nodup_cons] at hnodup
    rw [List.map_cons, pending_cons]
    by_cases hb : b.name = a.name
    -- No other anchor has the name.
    · rw [hb] at hnodup
      have hsame : (s.map fun b => if b.name == a.name then a else b) = s := by
        refine (List.map_congr_left fun c hc => ?_).trans (List.map_id s)
        refine if_neg fun heq => hnodup.1 ?_
        rw [beq_iff_eq] at heq
        rw [← heq]
        exact List.mem_map_of_mem hc
      rw [if_pos (beq_iff_eq.2 hb), if_pos ⟨hused, rfl⟩, hsame, pending_of_not_mem hnodup.1]
    · have hne : ¬(b.name == a.name) = true := by simpa using hb
      rw [if_neg hne, if_neg fun hname => hb hname.2]
      exact ih hnodup.2 ((List.mem_cons.1 h).resolve_left (Ne.symm hb))

theorem pending_declare_self (hnodup : (s.map (·.name)).Nodup) (line column : Nat) :
    pending (s.declare ⟨name, line, column, false⟩) name = [⟨line + 1, column + 1, unusedText name⟩] := by
  unfold declare
  by_cases h : name ∈ s.map (·.name)
  · rw [if_pos (has_some.2 h)]
    exact pending_replace (a := ⟨name, line, column, false⟩) rfl hnodup h
  · rw [if_neg fun hhas => h (has_some.1 hhas), pending_append, pending_of_not_mem h, pending_cons,
      if_pos ⟨rfl, rfl⟩]
    rfl

theorem pending_declare_of_ne {a : Declared} (h : a.name ≠ name) (s : State) :
    pending (s.declare a) name = pending s name := by
  unfold declare
  split
  · refine pending_map (fun b hname => ?_) s
    split at hname
    · next heq =>
      rw [or_iff_left h, eq_of_beq heq] at hname
      exact absurd hname h
    · next hne => rw [if_neg hne]
  · rw [pending_append, pending_cons, if_neg fun ha => h ha.2]
    exact List.append_nil _

end State

theorem leave_of_alias {next : Option Lexeme} (ho : o.forbidUnused = true) (hnext : isOneOf next closers = false)
    (hk : x.kind = .alias) (s : State) : s.leave o x next = s.use x.value := by
  simp [State.leave, ho, hnext, hk]

theorem leave_of_anchor {next : Option Lexeme} (h : IsAnchor x name) (s : State) :
    s.leave o x next = s.declare ⟨name, x.start.line, x.start.column, false⟩ := by
  simp [State.leave, h.1, h.2]

theorem leave_of_ne {next : Option Lexeme} (halias : x.kind ≠ .alias) (hanchor : ∀ other, ¬IsAnchor x other)
    (s : State) : s.leave o x next = s := by
  have halias : (x.kind == .alias) = false := by simpa using halias
  rw [State.leave, halias, Bool.and_false, if_neg Bool.false_ne_true]
  split
  · next other hkind hvalue => exact absurd ⟨hkind, hvalue⟩ (hanchor other)
  · rfl

/-- Before the last lexeme of a document an alias takes an anchor from those that wait, and an anchor waits from
then on. -/
theorem pending_leave {next : Option Lexeme} (ho : o.forbidUnused = true) (hnext : isOneOf next closers = false)
    (hnodup : (s.map (·.name)).Nodup) (x : Lexeme) (name : String) : (s.leave o x next).pending name =
      if IsAlias x name then [] else if IsAnchor x name then [.atStart x (unusedText name)] else s.pending name := by
  by_cases halias : x.kind = .alias
  · have hanchor : ¬IsAnchor x name := fun h => by cases halias.symm.trans h.1
    rw [leave_of_alias ho hnext halias, if_neg hanchor]
    by_cases hvalue : x.value = some name
    · rw [if_pos ⟨halias, hvalue⟩, hvalue, State.pending_use_self]
    · rw [if_neg fun h => hvalue h.2, State.pending_use_of_ne hvalue]
  · rw [if_neg fun h => halias h.1]
    cases hname : anchorName? x with
    | none =>
      have hanchor : ∀ other, ¬IsAnchor x other := fun other h => by
        rw [anchorName?_eq_some.2 h] at hname
        cases hname
      rw [leave_of_ne halias hanchor, if_neg (hanchor name)]
    | some other =>
      have hanchor := anchorName?_eq_some.1 hname
      rw [leave_of_anchor hanchor]
      by_cases hsame : other = name
      · rw [hsame] at hanchor ⊢
        rw [if_pos hanchor, State.pending_declare_self hnodup]
        rfl
      · rw [if_neg fun h => hsame (Option.some.inj (hanchor.2.symm.trans h.2)), State.pending_declare_of_ne hsame]

/-! ## Runs -/

theorem filter_check_unused {w : Window} (ho : o.forbidUnused = true) (s : State) (name : String) :
    (check o w s).2.filter (·.desc == unusedText name) =
      if isOneOf w.next closers then (s.enter w.curr).pending name else [] := by
  have hon : o.isOn = true := by simp [Options.isOn, ho]
  rw [check_of_isOn hon]
  dsimp only
  rw [List.filter_append, List.filter_append,
    filter_of_ne (fun _ => desc_of_mem_undeclared) fun a b => (undeclaredText_ne_unusedText b a).symm,
    filter_of_ne (fun _ => desc_of_mem_duplicated) fun a b => (duplicatedText_ne_unusedText b a).symm,
    List.nil_append, List.nil_append, unusedAtClose, ho, Bool.true_and]
  split <;> rfl

theorem nodup_note {names : List String} (h : names.Nodup) (x : Lexeme) : (note names x).Nodup := by
  unfold note
  split
  · exact List.nodup_nil
  · split
    · split
      · exact h
      · next hnew => exact List.nodup_append'.2 ⟨h, List.nodup_singleton _, List.disjoint_singleton.2 hnew⟩
    · exact h

theorem not_isAnchor_of_mem (h : x.kind ∈ closers) : ¬IsAnchor x name := by
  intro hanchor
  rw [hanchor.1] at h
  exact absurd h (by decide)

/-- No anchor of the document before waits in the next one. -/
theorem enter_of_closer (h : x.kind ∈ closers) (hne : x.kind ≠ .streamEnd) (s : State) : s.enter x = [] := by
  have hboundary : isBoundary x.kind = true := by
    rcases List.mem_cons.1 h with h | h
    · exact absurd h hne
    · cases hk : x.kind <;> simp_all [isBoundary]
  exact if_pos hboundary

theorem enter_of_not_mem (h : x.kind ∉ closers) (hne : x.kind ≠ .streamStart) (s : State) : s.enter x = s := by
  refine if_neg fun hboundary => ?_
  cases hk : x.kind <;> simp_all [isBoundary, closers]

/-- Between the start and the end of the stream the rule reports the anchors that wait for an alias, if they are
forgotten, and then those that are declared and forgotten. -/
theorem filter_steps (ho : o.forbidUnused = true) {body : List Lexeme} {last : Lexeme}
    (hbody : ∀ y ∈ body, y.kind ≠ .streamStart ∧ y.kind ≠ .streamEnd) (hlast : last.kind = .streamEnd)
    (hnodup : (s.map (·.name)).Nodup) (prev : Option Lexeme) (name : String) :
    ((steps o s (Window.slide prev (body ++ [last]))).flatMap (·.2)).filter (·.desc == unusedText name) =
      (if IsForgotten name (body ++ [last]) then s.pending name else []) ++
        (forgotten name (body ++ [last])).map (.atStart · (unusedText name)) := by
  have hon : o.isOn = true := by simp [Options.isOn, ho]
  have hcloser : last.kind ∈ closers := by rw [hlast]; decide
  induction body generalizing s prev with
  | nil =>
    rw [List.nil_append, if_neg (not_isForgotten_of_mem hcloser []),
      forgotten_cons_of_not (not_isAnchor_of_mem hcloser)]
    show ((check o ⟨prev, last, none, none⟩ s).2 ++ []).filter _ = _
    rw [List.append_nil, filter_check_unused ho]
    rfl
  | cons x body ih =>
    obtain ⟨hx, hbody⟩ := List.forall_mem_cons.1 hbody
    have hnodup' : (((check o ⟨prev, x, (body ++ [last])[0]?, (body ++ [last])[1]?⟩ s).1).map (·.name)).Nodup := by
      rw [names_check hon]
      exact nodup_note hnodup x
    obtain ⟨next, after, hnext⟩ : ∃ next after, body ++ [last] = next :: after :=
      List.exists_cons_of_ne_nil (by simp)
    rw [List.cons_append, Window.slide, steps, List.flatMap_cons, List.filter_append, ih hbody hnodup',
      filter_check_unused ho, check_of_isOn hon, hnext, List.getElem?_cons_zero]
    dsimp only
    have hone : isOneOf (some next) closers = decide (next.kind ∈ closers) := by simp [isOneOf]
    by_cases hclose : x.kind ∈ closers
    · have hempty : s.enter x = [] := enter_of_closer hclose hx.2 s
      have hleave : (s.enter x).leave o x (some next) = [] := by
        rw [hempty]
        exact leave_of_ne (fun h => absurd (h ▸ hclose) (by decide)) (fun _ => not_isAnchor_of_mem hclose) []
      have hnone : State.pending [] name = [] := rfl
      rw [hleave, hempty, hnone, if_neg (not_isForgotten_of_mem hclose _),
        forgotten_cons_of_not (not_isAnchor_of_mem hclose), ite_self, ite_self]
      rfl
    · rw [enter_of_not_mem hclose hx.1, forgotten_cons x (next :: after)]
      by_cases hlast : next.kind ∈ closers
      · have hnot : ¬IsForgotten name (next :: after) := not_isForgotten_of_mem hlast after
        rw [hone, if_pos (decide_eq_true hlast), if_neg hnot, if_pos (isForgotten_of_last hclose hlast after),
          if_neg fun h => hnot h.2]
        rfl
      · have hnot : isOneOf (some next) closers = false := by rw [hone, decide_eq_false hlast]
        rw [hnot, if_neg Bool.false_ne_true, pending_leave ho hnot hnodup, List.nil_append]
        simp only [isForgotten_cons_iff hclose hlast]
        by_cases halias : IsAlias x name
        · have hanchor : ¬IsAnchor x name := fun h => by cases halias.1.symm.trans h.1
          simp [halias, hanchor]
        · by_cases hanchor : IsAnchor x name
          · by_cases hforgotten : IsForgotten name (next :: after) <;> simp [halias, hanchor, hforgotten]
          · simp [halias, hanchor]

/-- Between one start and one end of the stream the rule reports the anchors that are forgotten. -/
theorem filter_findings (ho : o.forbidUnused = true) {first : Lexeme} {body : List Lexeme} {last : Lexeme}
    (hfirst : first.kind = .streamStart) (hbody : ∀ y ∈ body, y.kind ≠ .streamStart ∧ y.kind ≠ .streamEnd)
    (hlast : last.kind = .streamEnd) (name : String) :
    (findings o (first :: (body ++ [last]))).filter (·.desc == unusedText name) =
      (forgotten name (first :: (body ++ [last]))).map (.atStart · (unusedText name)) := by
  have hon : o.isOn = true := by simp [Options.isOn, ho]
  have hanchor : ∀ other, ¬IsAnchor first other := fun other h => by cases hfirst.symm.trans h.1
  have halias : first.kind ≠ .alias := fun h => by cases hfirst.symm.trans h
  have hempty : ∀ next, (check o ⟨none, first, next, (body ++ [last])[1]?⟩ []).1 = [] := by
    intro next
    rw [check_of_isOn hon]
    exact (leave_of_ne halias hanchor _).trans (ite_self _)
  have hnone : State.pending [] name = [] := rfl
  have hnodup : (([] : State).map (·.name)).Nodup := List.nodup_nil
  rw [findings, Window.slide, steps, List.flatMap_cons, List.filter_append, hempty,
    filter_steps ho hbody hlast hnodup, filter_check_unused ho, State.enter, ite_self, hnone, ite_self, ite_self,
    List.nil_append, List.nil_append, forgotten_cons_of_not (hanchor name)]

theorem count_map_atStart {text : String} {ys : List Lexeme}
    (h : ∀ y ∈ ys, (y.start.line, y.start.column) ≠ (x.start.line, x.start.column)) :
    (ys.map (Finding.atStart · text)).count (.atStart x text) = 0 := by
  refine List.count_eq_zero.2 fun hmem => ?_
  obtain ⟨y, hy, heq⟩ := List.mem_map.1 hmem
  exact h y hy (by simpa [Finding.atStart] using heq)

/-- Where lexemes of one kind stand apart, a forgotten anchor is reported once and another one not at all. -/
theorem count_findings (hxs : (findings o (before ++ x :: after)).filter (·.desc == unusedText name) =
      (forgotten name (before ++ x :: after)).map (.atStart · (unusedText name)))
    (hapart : (before ++ x :: after).Pairwise fun x y => x.kind.isShown = true → y.kind = x.kind →
      (y.start.line, y.start.column) ≠ (x.start.line, x.start.column)) (hx : IsAnchor x name) :
    (findings o (before ++ x :: after)).count (.atStart x (unusedText name)) =
      if IsForgotten name after then 1 else 0 := by
  have hshown : ∀ {y : Lexeme}, IsAnchor y name → y.kind.isShown = true := fun h => by rw [h.1]; rfl
  have hfilter : (findings o (before ++ x :: after)).count (.atStart x (unusedText name)) =
      ((forgotten name (before ++ x :: after)).map (Finding.atStart · (unusedText name))).count
        (.atStart x (unusedText name)) := by
    rw [← hxs]
    exact (List.count_filter (p := fun f : Finding => f.desc == unusedText name) (beq_self_eq_true _)).symm
  obtain ⟨earlier, hearlier, hsplit⟩ := exists_forgotten_append name before (x :: after)
  have hanchor : ∀ y ∈ earlier, IsAnchor y name := fun y hy =>
    isAnchor_of_mem_forgotten (by rw [hsplit]; exact List.mem_append_left _ hy)
  obtain ⟨-, hafter, hbefore⟩ := List.pairwise_append.1 hapart
  have hnone : (earlier.map (Finding.atStart · (unusedText name))).count (.atStart x (unusedText name)) = 0 := by
    refine count_map_atStart fun y hy => ?_
    have hkind : x.kind = y.kind := hx.1.trans (hanchor y hy).1.symm
    exact (hbefore y (hearlier.subset hy) x List.mem_cons_self (hshown (hanchor y hy)) hkind).symm
  have hlater : ((forgotten name after).map (Finding.atStart · (unusedText name))).count
      (.atStart x (unusedText name)) = 0 := by
    refine count_map_atStart fun y hy => ?_
    have hkind : y.kind = x.kind := (isAnchor_of_mem_forgotten hy).1.trans hx.1.symm
    exact (List.pairwise_cons.1 hafter).1 y ((forgotten_sublist name after).subset hy) (hshown hx) hkind
  rw [hfilter, hsplit, List.map_append, List.count_append, hnone, Nat.zero_add, forgotten_cons]
  by_cases hforgotten : IsForgotten name after
  · rw [if_pos ⟨hx, hforgotten⟩, if_pos hforgotten, List.map_cons, List.count_cons_self, hlater]
  · rw [if_neg fun h => hforgotten h.2, if_neg hforgotten, hlater]

/-- Let the rule look for unused anchors, in a text without faults of syntax. Such a text has lexemes, whose
anchors have names. Those with a name that the rule reports are the forgotten ones, each once, at its own place and
in the order of the text. An anchor that is declared once in its document, and before the last lexeme of the
document, which is no alias to it, is reported just when it has no alias. -/
theorem steps_unused (o : Options) (ho : o.forbidUnused = true) (t : Text)
    (hs : (Lint.syntaxError t).outcome = .ok none) :
    ∃ xs, (Lexeme.ofText t).outcome = .ok xs ∧ (∀ x ∈ xs, x.kind = .anchor → x.value ≠ none) ∧
      ∀ name, (findings o xs).filter (·.desc == unusedText name) =
          (forgotten name xs).map (.atStart · (unusedText name)) ∧
        ∀ before x after, xs = before ++ x :: after → IsAnchor x name →
          (findings o xs).count (.atStart x (unusedText name)) = (if IsForgotten name after then 1 else 0) ∧
          ∀ hmore : untilClose after ≠ [], (∀ y ∈ untilClose after, ¬IsAnchor y name) →
            ¬IsAlias ((untilClose after).getLast hmore) name →
            (.atStart x (unusedText name) ∈ findings o xs ↔ HasNoAlias name after) := by
  obtain ⟨root, hroot⟩ := Lexeme.exists_ofText_of_events (Lint.syntaxError_eq_none_iff.1 hs)
  have hbody : ∀ y ∈ OffSide.run (.ofText t) t.length .start root.pieces,
      y.kind ≠ .streamStart ∧ y.kind ≠ .streamEnd := by
    intro y hy
    rcases OffSide.kind_of_mem_run hy with hkind | ⟨p, hp, hkind⟩
    · simp [hkind]
    · rw [hkind]
      exact (Node.kind_of_mem_pieces hp).2
  refine ⟨Lexeme.ofTree t root, hroot, fun x hx hk => Lexeme.isNamed_of_ofText hroot hx (.inl hk), fun name => ?_⟩
  have hfilter : (findings o (Lexeme.ofTree t root)).filter (·.desc == unusedText name) =
      (forgotten name (Lexeme.ofTree t root)).map (.atStart · (unusedText name)) :=
    filter_findings ho rfl hbody rfl name
  refine ⟨hfilter, fun before x after hsplit hx => ?_⟩
  have hapart := Lexeme.pairwise_ofTree t root
  rw [hsplit] at hfilter hapart ⊢
  have hcount := count_findings hfilter hapart hx
  refine ⟨hcount, fun hmore honce hlast => ?_⟩
  rw [← isForgotten_iff_hasNoAlias hmore honce hlast, ← List.count_pos_iff, hcount]
  split <;> simp_all

/-- The first anchor has no alias, the second one has. -/
theorem steps_unused_twoAnchors :
    let o : Options := ⟨false, false, true⟩
    let t : Text := "- &a 1\n- &b 2\n- *b\n".toList
    o.forbidUnused = true ∧ (Lint.syntaxError t).outcome = .ok none ∧ ∃ xs, (Lexeme.ofText t).outcome = .ok xs ∧
      (findings o xs).filter (·.desc == unusedText "a") = [⟨1, 3, unusedText "a"⟩] ∧
      (findings o xs).filter (·.desc == unusedText "b") = [] := by
  intro o t
  have hs : (Lint.syntaxError t).outcome = .ok none :=
    Lint.syntaxError_eq_none_iff.2 (Option.isNone_iff_eq_none.1 (by decide +kernel))
  obtain ⟨xs, hxs, -, hnames⟩ := steps_unused o rfl t hs
  obtain ⟨ys, hys, hforgotten⟩ : ∃ ys, Lexeme.reckoned t = .ok ys ∧
      ((forgotten "a" ys).map (Finding.atStart · (unusedText "a")), forgotten "b" ys) =
        ([⟨1, 3, unusedText "a"⟩], []) := exists_of_toOption (by decide +kernel)
  rw [← Lexeme.outcome_ofText_eq_reckoned, hxs] at hys
  cases hys
  obtain ⟨ha, hb⟩ := Prod.mk.inj hforgotten
  exact ⟨rfl, hs, xs, hxs, (hnames "a").1.trans ha, by rw [(hnames "b").1, hb]; rfl⟩

section LoneAnchor

open Indentation (mark)

/-- Not every unused anchor is reported: in a document that is nothing but an anchor it is not. -/
theorem not_unused_of_lone_anchor :
    ¬∀ (o : Options) (t : Text), o.forbidUnused = true → (Lint.syntaxError t).outcome = .ok none →
      ∃ xs, (Lexeme.ofText t).outcome = .ok xs ∧
        ∀ name before x after, xs = before ++ x :: after → IsAnchor x name →
          (.atStart x (unusedText name) ∈ findings o xs ↔ HasNoAlias name after) := by
  intro h
  have hs : (Lint.syntaxError "&x\n".toList).outcome = .ok none :=
    Lint.syntaxError_eq_none_iff.2 (Option.isNone_iff_eq_none.1 (by decide +kernel))
  obtain ⟨xs, hxs, hnames⟩ := h ⟨false, false, true⟩ _ rfl hs
  obtain ⟨ys, hys, hlone⟩ : ∃ ys, Lexeme.reckoned "&x\n".toList = .ok ys ∧
      ys = [mark .streamStart 0 0 0 0] ++ named .anchor 0 0 0 "x" :: [mark .streamEnd 1 0 3 0] :=
    exists_of_toOption (by decide +kernel)
  rw [← Lexeme.outcome_ofText_eq_reckoned, hxs] at hys
  cases hys
  have hreported := (hnames "x" _ _ _ hlone ⟨rfl, rfl⟩).2 (by decide)
  have hnone : findings ⟨false, false, true⟩ xs = [] := by
    rw [hlone]
    decide +kernel
  rw [hnone] at hreported
  cases hreported

end LoneAnchor

end Rule.Anchors

end YamlStyle
