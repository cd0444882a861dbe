import Mathlib
import YamlStyle.Rule.Indentation

/-!
# The levels of the indentation rule

Whatever lexemes the rule is shown, and in whatever order, its levels stay nested: the root level is at
the bottom, a value lies on its key and an entry on its sequence (`State.IsNested`). So the rule never
looks at a level that is not there, and within a text at no character that is not there: `check?` is the
same check for a stack and a text that have to have what is looked at, and it does not fail
(`steps_isNested`).
-/

namespace YamlStyle

variable {t : Text}

/-! ## Characters that are looked at -/

namespace Lexeme

/-- The line feeds in the white space before an offset, down to `low`; none if the text has not all the
characters that are looked at. -/
def trailingFeeds? (t : Text) (low : Nat) : Nat → Option Nat
  | 0 => some 0
  | offset + 1 =>
    if offset < low then some 0
    else
      match t[offset]? with
      | some c =>
        if Text.isAsciiSpace c then (trailingFeeds? t low offset).map ((if c == '\n' then 1 else 0) + ·)
        else some 0
      | none => none

/-- `realEndLine` for a text that has to have the characters that are looked at. -/
def realEndLine? (t : Text) (x : Lexeme) : Option Int :=
  let stop : Int := x.stop.line + 1
  if x.kind == .scalar then (trailingFeeds? t (x.start.offset - 1) x.stop.offset).map fun n => stop - n
  else some stop

/-- `isExplicitKey` for a text that has to have the character that is looked at. -/
def isExplicitKey? (t : Text) (x : Lexeme) : Option Bool :=
  if x.start.offset < x.stop.offset then t[x.start.offset]?.map (· == '?') else some false

/-- A lexeme whose marks are in a text. -/
structure MarkedIn (t : Text) (x : Lexeme) : Prop where
  start : x.start.offset ≤ t.length
  stop : x.stop.offset ≤ t.length

instance (x : Lexeme) : Decidable (x.MarkedIn t) :=
  decidable_of_iff (x.start.offset ≤ t.length ∧ x.stop.offset ≤ t.length)
    ⟨fun h => ⟨h.1, h.2⟩, fun h => ⟨h.start, h.stop⟩⟩

theorem trailingFeeds?_eq {low offset : Nat} (h : offset ≤ t.length) :
    trailingFeeds? t low offset =
      some (((t.slice low offset).reverse.takeWhile Text.isAsciiSpace).filter (· == '\n')).length := by
  induction offset with
  | zero => simp [trailingFeeds?, Text.slice]
  | succ offset ih =>
    rw [trailingFeeds?]
    split
    · next hlow => simp [Text.slice, show offset + 1 - low = 0 by omega]
    · next hlow =>
      have hslice : t.slice low (offset + 1) = t.slice low offset ++ [t[offset]] := by
        have hget : (t.drop low)[offset - low]? = some t[offset] := by
          rw [List.getElem?_drop, Nat.add_sub_cancel' (Nat.le_of_not_lt hlow)]
          exact List.getElem?_eq_getElem h
        rw [Text.slice, Text.slice, show offset + 1 - low = offset - low + 1 by omega, List.take_add_one, hget]
        rfl
      rw [List.getElem?_eq_getElem h, hslice, List.reverse_append, List.reverse_singleton, List.singleton_append]
      dsimp only
      rw [List.takeWhile_cons, ih (Nat.le_of_succ_le h)]
      split
      · by_cases hfeed : t[offset] = '\n'
        · simp [hfeed, Nat.add_comm]
        · simp [hfeed]
      · rfl

theorem realEndLine?_eq {x : Lexeme} (h : x.MarkedIn t) : x.realEndLine? t = some (x.realEndLine t) := by
  unfold realEndLine? realEndLine
  split
  · rw [trailingFeeds?_eq h.stop]
    rfl
  · rfl

theorem isExplicitKey?_eq {x : Lexeme} (h : x.MarkedIn t) : x.isExplicitKey? t = some (x.isExplicitKey t) := by
  unfold isExplicitKey? isExplicitKey
  by_cases hlt : x.start.offset < x.stop.offset
  · have hget : x.start.offset < t.length := Nat.lt_of_lt_of_le hlt h.stop
    rw [if_pos hlt, List.getElem?_eq_getElem hget]
    simp [hlt]
  · simp [hlt]

end Lexeme

namespace Rule.Indentation

variable {o : Options} {w : Window} {s s' : State}

/-! ## Nested levels -/

/-- All open levels, innermost first and the root level last. -/
def State.stack (s : State) : List Frame := s.frames ++ [s.root]

/-- A value lies on its key, and an entry on its sequence. -/
def Frame.LiesOn (f below : Frame) : Prop :=
  (f.kind = .value → below.kind = .key) ∧ (f.kind = .entry → below.kind = .blockSequence)

/-- Only a key is explicit, and only a block sequence is indentless. -/
structure Frame.IsProper (f : Frame) : Prop where
  explicit : f.isExplicitKey = true → f.kind = .key
  indentless : f.isIndentless = true → f.kind = .blockSequence

/-- The root level is at the bottom and nowhere else, and what is above it lies where it may. -/
structure State.IsNested (s : State) : Prop where
  root : s.root.kind = .root
  above : ∀ f ∈ s.frames, f.kind ≠ .root
  lies : s.stack.IsChain Frame.LiesOn
  proper : ∀ f ∈ s.stack, f.IsProper

theorem State.stack_push (s : State) (f : Frame) : (s.push f).stack = f :: s.stack := rfl

theorem State.head?_stack (s : State) : s.stack.head? = some s.top := by
  unfold stack top
  cases s.frames <;> rfl

theorem isNested_start (o : Options) : (State.start o).IsNested where
  root := rfl
  above := List.forall_mem_nil _
  lies := List.isChain_singleton _
  proper := List.forall_mem_singleton.2 ⟨nofun, nofun⟩

/-- Nothing but the levels counts. -/
theorem State.IsNested.congr (h : s.IsNested) (hframes : s'.frames = s.frames) (hroot : s'.root = s.root) :
    s'.IsNested := by
  obtain ⟨root, above, lies, proper⟩ := h
  have hstack : s'.stack = s.stack := by rw [stack, stack, hframes, hroot]
  exact ⟨hroot ▸ root, hframes ▸ above, hstack ▸ lies, hstack ▸ proper⟩

theorem State.IsNested.push (h : s.IsNested) {f : Frame} (hkind : f.kind ≠ .root) (hlies : f.LiesOn s.top)
    (hproper : f.IsProper) : (s.push f).IsNested where
  root := h.root
  above := List.forall_mem_cons.2 ⟨hkind, h.above⟩
  lies := by
    rw [stack_push]
    refine List.IsChain.cons h.lies fun below hbelow => ?_
    rw [head?_stack] at hbelow
    cases hbelow
    exact hlies
  proper := by
    rw [stack_push]
    exact List.forall_mem_cons.2 ⟨hproper, h.proper⟩

/-- Closing levels leaves the ones further out. -/
theorem State.IsNested.suffix (h : s.IsNested) {frames : List Frame} (hframes : frames <:+ s.frames) :
    State.IsNested { s with frames } := by
  have hstack : State.stack { s with frames } <:+ s.stack :=
    (List.suffix_append_inj_of_length_eq rfl).2 ⟨hframes, rfl⟩
  exact ⟨h.root, fun f hf => h.above f (hframes.subset hf), h.lies.suffix hstack,
    fun f hf => h.proper f (hstack.subset hf)⟩

/-! ## Opening levels -/

@[simp] theorem State.frames_deeper (s : State) (base found : Int) : (s.deeper base found).2.frames = s.frames := by
  unfold deeper
  split <;> rfl

@[simp] theorem State.root_deeper (s : State) (base found : Int) : (s.deeper base found).2.root = s.root := by
  unfold deeper
  split <;> rfl

/-- A change of the step that leaves the levels as they are. -/
def State.Shares (s s' : State) : Prop := s'.frames = s.frames ∧ s'.root = s.root

theorem State.Shares.refl (s : State) : s.Shares s := ⟨rfl, rfl⟩

theorem State.shares_deeper (s : State) (base found : Int) : s.Shares (s.deeper base found).2 :=
  ⟨s.frames_deeper base found, s.root_deeper base found⟩

theorem State.Shares.top (h : s.Shares s') : s'.top = s.top := by
  rw [State.top, State.top, h.1, h.2]

theorem State.IsNested.shares (h : s.IsNested) (hs : s.Shares s') : s'.IsNested := h.congr hs.1 hs.2

theorem shares_sequenceIndent (s : State) (next : Lexeme) : s.Shares (s.sequenceIndent next).2 := by
  unfold State.sequenceIndent
  dsimp only
  split
  · exact .refl s
  · split
    · exact .refl s
    · exact s.shares_deeper _ _
  · split
    · exact .refl s
    · exact s.shares_deeper _ _
  · split
    · exact .refl s
    · exact State.shares_deeper { s with sequences := .indented } _ _

/-- A level that is neither a value nor an entry may lie on any other. -/
theorem State.IsNested.push_free (h : s.IsNested) {f : Frame} (hroot : f.kind ≠ .root) (hvalue : f.kind ≠ .value)
    (hentry : f.kind ≠ .entry) (hproper : f.IsProper) : (s.push f).IsNested :=
  h.push hroot ⟨fun hf => absurd hf hvalue, fun hf => absurd hf hentry⟩ hproper

theorem isNested_openFlow (h : s.IsNested) {kind : FrameKind} (hkind : kind = .flowMapping ∨ kind = .flowSequence)
    (x next : Lexeme) : (s.openFlow kind x next).IsNested := by
  have hshares : s.Shares (if next.start.line == x.start.line then ((next.start.column : Int), s)
      else s.deeper s.lineIndent next.start.column).2 := by
    split
    · exact .refl s
    · exact s.shares_deeper _ _
  refine (h.shares hshares).push_free ?_ ?_ ?_ ⟨nofun, nofun⟩ <;> rcases hkind with rfl | rfl <;> simp

theorem isNested_openEntry (h : s.IsNested) (x next : Lexeme) : (s.openEntry x next).IsNested := by
  -- The sequence is there, or an indentless one is opened for the entry.
  have hsequence : ∃ s₁ : State, s₁.IsNested ∧ s₁.top.kind = .blockSequence ∧
      (if s.top.kind == .blockSequence then s
        else s.push { kind := .blockSequence, indent := x.start.column, isIndentless := true }) = s₁ := by
    split
    · next htop => exact ⟨s, h, eq_of_beq htop, rfl⟩
    · exact ⟨_, h.push_free (by simp) (by simp) (by simp) ⟨by simp, fun _ => rfl⟩, rfl, rfl⟩
  obtain ⟨s₁, h₁, htop, hs₁⟩ := hsequence
  unfold State.openEntry
  dsimp only
  rw [hs₁]
  have hshares : s₁.Shares (if next.start.line == x.stop.line || next.start.column == x.start.column then
      ((next.start.column : Int), s₁) else s₁.deeper x.start.column next.start.column).2 := by
    split
    · exact .refl s₁
    · exact s₁.shares_deeper _ _
  exact (h₁.shares hshares).push nofun ⟨nofun, fun _ => hshares.top ▸ htop⟩ ⟨nofun, nofun⟩

theorem isNested_openValue (h : s.IsNested) (htop : s.top.kind = .key) (w : Window) (prev next : Lexeme) :
    (s.openValue w prev next).IsNested := by
  have hvalue : ∀ {r : Int × State}, s.Shares r.2 → (r.2.push { kind := .value, indent := r.1 }).IsNested :=
    fun hshares => (h.shares hshares).push nofun ⟨fun _ => hshares.top ▸ htop, nofun⟩ ⟨nofun, nofun⟩
  unfold State.openValue
  dsimp only
  split
  · exact h
  · exact h
  · exact h
  · exact h
  · refine hvalue ?_
    split
    · exact s.shares_deeper _ _
    · split
      · exact .refl s
      · split
        · exact shares_sequenceIndent s _
        · exact s.shares_deeper _ _

/-- Whatever a lexeme opens is nested. -/
theorem isNested_of_open? (h : s.IsNested) (hopen : s.open? t w = some s') : s'.IsNested := by
  have hblock : ∀ {kind : FrameKind} {first : LexemeKind}, kind = .blockMapping ∨ kind = .blockSequence →
      (if w.next.any fun next => next.kind == first && next.start.line == w.curr.start.line then
        some (s.push { kind, indent := w.curr.start.column }) else none) = some s' → s'.IsNested := by
    intro kind first hkind hpush
    split at hpush
    · cases hpush
      refine h.push_free ?_ ?_ ?_ ⟨nofun, nofun⟩ <;> rcases hkind with rfl | rfl <;> simp
    · cases hpush
  unfold State.open? at hopen
  dsimp only at hopen
  split at hopen
  · exact hblock (.inl rfl) hopen
  · exact hblock (.inr rfl) hopen
  · obtain ⟨next, -, rfl⟩ := Option.map_eq_some_iff.1 hopen
    exact isNested_openFlow h (.inl rfl) _ _
  · obtain ⟨next, -, rfl⟩ := Option.map_eq_some_iff.1 hopen
    exact isNested_openFlow h (.inr rfl) _ _
  · split at hopen
    · cases hopen
      exact h
    · cases hopen
      exact isNested_openEntry h _ _
  · cases hopen
    exact h.push_free nofun nofun nofun ⟨fun _ => rfl, nofun⟩
  · split at hopen
    · next htop =>
      cases hopen
      exact isNested_openValue h (eq_of_beq htop) _ _ _
    · cases hopen
  · cases hopen
  · cases hopen
    exact h

/-! ## Closing levels -/

/-- `close` for a whole stack, innermost level first and the root level last. There is nothing if a
level is missing that is looked at or closed, or if a value does not lie on a key. -/
def closeStack? (w : Window) (ended : Bool) : List Frame → Option (List Frame)
  | [] => none
  | [root] => some [root]
  | top :: under :: rest =>
    let x := w.curr
    if isEndOf x top && !ended then closeStack? w true (under :: rest)
    else if top.kind == .entry && x.kind != .blockEntry && under.isIndentless && !x.kind.isProperty &&
        !isOneOf w.next [.blockEntry] then
      closeStack? w ended rest
    else if top.kind == .entry && isOneOf w.next [.blockEntry, .blockEnd] then
      closeStack? w ended (under :: rest)
    else if top.kind == .value && x.kind != .value && !x.kind.isProperty then
      if under.kind == .key then closeStack? w ended rest else none
    else if top.kind == .key &&
        isOneOf w.next [.blockEnd, .flowMappingEnd, .flowSequenceEnd, .flowEntry] then
      closeStack? w ended (under :: rest)
    else some (top :: under :: rest)

/-- Levels are closed from the innermost one on. -/
theorem close_suffix (w : Window) (root : Frame) (ended : Bool) (frames : List Frame) :
    (close w root ended frames).1 <:+ frames := by
  fun_induction close w root ended frames with
  | case1 => exact List.suffix_rfl
  | case2 ended top below x hends ih => exact ih.trans (List.suffix_cons top below)
  | case3 ended top x hends under rest below hentry ih =>
    exact ih.trans ((List.suffix_cons under rest).trans (List.suffix_cons top (under :: rest)))
  | case4 => exact List.nil_suffix
  | case5 ended top below x under hends hentry hnext ih => exact ih.trans (List.suffix_cons top below)
  | case6 ended top x hends hnext hvalue under rest hkey below hentry ih =>
    exact ih.trans ((List.suffix_cons under rest).trans (List.suffix_cons top (under :: rest)))
  | case7 | case8 | case10 => exact List.suffix_rfl
  | case9 ended top below x under hends hentry hnext hvalue hkey ih => exact ih.trans (List.suffix_cons top below)

theorem closeStack?_cons (w : Window) (ended : Bool) (top root : Frame) (below : List Frame) :
    closeStack? w ended (top :: (below ++ [root])) =
      if isEndOf w.curr top && !ended then closeStack? w true (below ++ [root])
      else if top.kind == .entry && w.curr.kind != .blockEntry && (below.headD root).isIndentless &&
          !w.curr.kind.isProperty && !isOneOf w.next [.blockEntry] then
        closeStack? w ended (below ++ [root]).tail
      else if top.kind == .entry && isOneOf w.next [.blockEntry, .blockEnd] then
        closeStack? w ended (below ++ [root])
      else if top.kind == .value && w.curr.kind != .value && !w.curr.kind.isProperty then
        if (below.headD root).kind == .key then closeStack? w ended (below ++ [root]).tail else none
      else if top.kind == .key &&
          isOneOf w.next [.blockEnd, .flowMappingEnd, .flowSequenceEnd, .flowEntry] then
        closeStack? w ended (below ++ [root])
      else some (top :: (below ++ [root])) := by
  cases below <;> rfl

/-- Over nested levels no level is missing, and every value lies on a key. -/
theorem closeStack?_eq (w : Window) (ended : Bool) {root : Frame} (hroot : root.kind = .root) {frames : List Frame}
    (hlies : (frames ++ [root]).IsChain Frame.LiesOn) (hproper : ∀ f ∈ frames ++ [root], f.IsProper) :
    closeStack? w ended (frames ++ [root]) = some ((close w root ended frames).1 ++ [root]) ∧
      (close w root ended frames).2 = true := by
  fun_induction close w root ended frames with
  | case1 => exact ⟨rfl, rfl⟩
  | case2 ended top below x hends ih =>
    rw [List.cons_append, closeStack?_cons, if_pos hends]
    exact ih hlies.tail fun f hf => hproper f (.tail _ hf)
  | case3 ended top x hends under rest below hentry ih =>
    rw [List.cons_append, closeStack?_cons, if_neg hends, if_pos hentry]
    exact ih hlies.tail.tail fun f hf => hproper f (.tail _ (.tail _ hf))
  | case4 ended top x hends under hentry =>
    -- The root level is not indentless.
    simp only [Bool.and_eq_true] at hentry
    have hsequence := (hproper root (by simp)).indentless hentry.1.1.2
    rw [hroot] at hsequence
    cases hsequence
  | case5 ended top below x under hends hentry hnext ih =>
    rw [List.cons_append, closeStack?_cons, if_neg hends, if_neg hentry, if_pos hnext]
    exact ih hlies.tail fun f hf => hproper f (.tail _ hf)
  | case6 ended top x hends hnext hvalue under rest hkey below hentry ih =>
    rw [List.cons_append, closeStack?_cons, if_neg hends, if_neg hentry, if_neg hnext, if_pos hvalue,
      List.headD_cons, if_pos hkey]
    exact ih hlies.tail.tail fun f hf => hproper f (.tail _ (.tail _ hf))
  | case7 ended top x hends hnext hvalue under rest hkey below hentry =>
    simp only [Bool.and_eq_true, beq_iff_eq] at hvalue
    exact absurd (beq_iff_eq.2 ((List.isChain_cons_cons.1 hlies).1.1 hvalue.1.1)) hkey
  | case8 ended top x hends hnext hvalue under hentry =>
    simp only [Bool.and_eq_true, beq_iff_eq] at hvalue
    have hkey := (List.isChain_cons_cons.1 hlies).1.1 hvalue.1.1
    rw [hroot] at hkey
    cases hkey
  | case9 ended top below x under hends hentry hnext hvalue hkey ih =>
    rw [List.cons_append, closeStack?_cons, if_neg hends, if_neg hentry, if_neg hnext, if_neg hvalue, if_pos hkey]
    exact ih hlies.tail fun f hf => hproper f (.tail _ hf)
  | case10 ended top below x under hends hentry hnext hvalue hkey =>
    rw [List.cons_append, closeStack?_cons, if_neg hends, if_neg hentry, if_neg hnext, if_neg hvalue, if_neg hkey]
    exact ⟨rfl, rfl⟩

/-! ## One lexeme -/

theorem shares_expected (s : State) (x : Lexeme) : s.Shares (s.expected x).2 := by
  unfold State.expected
  dsimp only
  split
  · exact .refl s
  · split
    · exact s.shares_deeper _ _
    · exact .refl s

theorem shares_checkColumn (x : Lexeme) (s : State) : s.Shares (checkColumn x s).1 := by
  unfold checkColumn
  split
  · exact shares_expected s x
  · exact .refl s

theorem shares_expectedInScalar (s : State) (x : Lexeme) (found : Int) : s.Shares (s.expectedInScalar x found).2 := by
  unfold State.expectedInScalar
  dsimp only
  split
  · exact .refl s
  · exact .refl s
  · exact .refl s
  · split
    · exact s.shares_deeper _ _
    · exact s.shares_deeper _ _
    · split <;> exact s.shares_deeper _ _
    · exact s.shares_deeper _ _

theorem shares_checkScalar (t : Text) (x : Lexeme) (s : State) : s.Shares (checkScalar t x s).1 := by
  unfold checkScalar
  split
  · exact .refl s
  · dsimp only
    split
    · exact .refl s
    · exact shares_expectedInScalar s x _

section Reach

variable (s : State) (t : Text) (x : Lexeme) (isFirst : Bool)

@[simp] theorem frames_reach : (s.reach t x isFirst).frames = s.frames := by
  unfold State.reach
  split <;> rfl

@[simp] theorem root_reach : (s.reach t x isFirst).root = s.root := by
  unfold State.reach
  split <;> rfl

@[simp] theorem step_reach : (s.reach t x isFirst).step = s.step := by
  unfold State.reach
  split <;> rfl

@[simp] theorem sequences_reach : (s.reach t x isFirst).sequences = s.sequences := by
  unfold State.reach
  split <;> rfl

theorem shares_reach : s.Shares (s.reach t x isFirst) := ⟨frames_reach s t x isFirst, root_reach s t x isFirst⟩

end Reach

/-- `State.reach` for a text that has to have the characters that are looked at. -/
def State.reach? (s : State) (t : Text) (x : Lexeme) (isFirst : Bool) : Option State :=
  if isVisible x then
    (x.realEndLine? t).map fun line =>
      { s with line, lineIndent := if isFirst then x.start.column else s.lineIndent }
  else some s

/-- `State.advance` for a stack and a text that have to have what is looked at. Whether the lexeme can
stand where it does is said, but not whether the levels left have the form they should have. -/
def State.advance? (s : State) (t : Text) (w : Window) : Option (State × Bool) :=
  if w.curr.kind = .key ∧ w.curr.isExplicitKey? t = none then none
  else
    match s.open? t w with
    | some s =>
      (closeStack? w false s.stack).bind fun stack =>
        stack.getLast?.map fun root => ({ s with frames := stack.dropLast, root }, true)
    | none => some (s, false)

/-- `check` for a stack and a text that have to have what is looked at. -/
def check? (o : Options) (t : Text) (w : Window) (s : State) : Option (State × List Finding) :=
  let x := w.curr
  let isFirst := s.isFirst x
  let (s, inColumn) := checkColumn x s
  let (s, inScalar) :=
    if x.kind == .scalar && o.checkMultiLine then checkScalar t x s else (s, [])
  (s.reach? t x isFirst).bind fun s =>
    (s.advance? t w).map fun (s, isSound) =>
      let unexpected :=
        if isSound then [] else [Finding.atStart x "cannot infer indentation: unexpected token"]
      (s, inColumn ++ inScalar ++ unexpected)

theorem reach?_eq {x : Lexeme} (hx : x.MarkedIn t) (s : State) (isFirst : Bool) :
    s.reach? t x isFirst = some (s.reach t x isFirst) := by
  unfold State.reach? State.reach
  split
  · rw [Lexeme.realEndLine?_eq hx]
    rfl
  · rfl

/-- Nested levels stay nested as a lexeme opens and closes some. Nothing that is looked at is missing, and
the levels have the form they should have wherever the lexeme can stand. -/
theorem advance?_eq (hw : w.curr.MarkedIn t) (h : s.IsNested) :
    s.advance? t w = some (s.advance t w) ∧ (s.advance t w).1.IsNested := by
  have hkey : ¬(w.curr.kind = .key ∧ w.curr.isExplicitKey? t = none) := by
    rw [Lexeme.isExplicitKey?_eq hw]
    exact fun hnone => nomatch hnone.2
  unfold State.advance? State.advance
  rw [if_neg hkey]
  cases hopen : s.open? t w with
  | some s₁ =>
    have h₁ := isNested_of_open? h hopen
    obtain ⟨hclose, hsound⟩ := closeStack?_eq w false h₁.root h₁.lies h₁.proper
    refine ⟨?_, h₁.suffix (close_suffix w s₁.root false s₁.frames)⟩
    dsimp only
    rw [State.stack, hclose, Option.bind_some, List.getLast?_concat, Option.map_some, List.dropLast_concat, ← hsound]
  | none => exact ⟨rfl, h⟩

/-- One step of the rule. -/
theorem check?_eq (o : Options) (hw : w.curr.MarkedIn t) (h : s.IsNested) :
    check? o t w s = some (check o t w s) ∧ (check o t w s).1.IsNested := by
  have hscalar : (checkColumn w.curr s).1.Shares
      (if w.curr.kind == .scalar && o.checkMultiLine then checkScalar t w.curr (checkColumn w.curr s).1
        else ((checkColumn w.curr s).1, [])).1 := by
    split
    · exact shares_checkScalar t _ _
    · exact .refl _
  have hreached := ((h.shares (shares_checkColumn w.curr s)).shares hscalar).shares
    (shares_reach _ t w.curr (s.isFirst w.curr))
  obtain ⟨hadvance, hnested⟩ := advance?_eq hw hreached
  refine ⟨?_, hnested⟩
  unfold check?
  dsimp only
  rw [reach?_eq hw, Option.bind_some, hadvance]
  rfl

/-! ## All lexemes -/

/-- The state after each lexeme, with the findings there. -/
def steps (o : Options) (t : Text) (s : State) : List Window → List (State × List Finding)
  | [] => []
  | w :: ws =>
    let r := check o t w s
    r :: steps o t r.1 ws

/-- `steps` for stacks and a text that have to have what is looked at. -/
def steps? (o : Options) (t : Text) (s : State) : List Window → Option (List (State × List Finding))
  | [] => some []
  | w :: ws => (check? o t w s).bind fun r => (steps? o t r.1 ws).map (r :: ·)

/-- However lexemes follow one another. -/
theorem steps?_eq {o : Options} {ws : List Window} (hw : ∀ w ∈ ws, w.curr.MarkedIn t) (h : s.IsNested) :
    steps? o t s ws = some (steps o t s ws) ∧ ∀ r ∈ steps o t s ws, r.1.IsNested := by
  induction ws generalizing s with
  | nil => exact ⟨rfl, List.forall_mem_nil _⟩
  | cons w ws ih =>
    obtain ⟨hfirst, hrest⟩ := List.forall_mem_cons.1 hw
    obtain ⟨hcheck, hnested⟩ := check?_eq o hfirst h
    obtain ⟨hsteps, hall⟩ := ih hrest hnested
    refine ⟨?_, List.forall_mem_cons.2 ⟨hnested, hall⟩⟩
    rw [steps?, hcheck, Option.bind_some, hsteps]
    rfl

/-- Each window onto a list shows a lexeme of it. -/
theorem map_curr_slide (prev : Option Lexeme) (xs : List Lexeme) : (Window.slide prev xs).map (·.curr) = xs := by
  induction xs generalizing prev with
  | nil => rfl
  | cons x xs ih => rw [Window.slide, List.map_cons, ih]

/-- For all options, after each lexeme of any list whose marks are in the text, levels are nested, and nothing
that was looked at on the way was missing. -/
theorem steps_isNested (o : Options) (t : Text) (xs : List Lexeme) (h : ∀ x ∈ xs, x.MarkedIn t) :
    steps? o t (.start o) (Window.slide none xs) = some (steps o t (.start o) (Window.slide none xs)) ∧
      ∀ r ∈ steps o t (.start o) (Window.slide none xs), r.1.IsNested := by
  refine steps?_eq (fun w hw => h _ ?_) (isNested_start o)
  rw [← map_curr_slide none xs]
  exact List.mem_map_of_mem hw

/-- A value without a key, an entry that is the value of a key, two more values and an end of nothing. -/
def strays : List Lexeme :=
  [⟨.value, ⟨0, 2, 2⟩, ⟨0, 3, 3⟩, none, none⟩, ⟨.key, ⟨0, 0, 0⟩, ⟨0, 1, 1⟩, none, none⟩,
    ⟨.value, ⟨0, 2, 2⟩, ⟨0, 3, 3⟩, none, none⟩, ⟨.blockEntry, ⟨0, 3, 3⟩, ⟨0, 3, 3⟩, none, none⟩,
    ⟨.value, ⟨0, 2, 2⟩, ⟨0, 3, 3⟩, none, none⟩, ⟨.value, ⟨0, 0, 0⟩, ⟨0, 1, 1⟩, none, none⟩,
    ⟨.blockEnd, ⟨0, 1, 1⟩, ⟨0, 1, 1⟩, none, none⟩]

theorem steps_isNested_strays :
    let o : Options := ⟨.consistent, .consistent, true⟩
    let t : Text := "? :".toList
    (∀ x ∈ strays, x.MarkedIn t) ∧
      (steps? o t (.start o) (Window.slide none strays) = some (steps o t (.start o) (Window.slide none strays)) ∧
        ∀ r ∈ steps o t (.start o) (Window.slide none strays), r.1.IsNested) ∧
      (steps o t (.start o) (Window.slide none strays)).map (fun r => r.1.stack.map (·.kind)) =
        [[.root], [.key, .root], [.value, .key, .root], [.entry, .blockSequence, .value, .key, .root],
          [.entry, .blockSequence, .value, .key, .root], [.entry, .blockSequence, .value, .key, .root], [.root]] :=
  have h : ∀ x ∈ strays, x.MarkedIn "? :".toList := by decide
  ⟨h, steps_isNested ⟨.consistent, .consistent, true⟩ _ strays h, by decide⟩

end Rule.Indentation

end YamlStyle
