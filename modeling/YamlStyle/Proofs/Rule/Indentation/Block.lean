import YamlStyle.Proofs.Lexeme.Reckoning
import YamlStyle.Proofs.Rule.Indentation.Levels

/-!
# The indentation of block documents

A layout of nested block mappings and block sequences is a tree that holds its own lexemes (`Node`).
Scalars stand on the line of their key or hyphen, and so do collections in sequences; a collection that
is the value of a key starts a line of its own, and so does the outermost one. With a known step, and
sequences deeper than the mapping around them, the rule finds those collections that start their line at
another column than expected, one after another, and nothing else (`steps_layout`).
-/

namespace YamlStyle

variable {t : Text}

namespace Lexeme

/-- A scalar of one line that is not empty and does not end with white space. -/
@[mk_iff]
structure IsInline (t : Text) (x : Lexeme) : Prop where
  kind : x.kind = .scalar
  value : x.value ≠ some ""
  line : x.stop.line = x.start.line
  offset : x.start.offset ≤ x.stop.offset
  last : (t.before? x.stop.offset).any fun c => !Text.isAsciiSpace c

instance (x : Lexeme) : Decidable (x.IsInline t) := decidable_of_iff' _ (isInline_iff t x)

/-- Such a scalar really ends where it ends. -/
theorem IsInline.realEndLine {x : Lexeme} (h : x.IsInline t) : x.realEndLine t = x.start.line + 1 := by
  obtain ⟨c, hc, hspace⟩ := (Option.any_eq_true _ _).1 h.last
  rw [Bool.not_eq_true'] at hspace
  unfold Text.before? at hc
  split at hc
  · cases hc
  · next hstop =>
    have hslice : t.slice (x.start.offset - 1) x.stop.offset = t.slice (x.start.offset - 1) (x.stop.offset - 1) ++ [c] := by
      have hle := h.offset
      have hget : (t.drop (x.start.offset - 1))[x.stop.offset - 1 - (x.start.offset - 1)]? = some c := by
        rw [List.getElem?_drop, ← hc]
        congr 1
        omega
      rw [Text.slice, Text.slice,
        show x.stop.offset - (x.start.offset - 1) = x.stop.offset - 1 - (x.start.offset - 1) + 1 by omega,
        List.take_add_one, hget]
      rfl
    unfold Lexeme.realEndLine
    dsimp only
    rw [h.kind, hslice, List.reverse_append, List.reverse_singleton, List.singleton_append, List.takeWhile_cons, hspace,
      h.line]
    simp

end Lexeme

namespace Rule.Indentation

variable {o : Options} {w : Window} {s : State} {n : Nat}

/-! ## Layouts -/

mutual

/-- A scalar, or a block collection from its start to its end, with the lexemes it consists of. -/
inductive Node where
  | scalar (x : Lexeme)
  | mapping (start : Lexeme) (rows : Rows) (stop : Lexeme)
  | sequence (start : Lexeme) (items : Items) (stop : Lexeme)

/-- The keys of a mapping with their values; there is at least one. -/
inductive Rows where
  | last (key name colon : Lexeme) (value : Node)
  | more (key name colon : Lexeme) (value : Node) (rows : Rows)

/-- The entries of a sequence; there is at least one. -/
inductive Items where
  | last (hyphen : Lexeme) (item : Node)
  | more (hyphen : Lexeme) (item : Node) (items : Items)

end

/-- The lexeme that a node starts with. -/
def Node.first : Node → Lexeme
  | scalar x => x
  | mapping start _ _ => start
  | sequence start _ _ => start

def Node.isCollection : Node → Bool
  | scalar _ => false
  | mapping _ _ _ | sequence _ _ _ => true

/-- The first key. -/
def Rows.first : Rows → Lexeme
  | last key _ _ _ => key
  | more key _ _ _ _ => key

/-- The first hyphen. -/
def Items.first : Items → Lexeme
  | last hyphen _ => hyphen
  | more hyphen _ _ => hyphen

mutual

def Node.lexemes : Node → List Lexeme
  | .scalar x => [x]
  | .mapping start rows stop => start :: (rows.lexemes ++ [stop])
  | .sequence start items stop => start :: (items.lexemes ++ [stop])

def Rows.lexemes : Rows → List Lexeme
  | .last key name colon value => key :: name :: colon :: value.lexemes
  | .more key name colon value rows => key :: name :: colon :: (value.lexemes ++ rows.lexemes)

def Items.lexemes : Items → List Lexeme
  | .last hyphen item => hyphen :: item.lexemes
  | .more hyphen item items => hyphen :: (item.lexemes ++ items.lexemes)

end

/-- A key that no question mark marks, at the column of its mapping, with its name and the colon on its
line. A scalar that is its value is there too, and a collection is further down. -/
@[mk_iff]
structure IsRow (t : Text) (column : Nat) (key name colon : Lexeme) (value : Node) : Prop where
  isKey : key.kind = .key
  implicit : key.isExplicitKey t = false
  aligned : key.start.column = column
  inline : name.IsInline t
  beside : name.start.line = key.stop.line
  isColon : colon.kind = .value
  follows : colon.start.line = name.start.line
  short : colon.stop.line = colon.start.line
  placed : if value.isCollection then colon.stop.line < value.first.start.line
    else value.first.start.line = colon.stop.line

instance (column : Nat) (key name colon : Lexeme) (value : Node) : Decidable (IsRow t column key name colon value) :=
  decidable_of_iff' _ (isRow_iff t column key name colon value)

/-- A hyphen at the column of its sequence, with the start of its item on its line. -/
@[mk_iff]
structure IsItem (column : Nat) (hyphen : Lexeme) (item : Node) : Prop where
  isHyphen : hyphen.kind = .blockEntry
  aligned : hyphen.start.column = column
  beside : item.first.start.line = hyphen.stop.line

instance (column : Nat) (hyphen : Lexeme) (item : Node) : Decidable (IsItem column hyphen item) :=
  decidable_of_iff' _ (isItem_iff column hyphen item)

mutual

/-- Whether a node is laid out in a text. A collection starts where its first key or hyphen is. -/
def Node.IsLaid (t : Text) : Node → Prop
  | .scalar x => x.IsInline t
  | .mapping start rows stop =>
    start.kind = .blockMappingStart ∧ rows.first.start.line = start.start.line ∧
      rows.AreLaid t start.start.column ∧ stop.kind = .blockEnd
  | .sequence start items stop =>
    start.kind = .blockSequenceStart ∧ items.first.start.line = start.start.line ∧
      items.AreLaid t start.start.column ∧ stop.kind = .blockEnd

def Rows.AreLaid (t : Text) (column : Nat) : Rows → Prop
  | .last key name colon value => IsRow t column key name colon value ∧ value.IsLaid t
  | .more key name colon value rows =>
    IsRow t column key name colon value ∧ value.IsLaid t ∧ rows.AreLaid t column

def Items.AreLaid (t : Text) (column : Nat) : Items → Prop
  | .last hyphen item => IsItem column hyphen item ∧ item.IsLaid t
  | .more hyphen item items => IsItem column hyphen item ∧ item.IsLaid t ∧ items.AreLaid t column

end

mutual

def Node.decidableIsLaid (t : Text) : (nd : Node) → Decidable (nd.IsLaid t)
  | .scalar x => decidable_of_iff' _ (Lexeme.isInline_iff t x)
  | .mapping _ rows _ =>
    have := rows.decidableAreLaid t
    inferInstanceAs (Decidable (_ ∧ _ ∧ rows.AreLaid t _ ∧ _))
  | .sequence _ items _ =>
    have := items.decidableAreLaid t
    inferInstanceAs (Decidable (_ ∧ _ ∧ items.AreLaid t _ ∧ _))

def Rows.decidableAreLaid (t : Text) (rows : Rows) (column : Nat) : Decidable (rows.AreLaid t column) :=
  match rows with
  | .last key name colon value =>
    have := value.decidableIsLaid t
    inferInstanceAs (Decidable (IsRow t column key name colon value ∧ value.IsLaid t))
  | .more key name colon value rows =>
    have := value.decidableIsLaid t
    have := rows.decidableAreLaid t
    inferInstanceAs (Decidable (IsRow t column key name colon value ∧ value.IsLaid t ∧ rows.AreLaid t column))

def Items.decidableAreLaid (t : Text) (items : Items) (column : Nat) : Decidable (items.AreLaid t column) :=
  match items with
  | .last hyphen item =>
    have := item.decidableIsLaid t
    inferInstanceAs (Decidable (IsItem column hyphen item ∧ item.IsLaid t))
  | .more hyphen item items =>
    have := item.decidableIsLaid t
    have := items.decidableAreLaid t
    inferInstanceAs (Decidable (IsItem column hyphen item ∧ item.IsLaid t ∧ items.AreLaid t column))

end

instance (nd : Node) : Decidable (nd.IsLaid t) := nd.decidableIsLaid t

/-! ## What is to be found -/

mutual

/-- The starts of the collections that start a line, with the columns where they are expected. The node
itself starts a line if a column is given for it, and in steps of `n` columns those in it that are values
do. -/
def Node.starts (n : Nat) (expected : Option Nat) : Node → List (Nat × Lexeme)
  | .scalar _ => []
  | .mapping start rows _ => (expected.map (·, start)).toList ++ rows.starts n start.start.column
  | .sequence start items _ => (expected.map (·, start)).toList ++ items.starts n

def Rows.starts (n : Nat) (column : Nat) : Rows → List (Nat × Lexeme)
  | .last _ _ _ value => value.starts n (some (column + n))
  | .more _ _ _ value rows => value.starts n (some (column + n)) ++ rows.starts n column

def Items.starts (n : Nat) : Items → List (Nat × Lexeme)
  | .last _ item => item.starts n none
  | .more _ item items => item.starts n none ++ items.starts n

end

/-- What is said of a lexeme that starts its line, if it is at another column than expected. -/
def misplaced? : Nat × Lexeme → Option Finding
  | (expected, x) =>
    if x.start.column = expected then none
    else some ⟨x.start.line + 1, x.start.column + 1,
      s!"wrong indentation: expected {expected} but found {x.start.column}"⟩

/-! ## Levels in a layout -/

/-- The level of something that starts at a column. -/
def level (kind : FrameKind) (column : Nat) : Frame := { kind, indent := column }

/-- The state in a layout in steps of `n` columns, with some levels above the root level. -/
structure State.At (n : Nat) (frames : List Frame) (s : State) : Prop where
  frames : s.frames = frames
  root : s.root = level .root 0
  step : s.step = .columns n
  sequences : s.sequences = .indented

variable {x y : Lexeme} {base rest frames : List Frame} {f root : Frame} {column line : Nat}

theorem State.At.top (h : s.At n (f :: base)) : s.top = f := by
  rw [State.top, h.frames, List.headD_cons]

theorem State.At.push (h : s.At n frames) (f : Frame) : (s.push f).At n (f :: frames) :=
  ⟨congrArg (f :: ·) h.frames, h.root, h.step, h.sequences⟩

theorem State.At.reach (h : s.At n frames) (t : Text) (x : Lexeme) (isFirst : Bool) :
    (s.reach t x isFirst).At n frames where
  frames := (frames_reach s t x isFirst).trans h.frames
  root := (root_reach s t x isFirst).trans h.root
  step := (step_reach s t x isFirst).trans h.step
  sequences := (sequences_reach s t x isFirst).trans h.sequences

theorem State.At.close (h : s.At n frames) (rest : List Frame) : State.At n rest { s with frames := rest } :=
  ⟨rfl, h.root, h.step, h.sequences⟩

theorem line_reach (hx : isVisible x = true) (s : State) (isFirst : Bool) :
    (s.reach t x isFirst).line = x.realEndLine t := by
  rw [State.reach, if_pos hx]

theorem State.At.deeper (h : s.At n frames) (base : Nat) (found : Int) :
    s.deeper base found = (((base + n : Nat) : Int), s) := by
  rw [State.deeper, h.step]
  simp

/-! ## Closing levels -/

/-- A block collection stays open unless it is ended, which a lexeme does at most once. -/
theorem close_block (hkind : f.kind = .blockMapping ∨ f.kind = .blockSequence) {ended : Bool}
    (h : w.curr.kind ≠ .blockEnd ∨ ended = true) : close w root ended (f :: base) = (f :: base, true) := by
  have hend : (isEndOf w.curr f && !ended) = false := by
    rcases hkind with hkind | hkind <;> rcases h with h | h <;> simp [isEndOf, hkind, h]
  unfold close
  rcases hkind with hkind | hkind <;> simp [hend, hkind]

/-- The levels `base` are closed down to `rest` after a node that `next` follows, by the scalar that it is
or by its end. -/
def ClosesTo (next : Option Lexeme) (base rest : List Frame) : Prop :=
  ∀ (w : Window) (root : Frame) (ended : Bool), w.next = next →
    w.curr.kind = .scalar ∨ w.curr.kind = .blockEnd ∧ ended = true → close w root ended base = (rest, true)

theorem closesTo_nil (next : Option Lexeme) : ClosesTo next [] [] := fun _ _ _ _ _ => by rw [close]

/-- After its value, a key is done with. -/
theorem closesTo_value (next : Option Lexeme) {indent : Nat} : ClosesTo next
    (level .value indent :: level .key column :: level .blockMapping column :: base)
    (level .blockMapping column :: base) := by
  intro w root ended _ hcurr
  have hblock : close w root ended (level .blockMapping column :: base) = (level .blockMapping column :: base, true) :=
    close_block (.inl rfl) (hcurr.imp (fun h => by rw [h]; decide) And.right)
  rw [close]
  rcases hcurr with hcurr | ⟨hcurr, -⟩ <;> simpa [level, isEndOf, hcurr, LexemeKind.isProperty] using hblock

/-- Before the next entry, and before the end of the sequence, an entry is done with. -/
theorem closesTo_entry {next : Option Lexeme} (hnext : isOneOf next [.blockEntry, .blockEnd] = true) {indent : Nat} :
    ClosesTo next (level .entry indent :: level .blockSequence column :: base) (level .blockSequence column :: base) := by
  intro w root ended hw hcurr
  have hblock : close w root ended (level .blockSequence column :: base) = (level .blockSequence column :: base, true) :=
    close_block (.inr rfl) (hcurr.imp (fun h => by rw [h]; decide) And.right)
  rw [close]
  simpa [level, isEndOf, hw, hnext] using hblock

/-! ## The column of a lexeme -/

/-- A lexeme starts a line if a column is given for it, and that is where the innermost level expects it.
Otherwise its line has been reached before. -/
def State.Awaits (s : State) (x : Lexeme) : Option Nat → Prop
  | some expected => s.line ≤ x.start.line ∧ s.top.indent = expected ∧ s.top.isExplicitKey = false
  | none => x.start.line < s.line

theorem checkColumn_of_invisible (h : isVisible x = false) : checkColumn x s = (s, []) := by
  rw [checkColumn, if_neg (by simp [State.isFirst, h])]

theorem checkColumn_of_lt (h : x.start.line < s.line) : checkColumn x s = (s, []) := by
  rw [checkColumn, if_neg]
  simp only [State.isFirst, Bool.and_eq_true, decide_eq_true_eq, not_and]
  intro _
  omega

theorem expected_eq (hend : x.kind.isFlowEnd = false) (htop : s.top.isExplicitKey = false) :
    s.expected x = (s.top.indent, s) := by
  simp [State.expected, hend, htop]

/-- Nothing is wrong with a lexeme at the column of the innermost level. -/
theorem checkColumn_of_column (hend : x.kind.isFlowEnd = false) (htop : s.top.isExplicitKey = false)
    (hcolumn : s.top.indent = x.start.column) : checkColumn x s = (s, []) := by
  rw [checkColumn, expected_eq hend htop, hcolumn]
  split <;> simp

theorem checkColumn_of_awaits (hx : isVisible x = true) (hend : x.kind.isFlowEnd = false) {expected : Option Nat}
    (h : s.Awaits x expected) : checkColumn x s = (s, (expected.map (·, x)).toList.filterMap misplaced?) := by
  cases expected with
  | none => exact checkColumn_of_lt h
  | some expected =>
    obtain ⟨hline, hindent, htop⟩ := h
    have hfirst : s.isFirst x = true := by
      simp only [State.isFirst, hx, Bool.true_and, decide_eq_true_eq]
      omega
    rw [checkColumn, if_pos hfirst, expected_eq hend htop, hindent]
    by_cases hcolumn : x.start.column = expected
    · simp [misplaced?, hcolumn]
    · have hne : ((x.start.column : Int) != (expected : Int)) = true := by simpa using hcolumn
      have hnat : ¬(expected : Int) < 0 := by omega
      simp [misplaced?, hcolumn, hne, wrong, hnat]
      rfl

/-! ## One lexeme of a layout -/

/-- A lexeme of one line is looked at, opens levels and closes some. -/
theorem check_eq_of {s₁ : State} {fs : List Finding}
    (hscalar : w.curr.kind = .scalar → w.curr.stop.line = w.curr.start.line) (hcolumn : checkColumn w.curr s = (s, fs))
    (hopen : (s.reach t w.curr (s.isFirst w.curr)).open? t w = some s₁)
    (hclose : close w s₁.root false s₁.frames = (rest, true)) :
    check o t w s = ({ s₁ with frames := rest }, fs) := by
  have hlines : (if w.curr.kind == .scalar && o.checkMultiLine then checkScalar t w.curr s else (s, [])) = (s, []) := by
    split
    · next h =>
      simp only [Bool.and_eq_true, beq_iff_eq] at h
      simp [checkScalar, hscalar h.1]
    · rfl
  have hadvance : (s.reach t w.curr (s.isFirst w.curr)).advance t w = ({ s₁ with frames := rest }, true) := by
    rw [State.advance, hopen]
    dsimp only
    rw [hclose]
  unfold check
  dsimp only
  rw [hcolumn]
  dsimp only
  rw [hlines]
  dsimp only
  rw [hadvance]
  simp

/-- Shown the lexemes `xs`, which `ys` follow, after a lexeme and in a state with `P`, the rule finds `fs`
and comes to a lexeme and a state with `Q`. -/
def Passes (o : Options) (t : Text) (P : Option Lexeme → State → Prop) (xs ys : List Lexeme) (fs : List Finding)
    (Q : Option Lexeme → State → Prop) : Prop :=
  ∀ prev s, P prev s → ∃ prev' s' rs,
    steps o t s (Window.slide prev (xs ++ ys)) = rs ++ steps o t s' (Window.slide prev' ys) ∧
      rs.flatMap Prod.snd = fs ∧ Q prev' s'

variable {P Q R : Option Lexeme → State → Prop} {xs xs' ys : List Lexeme} {fs gs : List Finding}

theorem Passes.append (h₁ : Passes o t P xs (xs' ++ ys) fs Q) (h₂ : Passes o t Q xs' ys gs R) :
    Passes o t P (xs ++ xs') ys (fs ++ gs) R := by
  intro prev s hs
  obtain ⟨prev₁, s₁, rs₁, hsteps₁, hfound₁, hs₁⟩ := h₁ prev s hs
  obtain ⟨prev₂, s₂, rs₂, hsteps₂, hfound₂, hs₂⟩ := h₂ prev₁ s₁ hs₁
  refine ⟨prev₂, s₂, rs₁ ++ rs₂, ?_, ?_, hs₂⟩
  · rw [List.append_assoc, hsteps₁, hsteps₂, List.append_assoc]
  · rw [List.flatMap_append, hfound₁, hfound₂]

theorem Passes.cons (h₁ : Passes o t P [x] (xs ++ ys) fs Q) (h₂ : Passes o t Q xs ys gs R) :
    Passes o t P (x :: xs) ys (fs ++ gs) R := h₁.append h₂

theorem steps_slide_cons {s' : State} {prev : Option Lexeme} (h : check o t ⟨prev, x, ys[0]?, ys[1]?⟩ s = (s', fs)) :
    steps o t s (Window.slide prev (x :: ys)) = (s', fs) :: steps o t s' (Window.slide (some x) ys) := by
  rw [Window.slide, steps, h]

theorem passes_one (h : ∀ prev s, P prev s → ∃ s', check o t ⟨prev, x, ys[0]?, ys[1]?⟩ s = (s', fs) ∧ Q (some x) s') :
    Passes o t P [x] ys fs Q := by
  intro prev s hs
  obtain ⟨s', hcheck, hs'⟩ := h prev s hs
  exact ⟨some x, s', [(s', fs)], steps_slide_cons hcheck, List.append_nil fs, hs'⟩

/-! ## The lexemes of a layout -/

theorem passes_start (f : Frame) {expected : Option Nat}
    (hx : x.kind = .blockMappingStart ∨ x.kind = .blockSequenceStart)
    (hf : f.kind = .blockMapping ∨ f.kind = .blockSequence)
    (hopen : ∀ prev (s : State), s.open? t ⟨prev, x, ys[0]?, ys[1]?⟩ = some (s.push f)) :
    Passes o t (fun _ s => s.At n base ∧ s.Awaits x expected) [x] ys
      ((expected.map (·, x)).toList.filterMap misplaced?) (fun _ s => s.At n (f :: base)) := by
  have hkind : isVisible x = true ∧ x.kind.isFlowEnd = false ∧ x.kind ≠ .scalar ∧ x.kind ≠ .blockEnd := by
    rcases hx with hx | hx <;> simp [isVisible, LexemeKind.isFlowEnd, hx]
  obtain ⟨hvisible, hend, hscalar, hstop⟩ := hkind
  refine passes_one fun prev s hs => ?_
  obtain ⟨hat, hawaits⟩ := hs
  refine ⟨_, check_eq_of (fun h => absurd h hscalar) (checkColumn_of_awaits hvisible hend hawaits) (hopen _ _)
    (close_block hf (.inl hstop)), ?_⟩
  exact (hat.reach t x _).push f

theorem passes_stop (hx : x.kind = .blockEnd) (hkind : f.kind = .blockMapping ∨ f.kind = .blockSequence)
    (hindentless : f.isIndentless = false) (hclose : ClosesTo ys[0]? base rest) :
    Passes o t (fun _ s => s.At n (f :: base)) [x] ys [] (fun _ s => s.At n rest) := by
  refine passes_one fun prev s hat => ?_
  have hreach := hat.reach t x (s.isFirst x)
  refine ⟨_, check_eq_of (by simp [hx]) (checkColumn_of_invisible (by simp [isVisible, hx]))
    (by simp [State.open?, hx]) ?_, hreach.close rest⟩
  have hend : isEndOf x f = true := by
    rcases hkind with hkind | hkind <;> simp [isEndOf, hkind, hx, hindentless]
  rw [hreach.frames]
  unfold close
  simpa [hend] using hclose _ _ true rfl (.inr ⟨hx, rfl⟩)

theorem passes_scalar (hx : x.IsInline t) (hclose : ClosesTo ys[0]? base rest) :
    Passes o t (fun _ s => s.At n base ∧ x.start.line < s.line) [x] ys [] (fun _ s => s.At n rest) := by
  refine passes_one fun prev s ⟨hat, hline⟩ => ?_
  have hreach := hat.reach t x (s.isFirst x)
  refine ⟨_, check_eq_of (fun _ => hx.line) (checkColumn_of_lt hline) (by simp [State.open?, hx.kind]) ?_,
    hreach.close rest⟩
  rw [hreach.frames]
  exact hclose _ _ false rfl (.inl hx.kind)

section Row

variable {key name colon : Lexeme} {value : Node}

theorem passes_key (h : IsRow t column key name colon value) :
    Passes o t (fun _ s => s.At n (level .blockMapping column :: base)) [key] (name :: ys) []
      (fun _ s => s.At n (level .key column :: level .blockMapping column :: base) ∧ s.line = key.stop.line + 1) := by
  refine passes_one fun prev s hat => ?_
  have hreach := hat.reach t key (s.isFirst key)
  have hcolumn : checkColumn key s = (s, []) := by
    refine checkColumn_of_column (by simp [h.isKey, LexemeKind.isFlowEnd]) ?_ ?_
    · rw [hat.top]
      rfl
    · rw [hat.top, h.aligned]
      rfl
  refine ⟨_, check_eq_of (by simp [h.isKey]) hcolumn (by simp only [State.open?, h.isKey, h.implicit]; rfl) ?_,
    (hreach.push _).close _, ?_⟩
  · dsimp only [State.push]
    rw [hreach.top, hreach.frames]
    unfold close
    simp [level, isEndOf, isOneOf, h.inline.kind]
  · dsimp only [State.push]
    rw [line_reach (by simp [isVisible, h.isKey]), Lexeme.realEndLine, h.isKey]
    rfl

theorem passes_name (h : IsRow t column key name colon value) :
    Passes o t (fun _ s => s.At n (level .key column :: base) ∧ s.line = key.stop.line + 1) [name] (colon :: ys) []
      (fun prev s => prev = some name ∧ s.At n (level .key column :: base) ∧ s.line = name.start.line + 1) := by
  refine passes_one fun prev s ⟨hat, hline⟩ => ?_
  have hreach := hat.reach t name (s.isFirst name)
  have hreached : (name.start.line : Int) < s.line := by
    rw [hline, h.beside]
    omega
  refine ⟨_, check_eq_of (fun _ => h.inline.line) (checkColumn_of_lt hreached)
    (by simp [State.open?, h.inline.kind]) ?_, rfl, hreach.close _, ?_⟩
  · rw [hreach.frames]
    unfold close
    simp [level, isEndOf, isOneOf, h.isColon]
  · rw [← h.inline.realEndLine]
    exact line_reach (by simp [isVisible, h.inline.kind, h.inline.value]) s _

/-- What a node starts with. -/
theorem Node.IsLaid.kind_first {nd : Node} (h : nd.IsLaid t) :
    nd.first.kind = .blockMappingStart ∨ nd.first.kind = .blockSequenceStart ∨
      nd.first.kind = .scalar ∧ nd.isCollection = false := by
  cases nd with
  | scalar x =>
    rw [Node.IsLaid] at h
    exact .inr (.inr ⟨h.kind, rfl⟩)
  | mapping =>
    rw [Node.IsLaid] at h
    exact .inl h.1
  | sequence =>
    rw [Node.IsLaid] at h
    exact .inr (.inl h.1)

theorem Node.head_lexemes (nd : Node) (ys : List Lexeme) : (nd.lexemes ++ ys)[0]? = some nd.first := by
  cases nd <;> simp [Node.lexemes, Node.first]

/-- The level of a value: a collection is expected a step deeper than its key. -/
theorem openValue_eq (h : IsRow t column key name colon value) (hlaid : value.IsLaid t)
    (hat : s.At n (level .key column :: base)) (w : Window) :
    ∃ indent, s.openValue w name value.first = s.push (level .value indent) ∧
      (value.isCollection = true → indent = column + n) := by
  have hplaced := h.placed
  have hstart : valueStart w name value.first = value.first := by
    have hproperty : value.first.kind.isProperty = false := by
      rcases hlaid.kind_first with hkind | hkind | ⟨hkind, -⟩ <;> simp [hkind, LexemeKind.isProperty]
    unfold valueStart
    split <;> simp [hproperty]
  have hdeeper (found : Int) : s.deeper (level .key column).indent found = (((column + n : Nat) : Int), s) :=
    hat.deeper column found
  have hsequence (next : Lexeme) : s.sequenceIndent next = (((column + n : Nat) : Int), s) := by
    unfold State.sequenceIndent
    rw [hat.sequences, hat.top]
    simp [hat.step, hdeeper]
  have hline (hcollection : value.isCollection = true) : (value.first.start.line == name.start.line) = false := by
    rw [if_pos hcollection, h.short, h.follows] at hplaced
    exact beq_false_of_ne (Nat.ne_of_gt hplaced)
  unfold State.openValue
  rw [hstart, hat.top]
  dsimp only
  rw [hdeeper, hsequence]
  cases value with
  | scalar x =>
    refine ⟨x.start.column, ?_, nofun⟩
    rw [Node.IsLaid] at hlaid
    have hsame : x.start.line = name.start.line := by
      rw [← h.follows, ← h.short]
      exact hplaced
    simp [Node.first, hlaid.kind, hsame, level]
  | mapping start rows stop =>
    refine ⟨column + n, ?_, fun _ => rfl⟩
    rw [Node.IsLaid] at hlaid
    have hkind := hlaid.1
    simp only [Node.first] at hline ⊢
    simp [hkind, hline rfl, level]
  | sequence start items stop =>
    refine ⟨column + n, ?_, fun _ => rfl⟩
    rw [Node.IsLaid] at hlaid
    have hkind := hlaid.1
    simp only [Node.first] at hline ⊢
    simp [hkind, hline rfl, level]

theorem passes_colon (h : IsRow t column key name colon value) (hlaid : value.IsLaid t) :
    Passes o t (fun prev s => prev = some name ∧ s.At n (level .key column :: base) ∧ s.line = name.start.line + 1)
      [colon] (value.lexemes ++ ys) []
      (fun _ s => ∃ indent, s.At n (level .value indent :: level .key column :: base) ∧
        s.line = colon.stop.line + 1 ∧ (value.isCollection = true → indent = column + n)) := by
  refine passes_one fun prev s ⟨hprev, hat, hline⟩ => ?_
  subst hprev
  have hreach := hat.reach t colon (s.isFirst colon)
  have hreached : (colon.start.line : Int) < s.line := by
    rw [hline, h.follows]
    omega
  obtain ⟨indent, hvalue, hindent⟩ := openValue_eq h hlaid hreach
    ⟨some name, colon, (value.lexemes ++ ys)[0]?, (value.lexemes ++ ys)[1]?⟩
  have hopen : (s.reach t colon (s.isFirst colon)).open? t
      ⟨some name, colon, (value.lexemes ++ ys)[0]?, (value.lexemes ++ ys)[1]?⟩ =
        some ((s.reach t colon (s.isFirst colon)).push (level .value indent)) := by
    rw [← hvalue, State.open?]
    dsimp only
    rw [h.isColon, value.head_lexemes ys, hreach.top]
    rfl
  refine ⟨_, check_eq_of (by simp [h.isColon]) (checkColumn_of_lt hreached) hopen ?_, indent, (hreach.push _).close _,
    ?_, hindent⟩
  · dsimp only [State.push]
    rw [hreach.frames]
    unfold close
    simp [level, isEndOf, h.isColon]
  · dsimp only [State.push]
    rw [line_reach (by simp [isVisible, h.isColon]), Lexeme.realEndLine, h.isColon]
    rfl

end Row

theorem passes_hyphen {hyphen : Lexeme} {item : Node} (h : IsItem column hyphen item) (hlaid : item.IsLaid t) :
    Passes o t (fun _ s => s.At n (level .blockSequence column :: base)) [hyphen] (item.lexemes ++ ys) []
      (fun _ s => s.At n (level .entry item.first.start.column :: level .blockSequence column :: base) ∧
        s.line = hyphen.stop.line + 1) := by
  refine passes_one fun prev s hat => ?_
  have hreach := hat.reach t hyphen (s.isFirst hyphen)
  have hcolumn : checkColumn hyphen s = (s, []) := by
    refine checkColumn_of_column (by simp [h.isHyphen, LexemeKind.isFlowEnd]) ?_ ?_
    · rw [hat.top]
      rfl
    · rw [hat.top, h.aligned]
      rfl
  have hkind : (item.first.kind == .blockEntry || item.first.kind == .blockEnd) = false := by
    rcases hlaid.kind_first with hkind | hkind | ⟨hkind, -⟩ <;> rw [hkind] <;> rfl
  have hopen : (s.reach t hyphen (s.isFirst hyphen)).open? t
      ⟨prev, hyphen, (item.lexemes ++ ys)[0]?, (item.lexemes ++ ys)[1]?⟩ =
        some ((s.reach t hyphen (s.isFirst hyphen)).push (level .entry item.first.start.column)) := by
    unfold State.open?
    dsimp only
    rw [h.isHyphen, item.head_lexemes ys]
    dsimp only
    rw [hkind, State.openEntry, hreach.top]
    simp [h.beside, level]
  refine ⟨_, check_eq_of (by simp [h.isHyphen]) hcolumn hopen ?_, (hreach.push _).close _, ?_⟩
  · dsimp only [State.push]
    rw [hreach.frames]
    have hnext : isOneOf (item.lexemes ++ ys)[0]? [.blockEntry, .blockEnd] = false := by
      rw [item.head_lexemes ys]
      rcases hlaid.kind_first with hkind | hkind | ⟨hkind, -⟩ <;> simp [isOneOf, hkind]
    unfold close
    simp [level, isEndOf, hnext]
  · dsimp only [State.push]
    rw [line_reach (by simp [isVisible, h.isHyphen]), Lexeme.realEndLine, h.isHyphen]
    rfl

/-! ## Whole layouts -/

/-- Where a node is expected: a column is given for a collection only. -/
def Node.expected (nd : Node) (column : Option Nat) : Option Nat := if nd.isCollection then column else none

/-- A value awaits the rule a step deeper than its key, or on the line of its key. -/
theorem awaits_value {key name colon : Lexeme} {value : Node} (h : IsRow t column key name colon value) {indent : Nat}
    (hat : s.At n (level .value indent :: base)) (hline : s.line = colon.stop.line + 1)
    (hindent : value.isCollection = true → indent = column + n) :
    s.Awaits value.first (value.expected (some (column + n))) := by
  have hplaced := h.placed
  unfold Node.expected
  split
  · next hcollection =>
    rw [if_pos hcollection] at hplaced
    refine ⟨by omega, ?_, ?_⟩
    · rw [hat.top, ← hindent hcollection]
      rfl
    · rw [hat.top]
      rfl
  · next hscalar =>
    rw [if_neg hscalar] at hplaced
    rw [State.Awaits]
    omega

/-- A key with its value, if the rule passes over the value. -/
theorem passes_row {key name colon : Lexeme} {value : Node} (h : IsRow t column key name colon value)
    (hlaid : value.IsLaid t)
    (hvalue : ∀ frames rest, ClosesTo ys[0]? frames rest →
      Passes o t (fun _ s => s.At n frames ∧ s.Awaits value.first (value.expected (some (column + n)))) value.lexemes ys
        fs (fun _ s => s.At n rest)) :
    Passes o t (fun _ s => s.At n (level .blockMapping column :: base)) (key :: name :: colon :: value.lexemes) ys fs
      (fun _ s => s.At n (level .blockMapping column :: base)) := by
  refine (passes_key h).cons ((passes_name h).cons ((passes_colon h hlaid).cons ?_))
  rintro prev s ⟨indent, hat, hline, hindent⟩
  exact hvalue _ _ (closesTo_value _) prev s ⟨hat, awaits_value h hat hline hindent⟩

/-- A hyphen with its item, if the rule passes over the item. -/
theorem passes_item {hyphen : Lexeme} {item : Node} (h : IsItem column hyphen item) (hlaid : item.IsLaid t)
    (hnext : isOneOf ys[0]? [.blockEntry, .blockEnd] = true)
    (hitem : ∀ frames rest, ClosesTo ys[0]? frames rest →
      Passes o t (fun _ s => s.At n frames ∧ s.Awaits item.first (item.expected none)) item.lexemes ys fs
        (fun _ s => s.At n rest)) :
    Passes o t (fun _ s => s.At n (level .blockSequence column :: base)) (hyphen :: item.lexemes) ys fs
      (fun _ s => s.At n (level .blockSequence column :: base)) := by
  refine (passes_hyphen h hlaid).cons ?_
  rintro prev s ⟨hat, hline⟩
  refine hitem _ _ (closesTo_entry hnext) prev s ⟨hat, ?_⟩
  rw [Node.expected, ite_self, State.Awaits, hline, h.beside]
  omega

theorem Rows.head_lexemes (rows : Rows) (ys : List Lexeme) : (rows.lexemes ++ ys)[0]? = some rows.first := by
  cases rows <;> simp [Rows.lexemes, Rows.first]

theorem Items.head_lexemes (items : Items) (ys : List Lexeme) : (items.lexemes ++ ys)[0]? = some items.first := by
  cases items <;> simp [Items.lexemes, Items.first]

theorem Rows.AreLaid.kind_first {rows : Rows} (h : rows.AreLaid t column) : rows.first.kind = .key := by
  cases rows <;> rw [Rows.AreLaid] at h <;> exact h.1.isKey

theorem Items.AreLaid.kind_first {items : Items} (h : items.AreLaid t column) : items.first.kind = .blockEntry := by
  cases items <;> rw [Items.AreLaid] at h <;> exact h.1.isHyphen

mutual

/-- The rule passes over a node, and what it finds is about the collections that start a line. -/
theorem passes_node (o : Options) (t : Text) (n : Nat) (nd : Node) (column : Option Nat) {frames rest : List Frame}
    {ys : List Lexeme} (h : nd.IsLaid t) (hclose : ClosesTo ys[0]? frames rest) :
    Passes o t (fun _ s => s.At n frames ∧ s.Awaits nd.first (nd.expected column)) nd.lexemes ys
      ((nd.starts n column).filterMap misplaced?) (fun _ s => s.At n rest) := by
  match nd with
  | .scalar x =>
    rw [Node.IsLaid] at h
    exact passes_scalar h hclose
  | .mapping start rows stop =>
    obtain ⟨hstart, hline, hrows, hstop⟩ := h
    rw [Node.starts, List.filterMap_append, Node.lexemes]
    refine (passes_start (level .blockMapping start.start.column) (.inl hstart) (.inl rfl) ?_).cons ?_
    · intro prev s
      rw [List.append_assoc, rows.head_lexemes]
      simp [State.open?, hstart, hrows.kind_first, hline, level]
    · rw [← List.append_nil (List.filterMap _ _)]
      exact (passes_rows o t n rows hrows).append (passes_stop hstop (.inl rfl) rfl hclose)
  | .sequence start items stop =>
    obtain ⟨hstart, hline, hitems, hstop⟩ := h
    rw [Node.starts, List.filterMap_append, Node.lexemes]
    refine (passes_start (level .blockSequence start.start.column) (.inr hstart) (.inr rfl) ?_).cons ?_
    · intro prev s
      rw [List.append_assoc, items.head_lexemes]
      simp [State.open?, hstart, hitems.kind_first, hline, level]
    · rw [← List.append_nil (List.filterMap _ _)]
      exact (passes_items o t n items hitems (by simp [isOneOf, hstop])).append
        (passes_stop hstop (.inr rfl) rfl hclose)

theorem passes_rows (o : Options) (t : Text) (n : Nat) (rows : Rows) {column : Nat} {base : List Frame}
    {ys : List Lexeme} (h : rows.AreLaid t column) :
    Passes o t (fun _ s => s.At n (level .blockMapping column :: base)) rows.lexemes ys
      ((rows.starts n column).filterMap misplaced?) (fun _ s => s.At n (level .blockMapping column :: base)) := by
  match rows with
  | .last key name colon value =>
    obtain ⟨hrow, hvalue⟩ := h
    exact passes_row hrow hvalue fun _ _ => passes_node o t n value _ hvalue
  | .more key name colon value rows =>
    obtain ⟨hrow, hvalue, hrows⟩ := h
    rw [Rows.starts, List.filterMap_append]
    exact (passes_row hrow hvalue fun _ _ => passes_node o t n value _ hvalue).append (passes_rows o t n rows hrows)

theorem passes_items (o : Options) (t : Text) (n : Nat) (items : Items) {column : Nat} {base : List Frame}
    {ys : List Lexeme} (h : items.AreLaid t column) (hnext : isOneOf ys[0]? [.blockEntry, .blockEnd] = true) :
    Passes o t (fun _ s => s.At n (level .blockSequence column :: base)) items.lexemes ys
      ((items.starts n).filterMap misplaced?) (fun _ s => s.At n (level .blockSequence column :: base)) := by
  match items with
  | .last hyphen item =>
    obtain ⟨hitem, hlaid⟩ := h
    exact passes_item hitem hlaid hnext fun _ _ => passes_node o t n item _ hlaid
  | .more hyphen item items =>
    obtain ⟨hitem, hlaid, hitems⟩ := h
    rw [Items.starts, List.filterMap_append]
    refine (passes_item hitem hlaid ?_ fun _ _ => passes_node o t n item _ hlaid).append
      (passes_items o t n items hitems hnext)
    rw [items.head_lexemes]
    simp [isOneOf, hitems.kind_first]

end

/-- The ends of the stream change nothing. -/
theorem check_of_stream (hx : w.curr.kind = .streamStart ∨ w.curr.kind = .streamEnd) (hframes : s.frames = []) :
    check o t w s = (s, []) := by
  have hinvisible : isVisible w.curr = false := by
    rcases hx with hx | hx <;> simp [isVisible, hx]
  have hreach : s.reach t w.curr (s.isFirst w.curr) = s := by
    rw [State.reach, if_neg (by simp [hinvisible])]
  have hopen : (s.reach t w.curr (s.isFirst w.curr)).open? t w = some s := by
    rw [hreach]
    rcases hx with hx | hx <;> simp [State.open?, hx]
  have hclose : close w s.root false s.frames = (s.frames, true) := by
    rw [hframes, close]
  exact check_eq_of (by rcases hx with hx | hx <;> simp [hx]) (checkColumn_of_invisible hinvisible) hopen hclose

/-- Over a whole document of block collections, in steps of `n` columns and with sequences deeper than the
mapping around them, the rule finds the collections that start their line at another column than expected:
at the first column for the outermost one, and a step deeper than the key for one that is a value. It finds
nothing else, and in the end all levels are closed. -/
theorem steps_layout (t : Text) (n : Nat) (checkMultiLine : Bool) {nd : Node} (hcollection : nd.isCollection = true)
    (hlaid : nd.IsLaid t) {first last : Lexeme} (hfirst : first.kind = .streamStart)
    (hlast : last.kind = .streamEnd) :
    let o : Options := ⟨.columns n, .indented, checkMultiLine⟩
    let rs := steps o t (.start o) (Window.slide none (first :: (nd.lexemes ++ [last])))
    rs.flatMap Prod.snd = (nd.starts n (some 0)).filterMap misplaced? ∧
      rs.getLast?.map (·.1.stack) = some [level .root 0] := by
  intro o rs
  have hstart : (State.start o).At n [] := ⟨rfl, rfl, rfl, rfl⟩
  have hnode := passes_node o t n nd (some 0) hlaid (closesTo_nil [last][0]?)
  have hawaits : (State.start o).Awaits nd.first (nd.expected (some 0)) := by
    rw [Node.expected, if_pos hcollection]
    exact ⟨by simp [State.start], rfl, rfl⟩
  obtain ⟨prev, s, rs', hsteps, hfound, hat⟩ := hnode (some first) (.start o) ⟨hstart, hawaits⟩
  have hrs : rs = (.start o, []) :: (rs' ++ [(s, [])]) := by
    dsimp only [rs]
    rw [Window.slide, steps, check_of_stream (.inl hfirst) hstart.frames]
    dsimp only
    rw [hsteps, Window.slide, Window.slide, steps, check_of_stream (.inr hlast) hat.frames, steps]
  rw [hrs]
  refine ⟨by simp [hfound], ?_⟩
  rw [← List.cons_append, List.getLast?_concat]
  simp [State.stack, hat.frames, hat.root]

section Nested

/-- A lexeme of one line without a value. -/
def mark (kind : LexemeKind) (line column offset width : Nat) : Lexeme :=
  ⟨kind, ⟨line, column, offset⟩, ⟨line, column + width, offset + width⟩, none, none⟩

def plain (line column offset : Nat) (value : String) : Lexeme :=
  ⟨.scalar, ⟨line, column, offset⟩, ⟨line, column + value.length, offset + value.length⟩, some value, some .plain⟩

/-- A sequence of a mapping with a sequence. -/
def nested : Node :=
  .sequence (mark .blockSequenceStart 0 1 1 0)
    (.last (mark .blockEntry 0 1 1 1)
      (.mapping (mark .blockMappingStart 0 3 3 0)
        (.last (mark .key 0 3 3 0) (plain 0 3 3 "a") (mark .value 0 4 4 1)
          (.sequence (mark .blockSequenceStart 1 4 10 0)
            (.last (mark .blockEntry 1 4 10 1) (.scalar (plain 1 6 12 "b")))
            (mark .blockEnd 2 0 14 0)))
        (mark .blockEnd 2 0 14 0)))
    (mark .blockEnd 2 0 14 0)

theorem ofText_nested : (Lexeme.ofText " - a:\n    - b\n".toList).outcome =
    .ok (mark .streamStart 0 0 0 0 :: (nested.lexemes ++ [mark .streamEnd 2 0 14 0])) := by
  rw [Lexeme.outcome_ofText_eq_reckoned]
  decide +kernel

/-- The two sequences start a line, each in the wrong place. -/
theorem steps_layout_nested :
    let t : Text := " - a:\n    - b\n".toList
    let o : Options := ⟨.columns 2, .indented, false⟩
    let first := mark .streamStart 0 0 0 0
    let last := mark .streamEnd 2 0 14 0
    let rs := steps o t (.start o) (Window.slide none (first :: (nested.lexemes ++ [last])))
    (nested.isCollection = true ∧ nested.IsLaid t ∧ first.kind = .streamStart ∧ last.kind = .streamEnd) ∧
      (Lexeme.ofText t).outcome = .ok (first :: (nested.lexemes ++ [last])) ∧
      (rs.flatMap Prod.snd = (nested.starts 2 (some 0)).filterMap misplaced? ∧
        rs.getLast?.map (·.1.stack) = some [level .root 0]) ∧
      (nested.starts 2 (some 0)).filterMap misplaced? =
        [⟨1, 2, "wrong indentation: expected 0 but found 1"⟩, ⟨2, 5, "wrong indentation: expected 5 but found 4"⟩] := by
  intro t o first last rs
  have hlaid : nested.IsLaid t := by decide +kernel
  exact ⟨⟨rfl, hlaid, rfl, rfl⟩, ofText_nested, steps_layout t 2 false rfl hlaid rfl rfl, by decide +kernel⟩

end Nested

end Rule.Indentation

end YamlStyle
