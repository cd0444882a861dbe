import YamlStyle.Proofs.Rule.Indentation.Block

/-!
# Sets and explicit keys

Where all keys of a mapping are marked by question marks, a key without a value stays on the levels when
another key follows it, and from then on the rule finds all keys in the wrong place (`steps_explicitKeys`).
So nothing is found in a mapping at the first column if no other key than the last is without a value, and
only then.
-/

namespace YamlStyle.Rule.Indentation

variable {o : Options} {t : Text} {w : Window} {x : Lexeme} {s : State} {n k : Nat}

/-! ## Layouts -/

/-- A key that a question mark marks, with its name, and with a colon and a value if it has one. -/
structure Entry where
  key : Lexeme
  name : Lexeme
  value : Option (Lexeme × Lexeme)

namespace Entry

def lexemes (e : Entry) : List Lexeme := e.key :: e.name :: e.value.elim [] fun (colon, x) => [colon, x]

def hasValue (e : Entry) : Bool := e.value.isSome

/-- The scalar that the entry ends with. -/
def last (e : Entry) : Lexeme := e.value.elim e.name (·.2)

/-- What is said of a key that is expected at column `n`. -/
def misplaced (n : Nat) (e : Entry) : Finding :=
  ⟨e.key.start.line + 1, e.key.start.column + 1,
    s!"wrong indentation: expected {n} but found {e.key.start.column}"⟩

end Entry

/-- A colon at the first column below a name, with a scalar on its line. -/
@[mk_iff]
structure IsValueBelow (t : Text) (name colon x : Lexeme) : Prop where
  isColon : colon.kind = .value
  aligned : colon.start.column = 0
  below : name.start.line < colon.start.line
  inline : x.IsInline t
  beside : x.start.line = colon.stop.line

instance (name colon x : Lexeme) : Decidable (IsValueBelow t name colon x) :=
  decidable_of_iff' _ (isValueBelow_iff t name colon x)

/-- The question mark is at the first column, and the name on its line. -/
@[mk_iff]
structure Entry.IsLaid (t : Text) (e : Entry) : Prop where
  isKey : e.key.kind = .key
  explicit : e.key.isExplicitKey t = true
  aligned : e.key.start.column = 0
  inline : e.name.IsInline t
  beside : e.name.start.line = e.key.stop.line
  valueBelow : ∀ p ∈ e.value, IsValueBelow t e.name p.1 p.2

instance (e : Entry) : Decidable (e.IsLaid t) := decidable_of_iff' _ (Entry.isLaid_iff t e)

/-- A block mapping from its start to its end, with all its keys marked. -/
structure ExplicitMapping where
  start : Lexeme
  entries : List Entry
  stop : Lexeme

def ExplicitMapping.lexemes (m : ExplicitMapping) : List Lexeme := m.start :: (m.entries.flatMap Entry.lexemes ++ [m.stop])

/-- The mapping is at the first column, each entry below the one before it. -/
@[mk_iff]
structure ExplicitMapping.IsLaid (t : Text) (m : ExplicitMapping) : Prop where
  isStart : m.start.kind = .blockMappingStart
  aligned : m.start.start.column = 0
  nonempty : m.entries ≠ []
  beside : ∀ e ∈ m.entries.head?, e.key.start.line = m.start.start.line
  laid : ∀ e ∈ m.entries, e.IsLaid t
  below : m.entries.Pairwise fun e e' => e.last.start.line < e'.key.start.line
  isStop : m.stop.kind = .blockEnd

instance (m : ExplicitMapping) : Decidable (m.IsLaid t) := decidable_of_iff' _ (ExplicitMapping.isLaid_iff t m)

/-! ## Levels in such a mapping -/

/-- The level of a key that a question mark marks, at the first column. -/
def explicitKey : Frame := { level .key 0 with isExplicitKey := true }

/-- The levels of the mapping with `k` keys on top of it. -/
def withKeys (k : Nat) : List Frame := List.replicate k explicitKey ++ [level .blockMapping 0]

theorem withKeys_succ (k : Nat) : withKeys (k + 1) = explicitKey :: withKeys k := rfl

/-- The state in the mapping, in steps of `n` columns. -/
structure State.HasKeys (n k : Nat) (s : State) : Prop where
  frames : s.frames = withKeys k
  step : s.step = .columns n

namespace State.HasKeys

theorem reach (h : s.HasKeys n k) (t : Text) (x : Lexeme) (isFirst : Bool) : (s.reach t x isFirst).HasKeys n k :=
  ⟨(frames_reach s t x isFirst).trans h.frames, (step_reach s t x isFirst).trans h.step⟩

theorem top_zero (h : s.HasKeys n 0) : s.top = level .blockMapping 0 := by
  rw [State.top, h.frames]
  rfl

theorem top_succ (h : s.HasKeys n (k + 1)) : s.top = explicitKey := by
  rw [State.top, h.frames]
  rfl

theorem indent_top (h : s.HasKeys n k) : s.top.indent = 0 := by
  cases k with
  | zero => rw [h.top_zero]; rfl
  | succ k => rw [h.top_succ]; rfl

theorem deeper (h : s.HasKeys n k) (found : Int) : s.deeper 0 found = ((n : Int), s) := by
  rw [State.deeper, h.step]
  simp

end State.HasKeys

/-- The keys left on the levels after a scalar that `next` follows: the end of the mapping drops them, but
another key does not. -/
def left (next : Option Lexeme) (k : Nat) : Nat := if isOneOf next [.blockEnd] then 0 else k

theorem close_withKeys (hcurr : w.curr.kind = .scalar) (hnext : isOneOf w.next [.key, .value, .blockEnd] = true)
    (root : Frame) (k : Nat) : close w root false (withKeys k) = (withKeys (left w.next k), true) := by
  have hblock : close w root false (withKeys 0) = (withKeys 0, true) := close_block (.inl rfl) (.inl (by simp [hcurr]))
  obtain ⟨next, hw, hkind⟩ := (Option.any_eq_true _ _).1 hnext
  have hkey (k : Nat) : close w root false (withKeys (k + 1)) =
      if next.kind = .blockEnd then close w root false (withKeys k) else (withKeys (k + 1), true) := by
    rw [withKeys_succ]
    conv_lhs => unfold close
    have hkinds : next.kind = .key ∨ next.kind = .value ∨ next.kind = .blockEnd := by simpa using hkind
    rcases hkinds with h | h | h <;> simp [explicitKey, level, isEndOf, isOneOf, hw, h]
  rw [left, hw]
  by_cases hend : next.kind = .blockEnd
  · rw [if_pos (by simp [isOneOf, hend])]
    induction k with
    | zero => exact hblock
    | succ k ih => rw [hkey, if_pos hend, ih]
  · rw [if_neg (by simp [isOneOf, hend])]
    cases k with
    | zero => exact hblock
    | succ k => rw [hkey, if_neg hend]

/-! ## One lexeme of such a mapping -/

variable {e : Entry} {ys : List Lexeme}

/-- With a key left on the levels, another key is expected a step deeper. -/
theorem checkColumn_key (he : e.IsLaid t) (hn : 0 < n) (hs : s.HasKeys n k) (hline : k ≠ 0 → s.line ≤ e.key.start.line) :
    checkColumn e.key s = (s, if k = 0 then [] else [e.misplaced n]) := by
  have hend : e.key.kind.isFlowEnd = false := by simp [he.isKey, LexemeKind.isFlowEnd]
  cases k with
  | zero =>
    refine checkColumn_of_column hend ?_ ?_
    · rw [hs.top_zero]
      rfl
    · rw [hs.indent_top, he.aligned]
      rfl
  | succ k =>
    have hfirst : s.isFirst e.key = true := by
      have hreached := hline (Nat.succ_ne_zero k)
      simp only [State.isFirst, isVisible, he.isKey, Bool.true_and, decide_eq_true_eq]
      omega
    have hexpected : s.expected e.key = ((n : Int), s) := by
      rw [State.expected, if_neg (by simp [hend]), hs.top_succ]
      simpa [explicitKey, level, he.isKey] using hs.deeper e.key.start.column
    have hne : ((e.key.start.column : Int) != (n : Int)) = true := by
      have haligned := he.aligned
      simp only [bne_iff_ne]
      omega
    have hwrong : wrong (e.key.start.line + 1) n e.key.start.column = e.misplaced n := by
      rw [wrong, if_neg (Int.not_lt.2 (Int.natCast_nonneg n))]
      rfl
    rw [checkColumn, if_pos hfirst, hexpected]
    simpa [hne] using hwrong

/-- A key goes on top of the levels that are left. -/
theorem check_key (he : e.IsLaid t) (hn : 0 < n) (hs : s.HasKeys n k) (hline : k ≠ 0 → s.line ≤ e.key.start.line)
    (prev following : Option Lexeme) :
    ∃ s', check o t ⟨prev, e.key, some e.name, following⟩ s = (s', if k = 0 then [] else [e.misplaced n]) ∧
      s'.HasKeys n (k + 1) ∧ s'.line = e.key.stop.line + 1 := by
  have hreach := hs.reach t e.key (s.isFirst e.key)
  have hopen : (s.reach t e.key (s.isFirst e.key)).open? t ⟨prev, e.key, some e.name, following⟩ =
      some ((s.reach t e.key (s.isFirst e.key)).push explicitKey) := by
    simp only [State.open?, he.isKey, he.explicit, hreach.indent_top]
    rfl
  have hclose : close ⟨prev, e.key, some e.name, following⟩ (s.reach t e.key (s.isFirst e.key)).root false
      (explicitKey :: withKeys k) = (withKeys (k + 1), true) := by
    unfold close
    simp [explicitKey, level, isEndOf, isOneOf, he.inline.kind, withKeys_succ]
  rw [← hreach.frames] at hclose
  refine ⟨_, check_eq_of (by simp [he.isKey]) (checkColumn_key he hn hs hline) hopen hclose, ⟨rfl, hreach.step⟩, ?_⟩
  dsimp only [State.push]
  rw [line_reach (by simp [isVisible, he.isKey]), Lexeme.realEndLine, he.isKey]
  rfl

theorem passes_keyName (he : e.IsLaid t) (hnext : isOneOf ys[0]? [.key, .value, .blockEnd] = true) :
    Passes o t (fun _ s => s.HasKeys n k ∧ s.line = e.key.stop.line + 1) [e.name] ys []
      (fun prev s => prev = some e.name ∧ s.HasKeys n (left ys[0]? k) ∧ s.line = e.name.start.line + 1) := by
  refine passes_one fun prev s ⟨hs, hline⟩ => ?_
  have hreach := hs.reach t e.name (s.isFirst e.name)
  have hreached : (e.name.start.line : Int) < s.line := by
    rw [hline, he.beside]
    omega
  refine ⟨_, check_eq_of (fun _ => he.inline.line) (checkColumn_of_lt hreached)
    (by simp [State.open?, he.inline.kind]) ?_, rfl, ⟨rfl, hreach.step⟩, ?_⟩
  · rw [hreach.frames]
    exact close_withKeys he.inline.kind hnext _ k
  · rw [← he.inline.realEndLine]
    exact line_reach (by simp [isVisible, he.inline.kind, he.inline.value]) s _

section Value

variable {name colon : Lexeme}

/-- A value is expected a step deeper than its key. -/
theorem openValue_explicit (hx : IsValueBelow t name colon x) (hs : s.HasKeys n (k + 1)) (w : Window) (prev : Lexeme) :
    s.openValue w prev x = s.push (level .value n) := by
  have hstart : valueStart w prev x = x := by
    unfold valueStart
    split <;> simp [hx.inline.kind, LexemeKind.isProperty]
  have hdeeper := hs.deeper x.start.column
  unfold State.openValue
  rw [hstart, hs.top_succ]
  simp [hx.inline.kind, explicitKey, level, hdeeper]

theorem passes_colonBelow (hx : IsValueBelow t name colon x) :
    Passes o t (fun prev s => prev = some name ∧ s.HasKeys n (k + 1) ∧ s.line = name.start.line + 1) [colon] (x :: ys) []
      (fun _ s => s.frames = level .value n :: withKeys (k + 1) ∧ s.step = .columns n ∧
        s.line = colon.stop.line + 1) := by
  refine passes_one fun prev s ⟨hprev, hs, _⟩ => ?_
  subst hprev
  have hreach := hs.reach t colon (s.isFirst colon)
  have hcolumn : checkColumn colon s = (s, []) := by
    have hexpected : s.expected colon = ((colon.start.column : Int), s) := by
      rw [State.expected, hs.top_succ, hx.aligned]
      simp [hx.isColon, LexemeKind.isFlowEnd, explicitKey, level]
    rw [checkColumn, hexpected]
    split <;> simp
  have hopen : (s.reach t colon (s.isFirst colon)).open? t ⟨some name, colon, some x, ys[0]?⟩ =
      some ((s.reach t colon (s.isFirst colon)).push (level .value n)) := by
    simp only [State.open?, hx.isColon, hreach.top_succ]
    rw [openValue_explicit hx hreach]
    rfl
  refine ⟨_, check_eq_of (by simp [hx.isColon]) hcolumn hopen ?_, rfl,
    hreach.step, ?_⟩
  · dsimp only [State.push]
    rw [hreach.frames]
    unfold close
    simp [level, isEndOf, hx.isColon]
  · dsimp only [State.push]
    rw [line_reach (by simp [isVisible, hx.isColon]), Lexeme.realEndLine, hx.isColon]
    rfl

theorem passes_valueBeside (hx : IsValueBelow t name colon x) (hnext : isOneOf ys[0]? [.key, .value, .blockEnd] = true) :
    Passes o t
      (fun _ s => s.frames = level .value n :: withKeys (k + 1) ∧ s.step = .columns n ∧ s.line = colon.stop.line + 1)
      [x] ys [] (fun _ s => s.HasKeys n (left ys[0]? k) ∧ s.line = x.start.line + 1) := by
  refine passes_one fun prev s ⟨hframes, hstep, hline⟩ => ?_
  have hreached : (x.start.line : Int) < s.line := by
    rw [hline, hx.beside]
    omega
  have hopen : (s.reach t x (s.isFirst x)).open? t ⟨prev, x, ys[0]?, ys[1]?⟩ = some (s.reach t x (s.isFirst x)) := by
    simp [State.open?, hx.inline.kind]
  have hclose : close ⟨prev, x, ys[0]?, ys[1]?⟩ (s.reach t x (s.isFirst x)).root false
      (level .value n :: explicitKey :: withKeys k) = (withKeys (left ys[0]? k), true) := by
    have hkeys := close_withKeys (w := ⟨prev, x, ys[0]?, ys[1]?⟩) hx.inline.kind hnext (s.reach t x (s.isFirst x)).root k
    conv_lhs => unfold close
    simpa [level, isEndOf, hx.inline.kind, LexemeKind.isProperty, explicitKey] using hkeys
  rw [← withKeys_succ, ← hframes, ← frames_reach s t x (s.isFirst x)] at hclose
  refine ⟨_, check_eq_of (fun _ => hx.inline.line) (checkColumn_of_lt hreached) hopen hclose,
    ⟨rfl, (step_reach s t x _).trans hstep⟩, ?_⟩
  rw [← hx.inline.realEndLine]
  exact line_reach (by simp [isVisible, hx.inline.kind, hx.inline.value]) s _

end Value

/-! ## Whole mappings -/

theorem isOneOf_mono {x : Option Lexeme} {kinds kinds' : List LexemeKind} (h : isOneOf x kinds = true)
    (hkinds : ∀ kind ∈ kinds, kind ∈ kinds') : isOneOf x kinds' = true := by
  obtain ⟨x, rfl, hx⟩ := (Option.any_eq_true _ _).1 h
  exact List.contains_iff_mem.2 (hkinds _ (List.contains_iff_mem.1 hx))

/-- An entry leaves its key on the levels if it has no value and does not end the mapping. -/
theorem passes_entry (he : e.IsLaid t) (hn : 0 < n) (hnext : isOneOf ys[0]? [.key, .blockEnd] = true) :
    Passes o t (fun _ s => s.HasKeys n k ∧ (k ≠ 0 → s.line ≤ e.key.start.line)) e.lexemes ys
      (if k = 0 then [] else [e.misplaced n])
      (fun _ s => s.HasKeys n (left ys[0]? (if e.hasValue then k else k + 1)) ∧ s.line = e.last.start.line + 1) := by
  have hnext' : isOneOf ys[0]? [.key, .value, .blockEnd] = true := isOneOf_mono hnext (by decide)
  rw [← List.append_nil (if k = 0 then _ else _)]
  refine Passes.cons (Q := fun _ s => s.HasKeys n (k + 1) ∧ s.line = e.key.stop.line + 1)
    (passes_one fun prev s ⟨hs, hline⟩ => check_key he hn hs hline prev _) ?_
  cases hvalue : e.value with
  | none =>
    have hlast : e.last = e.name := by rw [Entry.last, hvalue]; rfl
    have hbare : e.hasValue = false := by rw [Entry.hasValue, hvalue]; rfl
    rw [hlast, hbare]
    intro prev s hs
    obtain ⟨prev', s', rs, hsteps, hfound, -, hs', hline⟩ := passes_keyName (o := o) he hnext' prev s hs
    exact ⟨prev', s', rs, hsteps, hfound, hs', hline⟩
  | some p =>
    obtain ⟨colon, x⟩ := p
    have hx : IsValueBelow t e.name colon x := he.valueBelow _ hvalue
    have hlast : e.last = x := by rw [Entry.last, hvalue]; rfl
    have hfull : e.hasValue = true := by rw [Entry.hasValue, hvalue]; rfl
    rw [hlast, hfull]
    have hcolon : isOneOf (colon :: x :: ys)[0]? [.key, .value, .blockEnd] = true := by simp [isOneOf, hx.isColon]
    have hleft : left (colon :: x :: ys)[0]? (k + 1) = k + 1 := by simp [left, isOneOf, hx.isColon]
    have hname := passes_keyName (o := o) (n := n) (k := k + 1) he hcolon
    rw [hleft] at hname
    exact hname.cons ((passes_colonBelow hx).cons (passes_valueBeside hx hnext'))

/-- The entries whose keys are found in the wrong place: those after the first one without a value. -/
def misplacedEntries (es : List Entry) : List Entry := (es.dropWhile Entry.hasValue).tail

/-- The number of entries without a value. -/
def bare (es : List Entry) : Nat := es.countP fun e => !e.hasValue

theorem bare_concat (es : List Entry) (e : Entry) :
    bare (es ++ [e]) = if e.hasValue then bare es else bare es + 1 := by
  rw [bare, List.countP_append, List.countP_singleton]
  cases e.hasValue <;> rfl

theorem misplacedEntries_concat (es : List Entry) (e : Entry) :
    misplacedEntries (es ++ [e]) = misplacedEntries es ++ if bare es = 0 then [] else [e] := by
  induction es with
  | nil =>
    unfold misplacedEntries
    rw [List.nil_append, List.dropWhile_cons]
    split <;> rfl
  | cons a es ih =>
    unfold misplacedEntries bare at ih ⊢
    rw [List.cons_append, List.dropWhile_cons, List.dropWhile_cons, List.countP_cons]
    cases a.hasValue with
    | true => exact ih
    | false => simp

theorem bare_eq_zero_iff {es : List Entry} : bare es = 0 ↔ ∀ e ∈ es, e.hasValue := by
  simp [bare]

/-- All keys are found in the right place if none of them but the last is without a value, and only then. -/
theorem misplacedEntries_eq_nil_iff {es : List Entry} : misplacedEntries es = [] ↔ ∀ e ∈ es.dropLast, e.hasValue := by
  obtain rfl | ⟨es, e, rfl⟩ := List.eq_nil_or_concat' es
  · simp [misplacedEntries]
  · rw [misplacedEntries_concat, List.append_eq_nil_iff, List.dropLast_concat, ← bare_eq_zero_iff]
    by_cases h : bare es = 0
    · have hnil : misplacedEntries es = [] := by
        rw [misplacedEntries, List.dropWhile_eq_nil_iff.2 (bare_eq_zero_iff.1 h)]
        rfl
      simp [h, hnil]
    · simp [h]

theorem left_zero (next : Option Lexeme) : left next 0 = 0 := by
  rw [left, ite_self]

/-- The line of a key has not been reached by the entries above it. -/
theorem line_le_of_below {es : List Entry} (hline : ∀ e' ∈ es.getLast?, s.line = e'.last.start.line + 1)
    (hbelow : ∀ e' ∈ es, e'.last.start.line < e.key.start.line) (hbare : bare es ≠ 0) : s.line ≤ e.key.start.line := by
  have hne : es ≠ [] := by
    rintro rfl
    exact hbare rfl
  have habove := hbelow (es.getLast hne) (List.getLast_mem hne)
  rw [hline _ (List.getLast?_eq_some_getLast hne)]
  omega

/-- Whether another key follows or the mapping ends. -/
theorem passes_entries {es : List Entry} (hes : ∀ e ∈ es, e.IsLaid t)
    (hbelow : es.Pairwise fun e e' => e.last.start.line < e'.key.start.line) (hn : 0 < n)
    (hnext : isOneOf ys[0]? [.key, .blockEnd] = true) :
    Passes o t (fun _ s => s.HasKeys n 0) (es.flatMap Entry.lexemes) ys
      ((misplacedEntries es).map (·.misplaced n))
      (fun _ s => s.HasKeys n (left ys[0]? (bare es)) ∧ ∀ e ∈ es.getLast?, s.line = e.last.start.line + 1) := by
  induction es using List.reverseRecOn generalizing ys with
  | nil =>
    intro prev s hs
    refine ⟨prev, s, [], rfl, rfl, ?_, by simp⟩
    rw [bare, List.countP_nil, left_zero]
    exact hs
  | append_singleton es e ih =>
    obtain ⟨hes, he⟩ := List.forall_mem_append.1 hes
    replace he := he e (List.mem_singleton_self e)
    obtain ⟨hbelow, -, hlast⟩ := List.pairwise_append.1 hbelow
    have hkey : isOneOf (e.lexemes ++ ys)[0]? [.key] = true := by simp [Entry.lexemes, isOneOf, he.isKey]
    have hleft : left (e.lexemes ++ ys)[0]? (bare es) = bare es := by simp [left, Entry.lexemes, isOneOf, he.isKey]
    have hbefore := ih hes hbelow (isOneOf_mono hkey (by decide))
    rw [hleft] at hbefore
    have hentry : Passes o t
        (fun _ s => s.HasKeys n (bare es) ∧ ∀ e' ∈ es.getLast?, s.line = e'.last.start.line + 1) e.lexemes ys
        (if bare es = 0 then [] else [e.misplaced n])
        (fun _ s => s.HasKeys n (left ys[0]? (bare (es ++ [e]))) ∧
          ∀ e' ∈ (es ++ [e]).getLast?, s.line = e'.last.start.line + 1) := by
      rintro prev s ⟨hs, hline⟩
      have hreached := line_le_of_below hline fun e' he' => hlast e' he' e (List.mem_singleton_self e)
      obtain ⟨prev', s', rs, hsteps, hfound, hs', hline'⟩ := passes_entry he hn hnext prev s ⟨hs, hreached⟩
      refine ⟨prev', s', rs, hsteps, hfound, ?_, ?_⟩
      · rw [bare_concat]
        exact hs'
      · simpa using hline'
    have hfound : (misplacedEntries (es ++ [e])).map (·.misplaced n) =
        (misplacedEntries es).map (·.misplaced n) ++ if bare es = 0 then [] else [e.misplaced n] := by
      rw [misplacedEntries_concat, List.map_append]
      split <;> rfl
    rw [hfound, List.flatMap_append, List.flatMap_singleton]
    exact hbefore.append hentry

/-- The mapping starts where it is expected. -/
theorem check_first (hx : x.kind = .blockMappingStart) (hcolumn : x.start.column = 0) {y : Lexeme} (hkey : y.kind = .key)
    (hline : y.start.line = x.start.line) (sequences : Sequences) (checkMultiLine : Bool)
    (prev following : Option Lexeme) :
    let o : Options := ⟨.columns n, sequences, checkMultiLine⟩
    ∃ s', check o t ⟨prev, x, some y, following⟩ (.start o) = (s', []) ∧ s'.HasKeys n 0 := by
  intro o
  have hchecked : checkColumn x (.start o) = (.start o, []) :=
    checkColumn_of_column (by simp [hx, LexemeKind.isFlowEnd]) rfl (by rw [hcolumn]; rfl)
  have hopen : ((State.start o).reach t x ((State.start o).isFirst x)).open? t ⟨prev, x, some y, following⟩ =
      some (((State.start o).reach t x ((State.start o).isFirst x)).push (level .blockMapping 0)) := by
    simp [State.open?, hx, hkey, hline, hcolumn, level]
  refine ⟨_, check_eq_of (by simp [hx]) hchecked hopen ?_,
    ⟨rfl, step_reach (.start o) t x _⟩⟩
  dsimp only [State.push]
  rw [frames_reach]
  exact close_block (.inl rfl) (.inl (by simp [hx]))

/-- The end of the mapping closes it. -/
theorem check_last (hx : x.kind = .blockEnd) (hs : s.HasKeys n 0) (prev next nextnext : Option Lexeme) :
    ∃ s', check o t ⟨prev, x, next, nextnext⟩ s = (s', []) ∧ s'.frames = [] := by
  have hopen : (s.reach t x (s.isFirst x)).open? t ⟨prev, x, next, nextnext⟩ = some (s.reach t x (s.isFirst x)) := by
    simp [State.open?, hx]
  refine ⟨_, check_eq_of (by simp [hx]) (checkColumn_of_invisible (by simp [isVisible, hx])) hopen ?_, rfl⟩
  rw [frames_reach, hs.frames]
  show close _ _ _ [level .blockMapping 0] = _
  unfold close
  simp [isEndOf, level, hx, close]

theorem length_steps (o : Options) (t : Text) (s : State) (prev : Option Lexeme) (xs : List Lexeme) :
    (steps o t s (Window.slide prev xs)).length = xs.length := by
  induction xs generalizing s prev with
  | nil => rfl
  | cons x xs ih => exact congrArg (· + 1) (ih _ _)

/-- What lies on the levels when a key has been seen. -/
theorem frames_at_key {before after : List Entry} (hlaid : ∀ e' ∈ before ++ e :: after, e'.IsLaid t)
    (hbelow : (before ++ e :: after).Pairwise fun e e' => e.last.start.line < e'.key.start.line) (hn : 0 < n)
    (hs : s.HasKeys n 0) (prev : Option Lexeme) (ys : List Lexeme) :
    (steps o t s (Window.slide prev ((before ++ e :: after).flatMap Entry.lexemes ++ ys)))[
        (before.flatMap Entry.lexemes).length]?.map (·.1.frames) = some (explicitKey :: withKeys (bare before)) := by
  obtain ⟨hbefore, he⟩ := List.forall_mem_append.1 hlaid
  replace he : e.IsLaid t := he e (List.mem_cons_self ..)
  obtain ⟨hbelow, -, hlast⟩ := List.pairwise_append.1 hbelow
  obtain ⟨zs, hzs⟩ : ∃ zs, (before ++ e :: after).flatMap Entry.lexemes ++ ys =
      before.flatMap Entry.lexemes ++ e.key :: e.name :: zs := by
    simp [Entry.lexemes]
  have hnext : isOneOf (e.key :: e.name :: zs)[0]? [.key, .blockEnd] = true := by simp [isOneOf, he.isKey]
  have hleft : left (e.key :: e.name :: zs)[0]? (bare before) = bare before := by simp [left, isOneOf, he.isKey]
  obtain ⟨prev', s₁, rs, hsteps, -, hs₁, hline⟩ := passes_entries (o := o) hbefore hbelow hn hnext prev s hs
  rw [hleft] at hs₁
  have hreached := line_le_of_below hline fun e' he' => hlast e' he' e (List.mem_cons_self ..)
  obtain ⟨s₂, hcheck, hs₂, -⟩ := check_key (o := o) he hn hs₁ hreached prev' (e.key :: e.name :: zs)[2]?
  have hlength : rs.length = (before.flatMap Entry.lexemes).length := by
    have h := congrArg List.length hsteps
    rw [List.length_append, length_steps, length_steps, List.length_append] at h
    omega
  rw [hzs, hsteps, ← hlength, List.getElem?_append_right (le_refl _), Nat.sub_self, steps_slide_cons hcheck,
    List.getElem?_cons_zero, Option.map_some, hs₂.frames, withKeys_succ]

variable {m : ExplicitMapping} {first last : Lexeme}

/-- Up to the first entry nothing is found. -/
theorem steps_first (hlaid : m.IsLaid t) (hfirst : first.kind = .streamStart) (sequences : Sequences)
    (checkMultiLine : Bool) (ys : List Lexeme) :
    let o : Options := ⟨.columns n, sequences, checkMultiLine⟩
    ∃ s : State, s.HasKeys n 0 ∧ steps o t (.start o) (Window.slide none (first :: (m.lexemes ++ ys))) =
      (.start o, []) :: (s, []) ::
        steps o t s (Window.slide (some m.start) (m.entries.flatMap Entry.lexemes ++ m.stop :: ys)) := by
  intro o
  obtain ⟨e, es, hes⟩ := List.exists_cons_of_ne_nil hlaid.nonempty
  obtain ⟨s, hcheck, hs⟩ := check_first (t := t) (n := n) hlaid.isStart hlaid.aligned
    (hlaid.laid e (by simp [hes])).isKey (hlaid.beside e (by simp [hes])) sequences checkMultiLine (some first)
    (some e.name)
  obtain ⟨xs, hxs⟩ : ∃ xs, m.entries.flatMap Entry.lexemes ++ m.stop :: ys = e.key :: e.name :: xs := by
    rw [hes]
    exact ⟨_, rfl⟩
  refine ⟨s, hs, ?_⟩
  rw [steps_slide_cons (check_of_stream (.inl hfirst) rfl), ExplicitMapping.lexemes, List.cons_append,
    List.append_assoc, List.singleton_append, hxs, steps_slide_cons hcheck]

/-- From the first entry to the end. -/
theorem steps_last (hlaid : m.IsLaid t) (hn : 0 < n) (hlast : last.kind = .streamEnd) (hs : s.HasKeys n 0)
    (prev : Option Lexeme) :
    let rs := steps o t s (Window.slide prev (m.entries.flatMap Entry.lexemes ++ [m.stop, last]))
    rs.flatMap Prod.snd = (misplacedEntries m.entries).map (·.misplaced n) ∧
      rs.getLast?.map (·.1.frames) = some [] := by
  intro rs
  have hstop : isOneOf [m.stop, last][0]? [.key, .blockEnd] = true := by simp [isOneOf, hlaid.isStop]
  have hleft : left [m.stop, last][0]? (bare m.entries) = 0 := by simp [left, isOneOf, hlaid.isStop]
  obtain ⟨prev', s₁, rs', hsteps, hfound, hs₁, -⟩ := passes_entries hlaid.laid hlaid.below hn hstop prev s hs
  rw [hleft] at hs₁
  obtain ⟨s₂, hcheck, hframes⟩ := check_last (o := o) (t := t) hlaid.isStop hs₁ prev' [last][0]? [last][1]?
  have hrs : rs = rs' ++ [(s₂, []), (s₂, [])] := by
    dsimp only [rs]
    rw [hsteps, steps_slide_cons hcheck, steps_slide_cons (check_of_stream (.inr hlast) hframes), Window.slide, steps]
  rw [hrs]
  exact ⟨by simp [hfound], by simp [hframes]⟩

/-- In a mapping at the first column whose keys are all marked, the rule finds those keys in the wrong place
that stand after an entry without a value, and it finds nothing else. When it has seen a key, there are below
the level of that key the levels of all the keys before it that have no value, and then that of the mapping.
In the end all levels are closed. -/
theorem steps_explicitKeys (t : Text) (hn : 0 < n) (sequences : Sequences) (checkMultiLine : Bool)
    {m : ExplicitMapping} (hlaid : m.IsLaid t) {first last : Lexeme} (hfirst : first.kind = .streamStart)
    (hlast : last.kind = .streamEnd) :
    let o : Options := ⟨.columns n, sequences, checkMultiLine⟩
    let rs := steps o t (.start o) (Window.slide none (first :: (m.lexemes ++ [last])))
    rs.flatMap Prod.snd = (misplacedEntries m.entries).map (·.misplaced n) ∧
      (rs.flatMap Prod.snd = [] ↔ ∀ e ∈ m.entries.dropLast, e.hasValue) ∧
      (∀ before e after, m.entries = before ++ e :: after →
        rs[(first :: m.start :: before.flatMap Entry.lexemes).length]?.map (·.1.frames) =
          some (explicitKey :: withKeys (bare before))) ∧
      rs.getLast?.map (·.1.frames) = some [] := by
  intro o rs
  obtain ⟨s₀, hs₀, hrs⟩ := steps_first (n := n) hlaid hfirst sequences checkMultiLine [last]
  obtain ⟨hfound, hclosed⟩ := steps_last (o := o) hlaid hn hlast hs₀ (some m.start)
  have hfindings : rs.flatMap Prod.snd = (misplacedEntries m.entries).map (·.misplaced n) := by
    dsimp only [rs, o]
    rw [hrs]
    exact hfound
  refine ⟨hfindings, ?_, fun before e after hsplit => ?_, ?_⟩
  · rw [hfindings, List.map_eq_nil_iff]
    exact misplacedEntries_eq_nil_iff
  · have hentries := hlaid.laid
    have hbelow := hlaid.below
    rw [hsplit] at hentries hbelow
    dsimp only [rs, o]
    rw [hrs, List.length_cons, List.length_cons, List.getElem?_cons_succ, List.getElem?_cons_succ, hsplit]
    exact frames_at_key hentries hbelow hn hs₀ _ _
  · obtain ⟨r, hr, hframes⟩ := Option.map_eq_some_iff.1 hclosed
    dsimp only [rs, o]
    rw [hrs, List.getLast?_cons, List.getLast?_cons, hr, Option.map_some]
    exact congrArg some hframes

section Mixed

/-- A set of two keys. -/
def pair : ExplicitMapping where
  start := mark .blockMappingStart 0 0 0 0
  entries := [⟨mark .key 0 0 0 1, plain 0 2 2 "a", none⟩, ⟨mark .key 1 0 4 1, plain 1 2 6 "b", none⟩]
  stop := mark .blockEnd 2 0 8 0

/-- A key, one with a value, and another one. -/
def mixed : ExplicitMapping where
  start := mark .blockMappingStart 0 0 0 0
  entries := [⟨mark .key 0 0 0 1, plain 0 2 2 "a", none⟩,
    ⟨mark .key 1 0 4 1, plain 1 2 6 "b", some (mark .value 2 0 8 1, plain 2 2 10 "v")⟩,
    ⟨mark .key 3 0 12 1, plain 3 2 14 "c", none⟩]
  stop := mark .blockEnd 4 0 16 0

theorem steps_explicitKeys_mixed :
    let t : Text := "? a\n? b\n: v\n? c\n".toList
    let o : Options := ⟨.columns 2, .indented, false⟩
    let first := mark .streamStart 0 0 0 0
    let last := mark .streamEnd 4 0 16 0
    let rs := steps o t (.start o) (Window.slide none (first :: (mixed.lexemes ++ [last])))
    (0 < 2 ∧ mixed.IsLaid t ∧ first.kind = .streamStart ∧ last.kind = .streamEnd) ∧
      (rs.flatMap Prod.snd = (misplacedEntries mixed.entries).map (·.misplaced 2) ∧
        (rs.flatMap Prod.snd = [] ↔ ∀ e ∈ mixed.entries.dropLast, e.hasValue) ∧
        (∀ before e after, mixed.entries = before ++ e :: after →
          rs[(first :: mixed.start :: before.flatMap Entry.lexemes).length]?.map (·.1.frames) =
            some (explicitKey :: withKeys (bare before))) ∧
        rs.getLast?.map (·.1.frames) = some []) ∧
      (misplacedEntries mixed.entries).map (·.misplaced 2) =
        [⟨2, 1, "wrong indentation: expected 2 but found 0"⟩, ⟨4, 1, "wrong indentation: expected 2 but found 0"⟩] := by
  intro t o first last rs
  have hn : 0 < 2 := by decide
  have hlaid : mixed.IsLaid t := by decide
  exact ⟨⟨hn, hlaid, rfl, rfl⟩, steps_explicitKeys t hn .indented false hlaid rfl rfl, by decide⟩

theorem ofText_pair : (Lexeme.ofText "? a\n? b\n".toList).outcome =
    .ok (mark .streamStart 0 0 0 0 :: (pair.lexemes ++ [mark .streamEnd 2 0 8 0])) := by
  rw [Lexeme.outcome_ofText_eq_reckoned]
  decide +kernel

/-- In a set the key after the first one is found in the wrong place, with the first one below it. -/
theorem steps_pair :
    let t : Text := "? a\n? b\n".toList
    let o : Options := ⟨.columns 2, .indented, false⟩
    let xs := mark .streamStart 0 0 0 0 :: (pair.lexemes ++ [mark .streamEnd 2 0 8 0])
    let rs := steps o t (.start o) (Window.slide none xs)
    (Lexeme.ofText t).outcome = .ok xs ∧ pair.IsLaid t ∧
      rs.flatMap Prod.snd = [⟨2, 1, "wrong indentation: expected 2 but found 0"⟩] ∧
      rs[4]?.map (·.1.frames) = some [explicitKey, explicitKey, level .blockMapping 0] := by
  intro t o xs rs
  exact ⟨ofText_pair, by decide, by decide, by decide⟩

end Mixed

end YamlStyle.Rule.Indentation
