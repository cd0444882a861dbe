import YamlStyle.Proofs.Journal
import YamlStyle.Proofs.Lexeme.Extents
import YamlStyle.Proofs.Lexeme.Reckoning
import YamlStyle.Proofs.Text.Lines
import YamlStyle.Rule.Indentation

/-!
# The later lines of a scalar

Of a scalar that goes on over lines, those lines are checked that start strictly inside it and are
not blank. All of them are compared with one column, and each that is indented otherwise is reported
in its place (`checkScalar_eq`).
-/

namespace YamlStyle.Rule.Indentation

variable {t : Text} {x : Lexeme}

/-! ## Lines inside a lexeme -/

/-- The lines that start strictly inside a lexeme. -/
def linesInside (t : Text) (x : Lexeme) : List Line :=
  (Line.ofText t).filter fun l => x.start.offset < l.start && l.start < x.stop.offset

/-- Those of them that are not blank, each with the number of spaces that it starts with. -/
def indentsInside (t : Text) (x : Lexeme) : List (Line × Nat) :=
  (linesInside t x).filterMap fun l => (l.indent? t).map (l, ·)

theorem start_linesInside (h : x.IsIn t) :
    (linesInside t x).map (·.start) = LineIndex.startsAfter x.start.offset (t.slice x.start.offset (x.stop.offset - 1)) :=
  Line.filter_start_ofText (Nat.le_trans h.ordered h.bound) h.bound

/-- The lines inside a lexeme follow the line that it starts on. -/
theorem number_linesInside (h : x.IsIn t) {i : Nat} {l : Line} (hl : (linesInside t x)[i]? = some l) :
    l.number = x.start.line + 1 + (i + 1) := by
  have hmem : l ∈ Line.ofText t := (List.mem_filter.1 (List.mem_of_getElem? hl)).1
  have hstart : (LineIndex.startsAfter x.start.offset (t.slice x.start.offset (x.stop.offset - 1)))[i]? = some l.start := by
    rw [← start_linesInside h, List.getElem?_map, hl]
    rfl
  have hmark := LineIndex.mark_of_startsAfter (List.take_prefix _ _) hstart
  have hin := Line.isIn_of_mem_ofText hmem
  rw [hin.mark, ← h.start, Mark.mk.injEq] at hmark
  have hnumber := hin.number
  omega

theorem number_gt_of_mem_linesInside (h : x.IsIn t) {l : Line} (hl : l ∈ linesInside t x) : x.start.line + 1 < l.number := by
  obtain ⟨i, hi⟩ := List.getElem?_of_mem hl
  have hnumber := number_linesInside h hi
  omega

/-- A lexeme that ends on the line it starts on has no lines inside. -/
theorem linesInside_eq_nil (h : x.IsIn t) (hline : x.start.line = x.stop.line) : linesInside t x = [] := by
  rw [List.eq_nil_iff_forall_not_mem]
  intro l hl
  have hnumber := number_gt_of_mem_linesInside h hl
  obtain ⟨hmem, hinside⟩ := List.mem_filter.1 hl
  rw [Bool.and_eq_true, decide_eq_true_eq, decide_eq_true_eq] at hinside
  have hle := LineIndex.line_mark_mono t (Nat.le_of_lt hinside.2)
  rw [(Line.isIn_of_mem_ofText hmem).mark, ← h.stop, ← hline] at hle
  dsimp only at hle
  omega

/-- What is looked at are the lines inside. -/
theorem laterLines_eq (h : x.IsIn t) (hstop : 0 < x.stop.offset) :
    laterLines t x = (linesInside t x).map fun l => (l.number - (x.start.line + 1), l.start) := by
  apply List.ext_getElem?
  intro i
  rw [laterLines, if_neg (Nat.ne_of_gt hstop), ← start_linesInside h]
  simp only [List.getElem?_map, List.getElem?_zipIdx]
  cases hl : (linesInside t x)[i]? with
  | none => rfl
  | some l =>
    have hnumber : l.number - (x.start.line + 1) = i + 1 := by have := number_linesInside h hl; omega
    simp [hnumber]

/-! ## Indentation -/

/-- A line is blank if nothing is left without the spaces it starts with. -/
theorem spacesAt?_eq_bind (t : Text) (start : Nat) :
    spacesAt? t start = ((t.drop start).dropWhile (· == ' ')).head?.bind fun c =>
      if c == '\r' || c == '\n' then none else some ((t.drop start).takeWhile (· == ' ')).length := by
  let rest := t.drop start
  have hdrop : rest.drop (rest.takeWhile (· == ' ')).length = rest.dropWhile (· == ' ') :=
    calc rest.drop (rest.takeWhile (· == ' ')).length
        = (rest.takeWhile (· == ' ') ++ rest.dropWhile (· == ' ')).drop (rest.takeWhile (· == ' ')).length := by
          rw [List.takeWhile_append_dropWhile]
      _ = rest.dropWhile (· == ' ') := List.drop_left
  rw [spacesAt?, ← List.head?_drop, hdrop]
  cases (rest.dropWhile (· == ' ')).head? <;> rfl

/-- What is seen of a line from where it starts is its indentation. -/
theorem spacesAt?_start {l : Line} (h : l ∈ Line.ofText t) : spacesAt? t l.start = l.indent? t := by
  have hin := Line.isIn_of_mem_ofText h
  have hunbroken : '\n' ∉ l.content t := hin.unbroken
  rw [spacesAt?_eq_bind, hin.drop_start, Line.indent?, List.dropWhile_append, List.takeWhile_append]
  cases hcontent : (l.content t).dropWhile (· == ' ') with
  | nil => rcases Line.isEnd_of_mem_ofText h with hend | ⟨r, hend⟩ | ⟨r, hend⟩ <;> simp [hend]
  | cons c r =>
    have hmem : c ∈ (l.content t).dropWhile (· == ' ') := by rw [hcontent]; exact List.mem_cons_self
    have hc : c ≠ '\n' := fun hc => hunbroken (hc ▸ (List.dropWhile_sublist _).subset hmem)
    have hlength : ((l.content t).takeWhile (· == ' ')).length ≠ (l.content t).length := by
      have := congrArg List.length (List.takeWhile_append_dropWhile (p := (· == ' ')) (l := l.content t))
      rw [List.length_append, hcontent, List.length_cons] at this
      omega
    rw [if_neg hlength]
    simp [hc]

/-! ## The column of a scalar -/

/-- The column from which the lines of a block scalar are one step deeper. -/
def State.scalarBase (s : State) (x : Lexeme) : Int :=
  match s.top.kind, s.frames with
  | .entry, _ | .key, _ => x.start.column
  | .value, _ :: below =>
    if s.line < x.start.line + 1 then s.top.indent
    else if (below.headD s.root).isExplicitKey then x.start.column
    else (below.headD s.root).indent
  | _, _ => s.top.indent

/-- The column at which all later lines of a scalar should start, where the first of them that is not blank
starts at `found`. -/
def State.scalarColumn (s : State) (x : Lexeme) (found : Int) : Int :=
  match x.style with
  | some .plain => x.start.column
  | some .single | some .double => x.start.column + 1
  | _ =>
    match s.step with
    | .columns n => s.scalarBase x + n
    | .consistent => found

theorem State.deeper_fst (s : State) (base found : Int) :
    (s.deeper base found).1 = match s.step with
      | .columns n => base + n
      | .consistent => found := by
  unfold State.deeper
  cases s.step <;> rfl

theorem State.expectedInScalar_fst (s : State) (x : Lexeme) (found : Int) :
    (s.expectedInScalar x found).1 = s.scalarColumn x found := by
  rw [State.expectedInScalar, State.scalarColumn, ← s.deeper_fst (s.scalarBase x), State.scalarBase]
  dsimp only
  generalize s.top.kind = kind
  generalize s.frames = frames
  rcases x.style with _ | style
  on_goal 2 => cases style
  case some.plain | some.single | some.double => rfl
  -- From where a block scalar is indented depends on the level that it stands on.
  case none | some.block =>
    cases kind with
    | value =>
      cases frames with
      | nil => rfl
      | cons top below =>
        dsimp only
        split <;> rfl
    | _ => rfl

/-! ## Main theorem -/

/-- The finding for a line that is indented by `found` spaces, not by `column`. -/
def wrongLine (column : Int) (l : Line) (found : Nat) : Finding :=
  ⟨l.number, found + 1, s!"wrong indentation: expected {column} but found {found}"⟩

/-- Of a lexeme within a text those lines are reported, in their order, that start strictly inside it, are not
blank and do not start at the column for the whole of it. -/
theorem checkScalar_of_isIn (h : x.IsIn t) (s : State) :
    ∃ column, (∀ first ∈ (indentsInside t x).head?, column = s.scalarColumn x first.2) ∧
      (checkScalar t x s).2 =
        ((indentsInside t x).filter fun p => (p.2 : Int) != column).map fun p => wrongLine column p.1 p.2 := by
  rw [checkScalar]
  split
  · next hline =>
    have hnone : indentsInside t x = [] := by
      rw [indentsInside, linesInside_eq_nil h (eq_of_beq hline), List.filterMap_nil]
    rw [hnone]
    exact ⟨0, nofun, rfl⟩
  · next hline =>
    have hstop : 0 < x.stop.offset := by
      refine Nat.pos_of_ne_zero fun hzero => hline ?_
      have hstart : x.start.offset = x.stop.offset := by have := h.ordered; omega
      rw [h.start, h.stop, hstart, beq_self_eq_true]
    have hlines : ((laterLines t x).filterMap fun p => Option.map (fun n : Int => (p.1, n)) (return ← spacesAt? t p.2)) =
        (indentsInside t x).map fun p => (p.1.number - (x.start.line + 1), (p.2 : Int)) := by
      rw [laterLines_eq h hstop, indentsInside, List.filterMap_map, List.map_filterMap]
      refine List.filterMap_congr fun l hl => ?_
      rw [Function.comp_apply, spacesAt?_start (List.mem_filter.1 hl).1]
      cases l.indent? t <;> rfl
    dsimp only
    rw [hlines]
    cases hinside : indentsInside t x with
    | nil => exact ⟨0, nofun, rfl⟩
    | cons p rest =>
      refine ⟨s.scalarColumn x p.2, fun first hfirst => ?_, ?_⟩
      · cases hfirst
        rfl
      · rw [List.map_cons]
        dsimp only
        rw [s.expectedInScalar_fst, ← List.map_cons (f := fun p : Line × Nat => (p.1.number - (x.start.line + 1), (p.2 : Int))),
          List.filter_map, List.map_map, ← hinside]
        refine List.map_congr_left fun q hq => ?_
        obtain ⟨l, hl, hq⟩ := List.mem_filterMap.1 (List.mem_filter.1 hq).1
        obtain ⟨n, -, rfl⟩ := Option.map_eq_some_iff.1 hq
        have hnumber := number_gt_of_mem_linesInside h hl
        rw [Function.comp_apply, wrongLine, Finding.mk.injEq]
        exact ⟨by dsimp only; omega, rfl, rfl⟩

/-- Of a scalar of a text those lines are reported, in their order, that start strictly inside it, are not blank
and do not start at the column for the whole of it. -/
theorem checkScalar_eq (t : Text) {xs : List Lexeme} (hxs : (Lexeme.ofText t).outcome = .ok xs) {x : Lexeme}
    (hx : x ∈ xs) (s : State) :
    ∃ column, (∀ first ∈ (indentsInside t x).head?, column = s.scalarColumn x first.2) ∧
      (checkScalar t x s).2 =
        ((indentsInside t x).filter fun p => (p.2 : Int) != column).map fun p => wrongLine column p.1 p.2 :=
  checkScalar_of_isIn (Lexeme.isIn_of_ofText hxs hx) s

/-- A block scalar with a blank line and two lines that are not indented as its first one is. -/
def looseBlock : Text := "k: |1\n   one\n \n  two\n    three\nend: 1\n".toList

def looseScalar : Lexeme := ⟨.scalar, ⟨0, 3, 3⟩, ⟨5, 0, 31⟩, some "  one\n\n two\n   three\n", some .block⟩

/-- The rule at the scalar: no step is known yet. -/
def beforeLooseScalar : State :=
  ⟨[⟨.value, 3, none, false, false⟩, ⟨.key, 0, none, false, false⟩, ⟨.blockMapping, 0, none, false, false⟩],
    ⟨.root, 0, none, false, false⟩, 1, 0, .consistent, .indented⟩

theorem checkScalar_eq_looseBlock :
    ∃ xs, (Lexeme.ofText looseBlock).outcome = .ok xs ∧ looseScalar ∈ xs ∧
      indentsInside looseBlock looseScalar = [(⟨2, 6, 12⟩, 3), (⟨4, 15, 20⟩, 2), (⟨5, 21, 30⟩, 4)] ∧
      (checkScalar looseBlock looseScalar beforeLooseScalar).2 =
        [⟨4, 3, "wrong indentation: expected 3 but found 2"⟩, ⟨5, 5, "wrong indentation: expected 3 but found 4"⟩] := by
  have hread : (Lexeme.ofText looseBlock).outcome.toOption.map (fun xs => decide (looseScalar ∈ xs)) = some true := by
    rw [Lexeme.outcome_ofText_eq_reckoned]
    decide +kernel
  obtain ⟨xs, hxs, hx⟩ := exists_of_toOption hread
  have hx := of_decide_eq_true hx
  have hinside : indentsInside looseBlock looseScalar = [(⟨2, 6, 12⟩, 3), (⟨4, 15, 20⟩, 2), (⟨5, 21, 30⟩, 4)] := by
    decide +kernel
  obtain ⟨column, hcolumn, hfound⟩ := checkScalar_eq looseBlock hxs hx beforeLooseScalar
  rw [hinside] at hcolumn hfound
  -- The first line decides for the whole scalar.
  have hthree : column = 3 := hcolumn _ rfl
  rw [hthree] at hfound
  exact ⟨xs, hxs, hx, hinside, hfound⟩

end YamlStyle.Rule.Indentation
