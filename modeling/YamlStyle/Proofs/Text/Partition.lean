import YamlStyle.Proofs.Text.Lines

/-!
# The lines of a text part it

A text falls into its lines and the breaks after them, and nothing is lost (`Parts.flatMap_eq`): a line
feed, or a return and a line feed, comes after each line but the last. Every offset is on one line, the
last to start at or before it (`Cut.spans_iff`), and its mark says which line that is and how far into it
the offset is, so marks come in the order of their offsets (`ofText_partitions`).
-/

namespace YamlStyle

open Rule.LineBreaks (Break)

namespace LineIndex

theorem pairwise_startsAfter (o : Nat) (t : Text) : (startsAfter o t).Pairwise (· < ·) := by
  induction t generalizing o with
  | nil => exact .nil
  | cons c t ih =>
    rw [startsAfter]
    split
    · exact .cons (fun _ hk => startsAfter_gt hk) (ih _)
    · exact ih _

/-- Of two offsets on one line the later has the greater column; else it is on a later line. -/
theorem strictMono_mark (t : Text) :
    StrictMono fun p => toLex (((ofText t).mark p).line, ((ofText t).mark p).column) := by
  intro a b hab
  rw [Prod.Lex.toLex_lt_toLex]
  rcases Nat.lt_or_eq_of_le (line_mark_mono t (Nat.le_of_lt hab)) with hline | hline
  · exact .inl hline
  · exact .inr ⟨hline, column_mark_lt hab hline⟩

end LineIndex

namespace Line

variable {t w r : Text} {b : Break} {l m : Line} {n s p : Nat} {ls : List Line}

/-! ## Breaks after lines -/

/-- The break after a line; none at the end of the text. -/
def break? (t : Text) (l : Line) : Option Break :=
  match t.drop l.stop with
  | '\n' :: _ => some .lineFeed
  | '\r' :: '\n' :: _ => some .returnLineFeed
  | _ => none

/-- What comes after a line and before the next. -/
def ending (t : Text) (l : Line) : Text := (l.break? t).elim [] Break.text

theorem content_of_drop_eq_append (h : t.drop s = w ++ r) : (⟨n, s, s + w.length⟩ : Line).content t = w := by
  rw [content, Text.slice, h, Nat.add_sub_cancel_left, List.take_left]

theorem break?_of_drop_eq (h : t.drop s = w) : (⟨n, s, s + w.length⟩ : Line).break? t = none := by
  rw [break?, drop_eq_nil_of_drop_eq h]

theorem break?_of_drop_eq_append (h : t.drop s = w ++ (b.text ++ r)) :
    (⟨n, s, s + w.length⟩ : Line).break? t = some b := by
  rw [break?, drop_of_drop_eq_append h]
  cases b <;> rfl

/-- Contents and endings give back the text. -/
theorem Parts.flatMap_eq (h : Parts t n s ls) : (ls.flatMap fun l => l.content t ++ l.ending t) = t.drop s := by
  induction h with
  | @last n s w hdrop =>
    have hcontent : (⟨n, s, s + w.length⟩ : Line).content t = w :=
      content_of_drop_eq_append (by rw [hdrop, List.append_nil])
    rw [List.flatMap_singleton, hcontent, ending, break?_of_drop_eq hdrop, hdrop]
    exact List.append_nil w
  | @line n s w r b ls hdrop _ _ ih =>
    have hrest : t.drop (s + w.length + b.text.length) = r := drop_of_drop_eq_append (drop_of_drop_eq_append hdrop)
    rw [List.flatMap_cons, ih, hrest, content_of_drop_eq_append hdrop, ending, break?_of_drop_eq_append hdrop, hdrop]
    exact List.append_assoc w b.text r

/-- Each line has a break after it, but for the last. -/
theorem Parts.map_break? (h : Parts t n s ls) : ∃ bs : List Break, ls.map (·.break? t) = bs.map some ++ [none] := by
  induction h with
  | last hdrop => exact ⟨[], congrArg ([·]) (break?_of_drop_eq hdrop)⟩
  | @line n s w r b ls hdrop _ _ ih =>
    obtain ⟨bs, hbs⟩ := ih
    refine ⟨b :: bs, ?_⟩
    rw [List.map_cons, hbs, break?_of_drop_eq_append hdrop]
    rfl

/-- No content before a lone line feed ends in a return. -/
theorem Parts.getLast?_content (h : Parts t n s ls) :
    ∀ l ∈ ls, l.break? t = some .lineFeed → (l.content t).getLast? ≠ some '\r' := by
  induction h with
  | last hdrop =>
    intro l hl hbreak
    rw [List.mem_singleton.1 hl, break?_of_drop_eq hdrop] at hbreak
    cases hbreak
  | line hdrop hkept _ ih =>
    refine List.forall_mem_cons.2 ⟨?_, ih⟩
    intro hbreak
    rw [break?_of_drop_eq_append hdrop] at hbreak
    rw [content_of_drop_eq_append hdrop]
    exact hkept (Option.some.inj hbreak)

/-! ## The line of an offset -/

/-- Whether an offset is on a line: the line has started, and the one after it has not. -/
structure Spans (t : Text) (l : Line) (p : Nat) : Prop where
  mem : l ∈ ofText t
  started : l.start ≤ p
  ahead : ∀ m, [l, m] <:+: ofText t → p < m.start

/-- Lines start one after the other. -/
theorem pairwise_start (t : Text) : (ofText t).Pairwise (·.start < ·.start) := by
  rw [← List.pairwise_map, start_ofText]
  exact .cons (fun _ hk => LineIndex.startsAfter_gt hk) (LineIndex.pairwise_startsAfter 0 t)

/-- Lines cut at an offset: those before the last that has started, that one, and those that start after the offset. -/
structure Cut (ls : List Line) (p : Nat) (before : List Line) (l : Line) (after : List Line) : Prop where
  split : ls = before ++ l :: after
  earlier : ∀ m ∈ before, m.start ≤ p
  started : l.start ≤ p
  later : ∀ m ∈ after, p < m.start

variable {before after : List Line}

theorem Cut.cons (h : Cut ls p before l after) (hm : m.start ≤ p) : Cut (m :: ls) p (m :: before) l after where
  split := congrArg (m :: ·) h.split
  earlier := List.forall_mem_cons.2 ⟨hm, h.earlier⟩
  started := h.started
  later := h.later

theorem exists_cut_of_pairwise (hsorted : (l :: ls).Pairwise (·.start < ·.start)) (hl : l.start ≤ p) :
    ∃ before m after, Cut (l :: ls) p before m after := by
  induction ls generalizing l with
  | nil => exact ⟨[], l, [], rfl, List.forall_mem_nil _, hl, List.forall_mem_nil _⟩
  | cons next ls ih =>
    obtain ⟨-, hrest⟩ := List.pairwise_cons.1 hsorted
    by_cases hnext : next.start ≤ p
    · obtain ⟨before, m, after, hcut⟩ := ih hrest hnext
      exact ⟨l :: before, m, after, hcut.cons hl⟩
    · have hahead : p < next.start := Nat.lt_of_not_le hnext
      refine ⟨[], l, next :: ls, rfl, List.forall_mem_nil _, hl, List.forall_mem_cons.2 ⟨hahead, ?_⟩⟩
      intro m hm
      exact Nat.lt_trans hahead (List.rel_of_pairwise_cons hrest hm)

/-- The first line starts with the text, so an offset cuts the lines after one of them. -/
theorem exists_cut (t : Text) (p : Nat) : ∃ before l after, Cut (ofText t) p before l after := by
  have hstarts := start_ofText t
  have hsorted := pairwise_start t
  cases hlines : ofText t with
  | nil =>
    rw [hlines] at hstarts
    cases hstarts
  | cons first rest =>
    rw [hlines] at hstarts hsorted
    obtain ⟨hzero, -⟩ := List.cons.inj hstarts
    exact exists_cut_of_pairwise hsorted (Nat.le_trans (Nat.le_of_eq hzero) (Nat.zero_le p))

/-- The mark of an offset counts the lines before, and the characters from the start of the line on. -/
theorem Cut.mark_eq (h : Cut (ofText t) p before l after) :
    (LineIndex.ofText t).mark p = ⟨before.length, p - l.start, p⟩ := by
  have hstarts : (LineIndex.ofText t).starts = before.map (·.start) ++ l.start :: after.map (·.start) := by
    rw [LineIndex.ofText, ← start_ofText, h.split, List.map_append, List.map_cons]
  have hbefore : ∀ k ∈ before.map (·.start), decide (k ≤ p) = true := by
    intro k hk
    obtain ⟨m, hm, rfl⟩ := List.mem_map.1 hk
    exact decide_eq_true (h.earlier m hm)
  have hafter : (after.map (·.start)).takeWhile (· ≤ p) = [] := by
    cases hlines : after with
    | nil => rfl
    | cons m rest =>
      have hm : p < m.start := h.later m (by simp [hlines])
      rw [List.map_cons, List.takeWhile_cons_of_neg (by simpa using hm)]
  have hpassed : LineIndex.passed t p = before.map (·.start) ++ [l.start] := by
    rw [LineIndex.passed, hstarts, List.takeWhile_append_of_pos hbefore,
      List.takeWhile_cons_of_pos (by simpa using h.started), hafter]
  rw [LineIndex.mark_eq, hpassed]
  simp [List.getLastD_eq_getLast?]

theorem Cut.number_eq (h : Cut (ofText t) p before l after) : l.number = before.length + 1 := by
  have hnumber : ((ofText t).map (·.number))[before.length]? = some l.number := by simp [h.split]
  rw [number_ofText] at hnumber
  obtain ⟨_, hnumber⟩ := List.getElem?_eq_some_iff.1 hnumber
  rw [List.getElem_range'] at hnumber
  omega

/-- What follows a line before the cut has started, too. -/
theorem Cut.exists_next (h : Cut (ofText t) p before l after) (hm : m ∈ before) :
    ∃ next, [m, next] <:+: ofText t ∧ next.start ≤ p := by
  obtain ⟨xs, ys, rfl⟩ := List.append_of_mem hm
  cases ys with
  | nil => exact ⟨l, ⟨xs, after, by simp [h.split]⟩, h.started⟩
  | cons next ys => exact ⟨next, ⟨xs, ys ++ l :: after, by simp [h.split]⟩, h.earlier next (by simp)⟩

theorem Cut.spans (h : Cut (ofText t) p before l after) : l.Spans t p := by
  have hsorted := pairwise_start t
  refine ⟨by simp [h.split], h.started, ?_⟩
  intro next hinfix
  have hlt : l.start < next.start := List.rel_of_pairwise_cons (hsorted.sublist hinfix.sublist) (.head _)
  have hmem : next ∈ before ++ l :: after := h.split ▸ hinfix.subset (by simp)
  rw [h.split] at hsorted
  rcases List.mem_append.1 hmem with hnext | hnext
  · have hgt : next.start < l.start := (List.pairwise_append.1 hsorted).2.2 next hnext l (.head _)
    exact absurd hlt (Nat.lt_asymm hgt)
  · rcases List.mem_cons.1 hnext with rfl | hnext
    · exact absurd hlt (Nat.lt_irrefl _)
    · exact h.later next hnext

theorem Cut.eq_of_spans (h : Cut (ofText t) p before l after) (hm : m.Spans t p) : m = l := by
  have hmem : m ∈ before ++ l :: after := h.split ▸ hm.mem
  rcases List.mem_append.1 hmem with hbefore | hafter
  · obtain ⟨next, hinfix, hnext⟩ := h.exists_next hbefore
    exact absurd hnext (Nat.not_le.2 (hm.ahead next hinfix))
  · rcases List.mem_cons.1 hafter with rfl | hafter
    · rfl
    · exact absurd hm.started (Nat.not_le.2 (h.later m hafter))

/-- An offset is on the line at which it cuts the lines, and on no other. -/
theorem Cut.spans_iff (h : Cut (ofText t) p before l after) : m.Spans t p ↔ m = l := by
  constructor
  · exact h.eq_of_spans
  · rintro rfl
    exact h.spans

/-! ## Lines and marks -/

/-- The lines of a text with what comes after them are the text. A line feed, or a return and a line feed, comes
after each but the last; the lines are numbered from one, and no line feed is in any of them. Every offset
is on exactly one line; its mark has the number of that line, less one, and how far into it the offset is. So
marks have the order of their offsets. -/
theorem ofText_partitions (t : Text) :
    ((ofText t).flatMap fun l => l.content t ++ l.ending t) = t ∧
    (∃ bs : List Break, (ofText t).map (·.break? t) = bs.map some ++ [none]) ∧
    (∀ l ∈ ofText t, l.break? t = some .lineFeed → (l.content t).getLast? ≠ some '\r') ∧
    (ofText t).map (·.number) = List.range' 1 (t.count '\n' + 1) ∧
    (∀ l ∈ ofText t, l.start ≤ l.stop ∧ l.stop ≤ t.length ∧ '\n' ∉ l.content t) ∧
    (∀ p, ∃ l, (∀ m, Spans t m p ↔ m = l) ∧
      ((LineIndex.ofText t).mark p).line + 1 = l.number ∧ ((LineIndex.ofText t).mark p).column = p - l.start) ∧
    StrictMono fun p => toLex (((LineIndex.ofText t).mark p).line, ((LineIndex.ofText t).mark p).column) := by
  have hparts := parts_ofText t
  refine ⟨hparts.flatMap_eq, hparts.map_break?, hparts.getLast?_content, number_ofText t, fun l hl => ?_, fun p => ?_,
    LineIndex.strictMono_mark t⟩
  · have hin := isIn_of_mem_ofText hl
    exact ⟨hin.ordered, hin.bound, hin.unbroken⟩
  · obtain ⟨before, l, after, hcut⟩ := exists_cut t p
    rw [hcut.mark_eq]
    exact ⟨l, fun m => hcut.spans_iff, hcut.number_eq.symm, rfl⟩

/-- A return is of a break only right before a line feed, also at the start of a line. -/
example : let t : Text := ['\n', '\r', '\n', 'a', '\r']
    (ofText t).map (fun l => (l.content t, l.ending t)) = [([], ['\n']), ([], ['\r', '\n']), (['a', '\r'], [])] := by
  decide

end Line

end YamlStyle
