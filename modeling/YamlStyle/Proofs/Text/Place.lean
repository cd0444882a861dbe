import YamlStyle.Proofs.Yaml.Marks

/-!
# Places in a text

A place is a line of a text and a column of that line, or the one after its last character; both count
from one. The mark of an offset within the text stands at a place (`isPlace_mark`), and so does all that
is left of it on its line.
-/

namespace YamlStyle

/-- A line of a text, and a column of it or the one after its last. -/
structure Text.IsPlace (t : Text) (line column : Int) : Prop where
  line_pos : 1 ≤ line
  column_pos : 1 ≤ column
  inside : ∃ content : Text, (t.splitOn '\n')[(line - 1).toNat]? = some content ∧ column ≤ content.length + 1

theorem LineIndex.mark_zero (t : Text) : (ofText t).mark 0 = ⟨0, 0, 0⟩ := by
  rw [mark_eq, passed_eq_cons, takeWhile_startsAfter]
  rfl

namespace Text

variable {t : Text} {sep : Char} {line column : Int}

/-! ## Pieces between separators -/

theorem splitOn_ne_nil (sep : Char) (t : Text) : t.splitOn sep ≠ [] := by
  rw [Ne, ← List.length_eq_zero_iff, length_splitOn]
  exact Nat.succ_ne_zero _

theorem splitOn_cons_of_ne {c : Char} {r head : Text} {tail : List Text} (hc : c ≠ sep)
    (h : splitOn sep r = head :: tail) : splitOn sep (c :: r) = (c :: head) :: tail := by
  rw [splitOn, if_neg hc, h]

theorem splitOn_append_cons {piece r : Text} (h : sep ∉ piece) :
    splitOn sep (piece ++ sep :: r) = piece :: splitOn sep r := by
  induction piece with
  | nil => rw [List.nil_append, splitOn, if_pos rfl]
  | cons c piece ih =>
    have hc : c ≠ sep := Ne.symm (List.ne_of_not_mem_cons h)
    exact splitOn_cons_of_ne hc (ih (List.not_mem_of_not_mem_cons h))

/-- A text is one piece, or a piece before a separator. -/
theorem splitOn_cases (sep : Char) (t : Text) :
    (sep ∉ t ∧ t.splitOn sep = [t]) ∨
      ∃ piece r : Text, sep ∉ piece ∧ t = piece ++ sep :: r ∧ t.splitOn sep = piece :: r.splitOn sep := by
  induction t with
  | nil => exact .inl ⟨List.not_mem_nil, rfl⟩
  | cons c t ih =>
    by_cases hc : c = sep
    · exact .inr ⟨[], t, List.not_mem_nil, by rw [hc]; rfl, by rw [splitOn, if_pos hc]⟩
    · rcases ih with ⟨hsep, hsplit⟩ | ⟨piece, r, hsep, rfl, hsplit⟩
      · exact .inl ⟨List.not_mem_cons_of_ne_of_not_mem (Ne.symm hc) hsep, splitOn_cons_of_ne hc hsplit⟩
      · have hpiece : sep ∉ c :: piece := List.not_mem_cons_of_ne_of_not_mem (Ne.symm hc) hsep
        exact .inr ⟨c :: piece, r, hpiece, rfl, splitOn_append_cons hpiece⟩

/-! ## Marks -/

/-- The line of a mark has the characters before it, as many as its column says, and those after it. -/
theorem splitOn_mark {o : Nat} (h : o ≤ t.length) : ∃ before after tail,
    (t.splitOn '\n').drop ((LineIndex.ofText t).mark o).line = (before ++ after) :: tail ∧
      before.length = ((LineIndex.ofText t).mark o).column ∧ splitOn '\n' (t.drop o) = after :: tail := by
  -- On the way to the offset the line is cut into what is passed and what is left of it.
  induction o with
  | zero =>
    obtain ⟨after, tail, hsplit⟩ := List.exists_cons_of_ne_nil (splitOn_ne_nil '\n' t)
    rw [LineIndex.mark_zero]
    exact ⟨[], after, tail, hsplit, rfl, hsplit⟩
  | succ o ih =>
    obtain ⟨before, after, tail, hdrop, hlength, hsplit⟩ := ih (Nat.le_of_succ_le h)
    rw [List.drop_eq_getElem_cons h] at hsplit
    have hchar : t[o]? = some t[o] := List.getElem?_eq_getElem h
    by_cases hc : t[o] = '\n'
    · rw [splitOn, if_pos hc] at hsplit
      obtain ⟨rfl, rfl⟩ := List.cons.inj hsplit
      obtain ⟨after', tail', hsplit'⟩ := List.exists_cons_of_ne_nil (splitOn_ne_nil '\n' (t.drop (o + 1)))
      rw [hc] at hchar
      rw [LineIndex.mark_succ_of_lineFeed hchar]
      refine ⟨[], after', tail', ?_, rfl, hsplit'⟩
      rw [← List.drop_drop, hdrop, List.drop_one, List.tail_cons, hsplit', List.nil_append]
    · obtain ⟨after', tail', hsplit'⟩ := List.exists_cons_of_ne_nil (splitOn_ne_nil '\n' (t.drop (o + 1)))
      rw [splitOn_cons_of_ne hc hsplit'] at hsplit
      obtain ⟨rfl, rfl⟩ := List.cons.inj hsplit
      rw [LineIndex.mark_succ (by rw [hchar]; simpa using hc)]
      exact ⟨before ++ [t[o]], after', tail', by simpa using hdrop, by simpa using hlength, hsplit'⟩

theorem isPlace_mark {o : Nat} (h : o ≤ t.length) :
    t.IsPlace (((LineIndex.ofText t).mark o).line + 1) (((LineIndex.ofText t).mark o).column + 1) := by
  obtain ⟨before, after, tail, hdrop, hlength, -⟩ := splitOn_mark h
  refine ⟨by omega, by omega, before ++ after, ?_, ?_⟩
  · rw [← List.head?_drop, Int.add_sub_cancel, Int.toNat_natCast, hdrop]
    rfl
  · rw [List.length_append]
    omega

theorem IsPlace.left (h : t.IsPlace line column) {column' : Int} (hpos : 1 ≤ column') (hle : column' ≤ column) :
    t.IsPlace line column' := by
  obtain ⟨content, hcontent, hcolumn⟩ := h.inside
  exact ⟨h.line_pos, hpos, content, hcontent, by omega⟩

/-- The lines before that of a place have a first column. -/
theorem IsPlace.above (h : t.IsPlace line column) {line' : Int} (hpos : 1 ≤ line') (hle : line' ≤ line) :
    t.IsPlace line' 1 := by
  obtain ⟨content, hcontent, -⟩ := h.inside
  obtain ⟨hlt, -⟩ := List.getElem?_eq_some_iff.1 hcontent
  have hlt' : (line' - 1).toNat < (t.splitOn '\n').length := by omega
  exact ⟨hpos, Int.le_refl 1, _, List.getElem?_eq_getElem hlt', by omega⟩

/-- A run of characters that are no line feeds. -/
theorem not_mem_slice_takeWhile {p : Char → Bool} (hp : p '\n' = false) (t : Text) (o : Nat) :
    '\n' ∉ t.slice o (o + ((t.drop o).takeWhile p).length) := by
  rw [slice, Nat.add_sub_cancel_left, Yaml.Lex.take_length_takeWhile]
  intro hmem
  rw [List.all_eq_true.1 List.all_takeWhile _ hmem] at hp
  cases hp

end Text

namespace LineIndex

variable {t : Text}

/-- Without a line feed between them two offsets are on one line. -/
theorem line_mark_eq {a b : Nat} (h : a ≤ b) (hn : '\n' ∉ t.slice a b) :
    ((ofText t).mark b).line = ((ofText t).mark a).line := by
  rw [line_mark, line_mark, ← Text.take_append_slice t h, List.count_append, List.count_eq_zero.2 hn, Nat.add_zero]

/-- The mark some characters further on the same line. -/
theorem mark_add {o k : Nat} (hn : '\n' ∉ t.slice o (o + k)) :
    (ofText t).mark (o + k) = ⟨((ofText t).mark o).line, ((ofText t).mark o).column + k, o + k⟩ := by
  have hline := line_mark_eq (Nat.le_add_right o k) hn
  rw [← hline, ← column_mark_add hline]
  rfl

/-- What starts after a line feed is the start of a line, and the lines come in their order. -/
theorem mark_of_startsAfter {o i s : Nat} {r : Text} (hr : r <+: t.drop o) (h : (startsAfter o r)[i]? = some s) :
    (ofText t).mark s = ⟨((ofText t).mark o).line + i + 1, 0, s⟩ := by
  induction r generalizing o i with
  | nil => cases h
  | cons c r ih =>
    obtain ⟨rest, hrest⟩ := hr
    have hchar : t[o]? = some c := by rw [← List.head?_drop, ← hrest]; rfl
    have hr : r <+: t.drop (o + 1) := ⟨rest, by rw [← List.tail_drop, ← hrest]; rfl⟩
    rw [startsAfter] at h
    split at h
    · next hc =>
      rw [hc] at hchar
      cases i with
      | zero =>
        cases h
        exact mark_succ_of_lineFeed hchar
      | succ i =>
        rw [ih hr h, mark_succ_of_lineFeed hchar]
        simp only [Mark.mk.injEq, and_true]
        omega
    · next hc =>
      rw [ih hr h, mark_succ (by rw [hchar]; simpa using hc)]

end LineIndex

/-! ## Lines -/

namespace Line

variable {t : Text}

/-- A line that starts and stops within a text. -/
structure IsIn (t : Text) (l : Line) : Prop where
  mark : (LineIndex.ofText t).mark l.start = ⟨l.number - 1, 0, l.start⟩
  number : 1 ≤ l.number
  ordered : l.start ≤ l.stop
  bound : l.stop ≤ t.length
  unbroken : '\n' ∉ t.slice l.start l.stop

/-- The columns of a line from its start up to its stop are places. -/
theorem IsIn.isPlace {l : Line} (h : l.IsIn t) {column : Int} (hpos : 1 ≤ column)
    (hle : column ≤ ↑(l.stop - l.start) + 1) : t.IsPlace l.number column := by
  have hstop : l.start + (l.stop - l.start) = l.stop := by have := h.ordered; omega
  have hmark := LineIndex.mark_add (t := t) (o := l.start) (k := l.stop - l.start) (by rw [hstop]; exact h.unbroken)
  have hplace := Text.isPlace_mark h.bound
  rw [hstop, h.mark] at hmark
  rw [hmark] at hplace
  have hnumber : ((l.number - 1 : Nat) : Int) + 1 = l.number := by have := h.number; omega
  simp only [hnumber] at hplace
  exact hplace.left hpos (by omega)

/-- A line that stops sooner. -/
theorem IsIn.upTo {n s o stop : Nat} (h : IsIn t ⟨n, s, o⟩) (hstop : stop ≤ o) (hstart : s ≤ stop) :
    IsIn t ⟨n, s, stop⟩ := by
  refine ⟨h.mark, h.number, hstart, Nat.le_trans hstop h.bound, fun hmem => h.unbroken ?_⟩
  exact (List.take_prefix_take_left (Nat.sub_le_sub_right hstop s)).subset hmem

/-- A line that goes on with one more character. -/
theorem IsIn.extend {n s o : Nat} (h : IsIn t ⟨n, s, o⟩) {c : Char} (hchar : t[o]? = some c) (hc : c ≠ '\n') :
    IsIn t ⟨n, s, o + 1⟩ := by
  have hordered : s ≤ o := h.ordered
  have hlt : o < t.length := (List.getElem?_eq_some_iff.1 hchar).1
  refine ⟨h.mark, h.number, Nat.le_succ_of_le hordered, hlt, ?_⟩
  have hslice : t.slice s (o + 1) = t.slice s o ++ [c] := by
    rw [Text.slice, Text.slice, Nat.sub_add_comm hordered, List.take_add_one, List.getElem?_drop,
      Nat.add_sub_cancel' hordered, hchar]
    rfl
  rw [hslice]
  exact fun hmem => (List.mem_append.1 hmem).elim h.unbroken fun h => hc (List.mem_singleton.1 h).symm

/-- The start of the line after a line feed. -/
theorem IsIn.next {n s o : Nat} (h : IsIn t ⟨n, s, o⟩) (hchar : t[o]? = some '\n') :
    IsIn t ⟨n + 1, o + 1, o + 1⟩ := by
  have hlt : o < t.length := (List.getElem?_eq_some_iff.1 hchar).1
  refine ⟨?_, Nat.succ_pos n, Nat.le_refl _, hlt, by simp [Text.slice]⟩
  have hmark : ((LineIndex.ofText t).mark o).line + 1 = n := by
    rw [LineIndex.line_mark_eq h.ordered h.unbroken, h.mark]
    exact Nat.sub_add_cancel h.number
  rw [LineIndex.mark_succ_of_lineFeed hchar, hmark]
  rfl

theorem isIn_of_mem_collect {n s o : Nat} {returned : Bool} {r : Text} (hr : r = t.drop o)
    (hline : IsIn t ⟨n, s, o⟩) (hreturned : returned = true → s < o) :
    ∀ l ∈ collect n s o returned r, l.IsIn t := by
  induction r generalizing n s o returned with
  | nil =>
    intro l hl
    rw [List.mem_singleton.1 hl]
    exact hline
  | cons c r ih =>
    have hchar : t[o]? = some c := by rw [← List.head?_drop, ← hr]; rfl
    have hrest : r = t.drop (o + 1) := by rw [← List.tail_drop, ← hr]; rfl
    rw [collect]
    split
    · next hc =>
      rw [hc] at hchar
      refine List.forall_mem_cons.2 ⟨hline.upTo ?_ ?_, ih hrest (hline.next hchar) fun h => by cases h⟩
      -- A carriage return before the line feed is not the line's own.
      · split <;> omega
      · have hordered : s ≤ o := hline.ordered
        split
        · next hret => exact Nat.le_sub_one_of_lt (hreturned hret)
        · exact hordered
    · next hc => exact ih hrest (hline.extend hchar hc) fun _ => Nat.lt_succ_of_le hline.ordered

theorem isIn_of_mem_ofText {l : Line} (h : l ∈ ofText t) : l.IsIn t := by
  have hfirst : IsIn t ⟨1, 0, 0⟩ :=
    ⟨LineIndex.mark_zero t, Nat.le_refl 1, Nat.le_refl 0, Nat.zero_le _, by simp [Text.slice]⟩
  exact isIn_of_mem_collect (o := 0) rfl hfirst (fun h => by cases h) l h

end Line

end YamlStyle
