import YamlStyle.Proofs.Text.LineFeeds
import YamlStyle.Proofs.Yaml.Reading

/-!
# Marks of the reader are marks of the text

The reader counts lines and columns as it goes, the line index looks them up. In a text whose
lines all end in line feeds the two agree at every place.
-/

namespace YamlStyle

/-- A text without byte order marks, in which a line feed follows each return. -/
structure Text.IsRegular (t : Text) : Prop where
  unmarked : '\ufeff' ∉ t
  returns : ∀ i : Nat, t[i]? = some '\r' → t[i + 1]? = some '\n'

theorem Text.IsRegular.of_not_mem {t : Text} (hm : '\ufeff' ∉ t) (hr : '\r' ∉ t) : t.IsRegular :=
  ⟨hm, fun _ hi => absurd (List.mem_of_getElem? hi) hr⟩

namespace LineIndex

theorem takeWhile_startsAfter_succ (o k : Nat) (t : Text) :
    (startsAfter o t).takeWhile (· ≤ o + (k + 1)) =
      (startsAfter o t).takeWhile (· ≤ o + k) ++ (if t[k]? = some '\n' then [o + (k + 1)] else []) := by
  induction t generalizing o k with
  | nil => simp [startsAfter]
  | cons c r ih =>
    cases k with
    | zero =>
      have hnone := takeWhile_startsAfter (o + 1) r
      have hnone' := takeWhile_startsAfter o (c :: r)
      simp only [Nat.add_zero, Nat.zero_add] at hnone' ⊢
      rw [hnone', List.nil_append, startsAfter]
      by_cases hc : c = '\n'
      · simp [hc, hnone]
      · simp [hc, hnone]
    | succ k =>
      have hih := ih (o + 1) k
      have h1 : o + 1 + (k + 1) = o + (k + 1 + 1) := by omega
      have h2 : o + 1 + k = o + (k + 1) := by omega
      rw [h1, h2] at hih
      rw [startsAfter, List.getElem?_cons_succ]
      split
      · simp [hih]
      · exact hih

/-- Where the lines up to an offset start. -/
def passed (t : Text) (o : Nat) : List Nat := (ofText t).starts.takeWhile (· ≤ o)

theorem passed_eq_cons (t : Text) (o : Nat) : passed t o = 0 :: (startsAfter 0 t).takeWhile (· ≤ o) := by
  simp [passed, ofText]

theorem passed_succ (t : Text) (o : Nat) :
    passed t (o + 1) = passed t o ++ (if t[o]? = some '\n' then [o + 1] else []) := by
  have h := takeWhile_startsAfter_succ 0 o t
  simp only [Nat.zero_add] at h
  rw [passed_eq_cons, passed_eq_cons, h, List.cons_append]

theorem getLastD_passed_le (t : Text) (o : Nat) : (passed t o).getLastD 0 ≤ o := by
  rw [List.getLastD_eq_getLast?]
  cases h : (passed t o).getLast? with
  | none => exact Nat.zero_le o
  | some k => simpa using List.all_eq_true.1 List.all_takeWhile k (List.mem_of_getLast? h)

theorem mark_eq (t : Text) (o : Nat) :
    (ofText t).mark o = ⟨(passed t o).length - 1, o - (passed t o).getLastD 0, o⟩ := rfl

theorem mark_succ_of_lineFeed {t : Text} {o : Nat} (h : t[o]? = some '\n') :
    (ofText t).mark (o + 1) = ⟨((ofText t).mark o).line + 1, 0, o + 1⟩ := by
  have hlast : (passed t o ++ [o + 1]).getLastD 0 = o + 1 := by simp [List.getLastD_eq_getLast?]
  rw [mark_eq, mark_eq, passed_succ, if_pos h, hlast]
  simp [passed_eq_cons]

theorem mark_succ {t : Text} {o : Nat} (h : t[o]? ≠ some '\n') :
    (ofText t).mark (o + 1) = ⟨((ofText t).mark o).line, ((ofText t).mark o).column + 1, o + 1⟩ := by
  have := getLastD_passed_le t o
  rw [mark_eq, mark_eq, passed_succ, if_neg h, List.append_nil]
  simp only [Mark.mk.injEq, true_and, and_true]
  omega

theorem line_mark_succ_le (t : Text) (o : Nat) : ((ofText t).mark o).line ≤ ((ofText t).mark (o + 1)).line :=
  line_mark_mono t (Nat.le_succ o)

/-- On one line columns go with offsets. -/
theorem column_mark_add {t : Text} {o k : Nat} (h : ((ofText t).mark (o + k)).line = ((ofText t).mark o).line) :
    ((ofText t).mark (o + k)).column = ((ofText t).mark o).column + k := by
  induction k with
  | zero => rfl
  | succ k ih =>
    have h1 : ((ofText t).mark o).line ≤ ((ofText t).mark (o + k)).line := line_mark_mono t (Nat.le_add_right o k)
    have h2 : ((ofText t).mark (o + k)).line ≤ ((ofText t).mark (o + k + 1)).line := line_mark_succ_le t (o + k)
    rw [← Nat.add_assoc] at h ⊢
    have hk := ih (by omega)
    by_cases hn : t[o + k]? = some '\n'
    · rw [mark_succ_of_lineFeed hn] at h
      simp only at h
      omega
    · rw [mark_succ hn]
      simp only
      omega

theorem column_mark_lt {t : Text} {a b : Nat} (h : a < b)
    (hl : ((ofText t).mark a).line = ((ofText t).mark b).line) :
    ((ofText t).mark a).column < ((ofText t).mark b).column := by
  obtain ⟨k, rfl⟩ := Nat.exists_eq_add_of_lt h
  have hk := column_mark_add (t := t) (o := a) (k := k + 1) (by rw [← Nat.add_assoc]; exact hl.symm)
  rw [← Nat.add_assoc] at hk
  omega

end LineIndex

namespace Yaml

/-- A cursor within a text. -/
structure Cursor.IsIn (t : Text) (c : Cursor) : Prop where
  rest : c.rest = t.drop c.mark.offset
  mark : c.mark = (LineIndex.ofText t).mark c.mark.offset
  bound : c.mark.offset ≤ t.length

namespace Cursor

variable {t : Text} {c c' : Cursor} {p : Char → Prop} {k : Nat}

theorem isIn_ofText (t : Text) : (ofText t).IsIn t where
  rest := rfl
  mark := by
    rw [ofText, LineIndex.mark_eq, LineIndex.passed_eq_cons, LineIndex.takeWhile_startsAfter]
    rfl
  bound := Nat.zero_le _

theorem IsIn.next (ht : t.IsRegular) (h : c.IsIn t) :
    c.next.IsIn t ∧ c.next.mark.offset = c.mark.offset + min 1 c.rest.length := by
  obtain ⟨_ | ⟨ch, r⟩, m⟩ := c
  · exact ⟨h, rfl⟩
  · have hrest : ch :: r = t.drop m.offset := h.rest
    have hch : t[m.offset]? = some ch := by rw [← List.head?_drop, ← hrest]; rfl
    have hr : r = t.drop (m.offset + 1) := by rw [← List.tail_drop, ← hrest]; rfl
    have hhead : r.head? = t[m.offset + 1]? := by rw [hr, List.head?_drop]
    have hlt : m.offset < t.length := (List.getElem?_eq_some_iff.1 hch).1
    have hm : m = (LineIndex.ofText t).mark m.offset := h.mark
    have hmark : advanceMark m ch r.head? = (LineIndex.ofText t).mark (m.offset + 1) := by
      by_cases hn : ch = '\n'
      · rw [LineIndex.mark_succ_of_lineFeed (hn ▸ hch), ← hm, hn]
        rfl
      · have hfeff : ch ≠ '\ufeff' := fun he => ht.unmarked (he ▸ List.mem_of_getElem? hch)
        have hreturn : (ch == '\r' && r.head? != some '\n') = false := by
          rw [Bool.and_eq_false_iff]
          by_cases hcr : ch = '\r'
          · exact .inr (by rw [hhead, ht.returns _ (hcr ▸ hch)]; rfl)
          · exact .inl (by simpa using hcr)
        rw [LineIndex.mark_succ (by rw [hch]; simpa using hn), ← hm]
        simp [advanceMark, hn, hfeff, hreturn]
    have hoff : (advanceMark m ch r.head?).offset = m.offset + 1 := by rw [hmark]; rfl
    refine ⟨⟨?_, ?_, ?_⟩, ?_⟩
    · simp only [Cursor.next, hoff]
      exact hr
    · simp only [Cursor.next, hoff]
      exact hmark
    · simp only [Cursor.next, hoff]
      exact hlt
    · simp only [Cursor.next, hoff, List.length_cons]
      omega

theorem IsIn.skip (ht : t.IsRegular) (h : c.IsIn t) (n : Nat) :
    (c.skip n).IsIn t ∧ (c.skip n).mark.offset = c.mark.offset + min n c.rest.length := by
  induction n generalizing c with
  | zero => exact ⟨h, by simp [Cursor.skip]⟩
  | succ n ih =>
    obtain ⟨hnext, ho⟩ := h.next ht
    obtain ⟨hskip, hos⟩ := ih hnext
    refine ⟨hskip, ?_⟩
    rw [Cursor.skip, hos, ho, rest_next, List.length_drop]
    omega

theorem IsIn.reaches (ht : t.IsRegular) (h : c.IsIn t) (hr : c.Reaches p k c') :
    c'.IsIn t ∧ c.mark.offset + min k c.rest.length ≤ c'.mark.offset := by
  obtain ⟨n, hn, rfl, -⟩ := hr
  obtain ⟨hin, ho⟩ := h.skip ht n
  exact ⟨hin, by omega⟩

/-- Reading over no line feed stays on the line. -/
theorem IsIn.line_eq (ht : t.IsRegular) (h : c.IsIn t) (hr : c.Reaches (· ≠ '\n') k c') :
    c'.mark.line = c.mark.line := by
  obtain ⟨n, -, rfl, hp⟩ := hr
  obtain ⟨hin, ho⟩ := h.skip ht n
  have htake : t.take (c.skip n).mark.offset = t.take c.mark.offset ++ c.rest.take n := by
    rw [ho, List.take_add, ← h.rest, ← List.take_take, List.take_length]
  have hcount : (c.rest.take n).count '\n' = 0 := List.count_eq_zero.2 fun hmem => hp _ hmem rfl
  rw [hin.mark, h.mark, LineIndex.line_mark, LineIndex.line_mark, htake, List.count_append, hcount,
    Nat.add_zero]

end Cursor

end Yaml

end YamlStyle
