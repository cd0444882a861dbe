import Mathlib
import YamlStyle.Text.Basic

/-!
# Lines are counted by line feeds

The line of a mark is the number of line feeds before it, and the lines of a text are numbered
from one without a gap.
-/

namespace YamlStyle

theorem LineIndex.startsAfter_gt {o : Nat} {t : Text} {k : Nat} (h : k ∈ startsAfter o t) : o < k := by
  induction t generalizing o with
  | nil => simp [startsAfter] at h
  | cons c r ih =>
    rw [startsAfter] at h
    split at h
    · rcases List.mem_cons.1 h with rfl | h
      · omega
      · have := ih h; omega
    · have := ih h; omega

theorem LineIndex.takeWhile_startsAfter (o : Nat) (t : Text) : (startsAfter o t).takeWhile (· ≤ o) = [] := by
  cases h : startsAfter o t with
  | nil => rfl
  | cons k ks =>
    have := startsAfter_gt (o := o) (t := t) (k := k) (by simp [h])
    simp [this]

theorem LineIndex.length_takeWhile_startsAfter (o k : Nat) (t : Text) :
    ((startsAfter o t).takeWhile (· ≤ o + k)).length = (t.take k).count '\n' := by
  induction t generalizing o k with
  | nil => simp [startsAfter]
  | cons c r ih =>
    cases k with
    | zero =>
      rw [Nat.add_zero, takeWhile_startsAfter]
      rfl
    | succ k =>
      have hrest : ((startsAfter (o + 1) r).takeWhile (· ≤ o + (k + 1))).length = (r.take k).count '\n' := by
        rw [← ih (o + 1) k, Nat.add_right_comm, Nat.add_assoc]
      rw [startsAfter, List.take_succ_cons]
      split
      · next hc => simp [hrest, hc]
      · next hc => rw [hrest, List.count_cons_of_ne hc]

/-- The line of a mark is the number of line feeds before it. -/
theorem LineIndex.line_mark (t : Text) (p : Nat) : ((ofText t).mark p).line = (t.take p).count '\n' := by
  have := length_takeWhile_startsAfter 0 p t
  rw [Nat.zero_add] at this
  simp [mark, ofText, this]

theorem Text.count_take_le {t : Text} {a b : Nat} (h : a ≤ b) : (t.take a).count '\n' ≤ (t.take b).count '\n' :=
  (List.take_prefix_take_left h).sublist.count_le _

/-- A text up to an offset is the text up to an earlier one and the slice between. -/
theorem Text.take_append_slice (t : Text) {a b : Nat} (h : a ≤ b) : t.take a ++ t.slice a b = t.take b := by
  rw [slice, ← List.take_add, Nat.add_sub_cancel' h]

theorem Text.slice_eq_nil {t : Text} {a b : Nat} (h : b ≤ a) : t.slice a b = [] := by
  rw [slice, Nat.sub_eq_zero_of_le h, List.take_zero]

/-- Marks come in the order of their offsets. -/
theorem LineIndex.line_mark_mono (t : Text) {a b : Nat} (h : a ≤ b) :
    ((ofText t).mark a).line ≤ ((ofText t).mark b).line := by
  rw [line_mark, line_mark]
  exact Text.count_take_le h

/-- No mark is beyond the last line. -/
theorem LineIndex.line_mark_le (t : Text) (p : Nat) : ((ofText t).mark p).line ≤ t.count '\n' := by
  rw [line_mark]
  exact (List.take_sublist _ _).count_le _

theorem LineIndex.line_mark_length (t : Text) : ((ofText t).mark t.length).line = t.count '\n' := by
  rw [line_mark, List.take_length]

/-! ## The lines of a text -/

theorem Line.number_collect (n s o : Nat) (r : Bool) (t : Text) :
    (collect n s o r t).map (·.number) = List.range' n (t.count '\n' + 1) := by
  induction t generalizing n s o r with
  | nil => rfl
  | cons c t ih =>
    rw [collect]
    split
    · next hc =>
      rw [List.map_cons, ih, hc, List.count_cons_self]
      rfl
    · next hc => rw [ih, List.count_cons_of_ne hc]

/-- Lines are numbered from one, and there is one more of them than there are line feeds. -/
theorem Line.number_ofText (t : Text) : (ofText t).map (·.number) = List.range' 1 (t.count '\n' + 1) :=
  number_collect 1 0 0 false t

/-- A text has one piece more than separators. -/
theorem Text.length_splitOn (c : Char) (t : Text) : (t.splitOn c).length = t.count c + 1 := by
  induction t with
  | nil => rfl
  | cons d t ih =>
    rw [splitOn]
    split
    · next h => rw [h, List.count_cons_self, List.length_cons, ih]
    · next h =>
      rw [List.count_cons_of_ne h, ← ih]
      split <;> simp_all

end YamlStyle
