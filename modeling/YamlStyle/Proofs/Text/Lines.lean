import YamlStyle.Proofs.Text.Place
import YamlStyle.Rule.Lines

/-!
# Where lines start and stop

The lines of a text start at its start and after each line feed, and each of them but the last is
followed by a line feed, or by a return and a line feed (`parts_ofText`). The lines that start between
two offsets are found in the slice between them (`filter_start_ofText`).

A text whose line breaks are all alike is its lines with a break between any two of them
(`exists_eq_intercalate`), so what stands before and after a line is known
(`mem_ofText_intercalate`).
-/

namespace YamlStyle

open Rule.LineBreaks (Break)

namespace LineIndex

theorem startsAfter_append (o : Nat) (t u : Text) :
    startsAfter o (t ++ u) = startsAfter o t ++ startsAfter (o + t.length) u := by
  induction t generalizing o with
  | nil => rfl
  | cons c t ih =>
    have hlength : o + (c :: t).length = o + 1 + t.length := by rw [List.length_cons]; omega
    rw [List.cons_append, startsAfter, startsAfter, hlength]
    split
    · rw [ih, List.cons_append]
    · exact ih _

theorem le_of_mem_startsAfter {o k : Nat} {t : Text} (h : k ∈ startsAfter o t) : k ≤ o + t.length := by
  induction t generalizing o with
  | nil => cases h
  | cons c t ih =>
    have hrest : k ∈ startsAfter (o + 1) t → k ≤ o + (c :: t).length := by
      intro h
      have := ih h
      rw [List.length_cons]
      omega
    rw [startsAfter] at h
    split at h
    · rcases List.mem_cons.1 h with rfl | h
      · rw [List.length_cons]
        omega
      · exact hrest h
    · exact hrest h

/-- The lines that start between two offsets start after the line feeds of the slice between them. -/
theorem filter_startsAfter {t : Text} {a b : Nat} (ha : a ≤ t.length) (hb : b ≤ t.length) :
    (startsAfter 0 t).filter (fun k => a < k && k < b) = startsAfter a (t.slice a (b - 1)) := by
  rcases Nat.le_total (b - 1) a with h | h
  · rw [Text.slice_eq_nil h, startsAfter, List.filter_eq_nil_iff]
    intro k _
    simp only [Bool.and_eq_true, decide_eq_true_eq, not_and]
    omega
  · have hsplit : t = t.take a ++ t.slice a (b - 1) ++ t.drop (b - 1) := by
      rw [Text.take_append_slice t h, List.take_append_drop]
    have hlow : (t.take a).length = a := List.length_take_of_le ha
    have hhigh : (t.take a ++ t.slice a (b - 1)).length = b - 1 := by
      rw [Text.take_append_slice t h]
      exact List.length_take_of_le (by omega)
    conv_lhs => rw [hsplit]
    rw [startsAfter_append, startsAfter_append, hhigh, hlow, Nat.zero_add, Nat.zero_add, List.filter_append,
      List.filter_append]
    have hbefore : (startsAfter 0 (t.take a)).filter (fun k => a < k && k < b) = [] := by
      rw [List.filter_eq_nil_iff]
      intro k hk
      have := le_of_mem_startsAfter hk
      simp only [Bool.and_eq_true, decide_eq_true_eq, not_and]
      omega
    have hbetween : (startsAfter a (t.slice a (b - 1))).filter (fun k => a < k && k < b) =
        startsAfter a (t.slice a (b - 1)) := by
      rw [List.filter_eq_self]
      intro k hk
      have hgt := startsAfter_gt hk
      have hle := le_of_mem_startsAfter hk
      rw [List.length_append, hlow] at hhigh
      simp only [Bool.and_eq_true, decide_eq_true_eq]
      omega
    have hafter : (startsAfter (b - 1) (t.drop (b - 1))).filter (fun k => a < k && k < b) = [] := by
      rw [List.filter_eq_nil_iff]
      intro k hk
      have := startsAfter_gt hk
      simp only [Bool.and_eq_true, decide_eq_true_eq, not_and]
      omega
    rw [hbefore, hbetween, hafter, List.nil_append, List.append_nil]

end LineIndex

namespace Line

variable {t : Text} {l : Line}

/-! ## Starts -/

theorem start_collect (n s o : Nat) (returned : Bool) (t : Text) :
    (collect n s o returned t).map (·.start) = s :: LineIndex.startsAfter o t := by
  induction t generalizing n s o returned with
  | nil => rfl
  | cons c t ih =>
    rw [collect, LineIndex.startsAfter]
    split
    · rw [List.map_cons, ih]
    · exact ih _ _ _ _

/-- A line starts at the start of the text or after a line feed. -/
theorem start_ofText (t : Text) : (ofText t).map (·.start) = 0 :: LineIndex.startsAfter 0 t :=
  start_collect 1 0 0 false t

/-- The lines that start between two offsets. -/
theorem filter_start_ofText {a b : Nat} (ha : a ≤ t.length) (hb : b ≤ t.length) :
    ((ofText t).filter fun l => a < l.start && l.start < b).map (·.start) =
      LineIndex.startsAfter a (t.slice a (b - 1)) := by
  have hmap : ((ofText t).filter fun l => a < l.start && l.start < b).map (·.start) =
      ((ofText t).map (·.start)).filter fun k => a < k && k < b := by
    rw [List.filter_map]
    rfl
  rw [hmap, start_ofText, List.filter_cons_of_neg (by simp), LineIndex.filter_startsAfter ha hb]

/-! ## Stops -/

/-- `Parts t n s ls` says that `ls` are the lines into which a text falls from the offset `s` on, numbered from
`n`. A return right before a line feed is of the break, not of the line. -/
inductive Parts (t : Text) : Nat → Nat → List Line → Prop
  | last {n s : Nat} {w : Text} (hdrop : t.drop s = w) : Parts t n s [⟨n, s, s + w.length⟩]
  | line {n s : Nat} {w r : Text} {b : Break} {ls : List Line} (hdrop : t.drop s = w ++ (b.text ++ r))
      (hkept : b = .lineFeed → w.getLast? ≠ some '\r') (hrest : Parts t (n + 1) (s + w.length + b.text.length) ls) :
      Parts t n s (⟨n, s, s + w.length⟩ :: ls)

variable {w r : Text} {b : Break} {n s : Nat} {ls : List Line}

theorem drop_of_drop_eq_append (h : t.drop s = w ++ r) : t.drop (s + w.length) = r := by
  rw [← List.drop_drop, h, List.drop_left]

theorem drop_eq_nil_of_drop_eq (h : t.drop s = w) : t.drop (s + w.length) = [] :=
  drop_of_drop_eq_append (h.trans w.append_nil.symm)

/-- The lines after what has been read of one, `w`. -/
theorem parts_collect (hdrop : t.drop s = w ++ r) :
    Parts t n s (collect n s (s + w.length) (w.getLast? == some '\r') r) := by
  induction r generalizing n s w with
  | nil => exact .last (hdrop.trans w.append_nil)
  | cons c r ih =>
    rw [collect]
    split
    · next hc =>
      have hnext : t.drop (s + w.length + 1) = r := by
        rw [← List.drop_drop, drop_of_drop_eq_append hdrop]
        rfl
      have hrest : Parts t (n + 1) (s + w.length + 1) (collect (n + 1) (s + w.length + 1) (s + w.length + 1) false r) :=
        ih (w := []) hnext
      rw [hc] at hdrop
      by_cases hreturn : w.getLast? = some '\r'
      · -- The return that was read last is of the break.
        obtain ⟨v, rfl⟩ := List.getLast?_eq_some_iff.1 hreturn
        have hstop : s + (v ++ ['\r']).length = s + v.length + 1 := by simp [Nat.add_assoc]
        rw [if_pos (beq_iff_eq.2 hreturn), hstop, Nat.add_sub_cancel]
        rw [hstop] at hrest
        exact .line (b := .returnLineFeed) (by simpa [Break.text] using hdrop) (fun h => by cases h) hrest
      · rw [if_neg (mt beq_iff_eq.1 hreturn)]
        exact .line (b := .lineFeed) hdrop (fun _ => hreturn) hrest
    · have hread : s + w.length + 1 = s + (w ++ [c]).length := by simp [Nat.add_assoc]
      have hlast : (c == '\r') = ((w ++ [c]).getLast? == some '\r') := by rw [List.getLast?_concat]; rfl
      rw [hread, hlast]
      exact ih (by rw [hdrop, List.append_assoc]; rfl)

theorem parts_ofText (t : Text) : Parts t 1 0 (ofText t) := parts_collect (w := []) rfl

/-- What comes after a line: nothing, a line feed, or a return and a line feed. -/
def IsEnd (rest : Text) : Prop := rest = [] ∨ (∃ r, rest = '\n' :: r) ∨ ∃ r, rest = '\r' :: '\n' :: r

theorem Parts.isEnd (h : Parts t n s ls) : ∀ l ∈ ls, IsEnd (t.drop l.stop) := by
  induction h with
  | last hdrop =>
    intro l hl
    rw [List.mem_singleton.1 hl]
    exact .inl (drop_eq_nil_of_drop_eq hdrop)
  | @line n s w r b ls hdrop _ _ ih =>
    refine List.forall_mem_cons.2 ⟨?_, ih⟩
    dsimp only
    rw [drop_of_drop_eq_append hdrop]
    cases b with
    | lineFeed => exact .inr (.inl ⟨r, rfl⟩)
    | returnLineFeed => exact .inr (.inr ⟨r, rfl⟩)

theorem isEnd_of_mem_ofText (h : l ∈ ofText t) : IsEnd (t.drop l.stop) := (parts_ofText t).isEnd l h

theorem IsIn.drop_start (h : l.IsIn t) : t.drop l.start = l.content t ++ t.drop l.stop := by
  have hstop : l.stop = l.start + (l.stop - l.start) := by have := h.ordered; omega
  rw [content, Text.slice]
  conv_rhs => rw [hstop, ← List.drop_drop]
  rw [Nat.add_sub_cancel_left, List.take_append_drop]

/-! ## Indentation -/

/-- The number of spaces that a line starts with; none if nothing comes after them. A return stands
for nothing. -/
def indent? (t : Text) (l : Line) : Option Nat :=
  match (l.content t).dropWhile (· == ' ') with
  | [] => none
  | c :: _ => if c = '\r' then none else some ((l.content t).takeWhile (· == ' ')).length

end Line

/-! ## Texts with one kind of line break -/

/-- Whether all line breaks of a text are of one kind: line feeds, without any return, or pairs of a return and
a line feed, without either of them alone. -/
def Text.HasOnly (t : Text) : Break → Prop
  | .lineFeed => '\r' ∉ t
  | .returnLineFeed => t[0]? ≠ some '\n' ∧ ∀ i < t.length, t[i]? = some '\r' ↔ t[i + 1]? = some '\n'

instance (t : Text) : (b : Break) → Decidable (t.HasOnly b)
  | .lineFeed => inferInstanceAs (Decidable ('\r' ∉ t))
  | .returnLineFeed => inferInstanceAs (Decidable (_ ∧ _))

/-- Contents of lines, without any break. -/
def AreContents (cs : List Text) : Prop := ∀ c ∈ cs, '\r' ∉ c ∧ '\n' ∉ c

namespace Text

variable {t : Text} {b : Break} {rest : List Text}

/-! ## Lines and breaks between them -/

/-- A text without line feeds has no breaks. -/
theorem HasOnly.not_mem (h : t.HasOnly b) (hline : '\n' ∉ t) : '\r' ∉ t := by
  cases b with
  | lineFeed => exact h
  | returnLineFeed =>
    intro hmem
    obtain ⟨i, hi⟩ := List.getElem?_of_mem hmem
    exact hline (List.mem_of_getElem? ((h.2 i (List.getElem?_eq_some_iff.1 hi).1).1 hi))

/-- What comes after a line feed in a text with pairs of a return and a line feed. -/
theorem HasOnly.of_append {r : Text} (h : HasOnly (t ++ '\n' :: r) .returnLineFeed) : r.HasOnly .returnLineFeed := by
  have hget (i : Nat) : (t ++ '\n' :: r)[t.length + 1 + i]? = r[i]? := by
    have hindex : t.length + 1 + i - t.length = i + 1 := by omega
    rw [List.getElem?_append_right (by omega), hindex, List.getElem?_cons_succ]
  constructor
  · intro hr
    have hfeed : (t ++ '\n' :: r)[t.length]? = some '\n' := by simp
    have hreturn := (h.2 t.length (by simp)).2 ((hget 0).trans hr)
    rw [hfeed] at hreturn
    cases hreturn
  · intro i hi
    rw [← hget i, ← hget (i + 1)]
    exact h.2 (t.length + 1 + i) (by simp; omega)

/-- Only the last character before the first line feed is a return. -/
theorem HasOnly.eq_concat {piece r : Text} (h : HasOnly (piece ++ '\n' :: r) .returnLineFeed)
    (hline : '\n' ∉ piece) : ∃ c : Text, '\r' ∉ c ∧ piece = c ++ ['\r'] := by
  rcases List.eq_nil_or_concat' piece with rfl | ⟨c, d, rfl⟩
  · exact absurd rfl h.1
  · have hd : some d = some '\r' := by
      rw [← (h.2 c.length (by simp)).2 (by simp)]
      simp
    refine ⟨c, fun hmem => hline ?_, by rw [Option.some.inj hd]⟩
    obtain ⟨i, hi⟩ := List.getElem?_of_mem hmem
    have hlt : i < c.length := (List.getElem?_eq_some_iff.1 hi).1
    have hreturn : (c ++ [d] ++ '\n' :: r)[i]? = some '\r' := by
      rw [List.getElem?_append_left (by simp; omega), List.getElem?_append_left hlt, hi]
    -- The line feed after a return in `c` would stand in the piece.
    have hfeed := (h.2 i (by simp; omega)).1 hreturn
    rw [List.getElem?_append_left (by simp; omega)] at hfeed
    exact List.mem_of_getElem? hfeed

/-- Up to its first line feed a text has a line and the break that ends it. -/
theorem HasOnly.uncons {piece r : Text} (h : HasOnly (piece ++ '\n' :: r) b) (hline : '\n' ∉ piece) :
    ∃ c : Text, ('\r' ∉ c ∧ '\n' ∉ c) ∧ piece ++ '\n' :: r = c ++ b.text ++ r ∧ r.HasOnly b := by
  cases b with
  | lineFeed =>
    simp only [HasOnly, List.mem_append, List.mem_cons, not_or] at h
    exact ⟨piece, ⟨h.1, hline⟩, by simp [Break.text], h.2.2⟩
  | returnLineFeed =>
    obtain ⟨c, hreturn, rfl⟩ := h.eq_concat hline
    have hc : '\n' ∉ c := fun hmem => hline (List.mem_append_left _ hmem)
    exact ⟨c, ⟨hreturn, hc⟩, by simp [Break.text], h.of_append⟩

/-- A text with one kind of line break is its lines with that break between any two of them. -/
theorem HasOnly.exists_eq_intercalate (h : t.HasOnly b) :
    ∃ cs : List Text, cs ≠ [] ∧ AreContents cs ∧ t = b.text.intercalate cs := by
  induction hn : t.length using Nat.strong_induction_on generalizing t with
  | _ n ih =>
    rcases splitOn_cases '\n' t with ⟨hline, -⟩ | ⟨piece, r, hline, rfl, -⟩
    · refine ⟨[t], by simp, List.forall_mem_singleton.2 ⟨h.not_mem hline, hline⟩, ?_⟩
      rw [List.intercalate_singleton]
    · obtain ⟨c, hc, heq, hr⟩ := h.uncons hline
      obtain ⟨cs, hne, hcs, rfl⟩ := ih r.length (by simp at hn; omega) hr rfl
      exact ⟨c :: cs, by simp, List.forall_mem_cons.2 ⟨hc, hcs⟩, by rw [heq, List.intercalate_cons_of_ne_nil hne]⟩

/-- Lines with a break after each of them. -/
def ended (b : Break) (cs : List Text) : Text := cs.flatMap (· ++ b.text)

/-- What follows a line if these are the lines after it. -/
def following (b : Break) (after : List Text) : Text := if after = [] then [] else b.text ++ b.text.intercalate after

theorem intercalate_append_cons (b : Break) (before : List Text) (c : Text) (after : List Text) :
    b.text.intercalate (before ++ c :: after) = ended b before ++ (c ++ following b after) := by
  induction before with
  | nil =>
    cases after with
    | nil => simp [ended, following]
    | cons d after => simp [ended, following, List.intercalate_cons_cons]
  | cons d before ih =>
    rw [List.cons_append, List.intercalate_cons_of_ne_nil (by simp), ih, ended, ended, List.flatMap_cons,
      List.append_assoc, List.append_assoc]
    simp

theorem intercalate_cons (b : Break) (c : Text) (rest : List Text) :
    b.text.intercalate (c :: rest) = c ++ following b rest :=
  intercalate_append_cons b [] c rest

theorem following_eq_nil_iff : following b rest = [] ↔ rest = [] := by
  unfold following
  split
  · next h => exact iff_of_true rfl h
  · next h => exact iff_of_false (by cases b <;> simp [Break.text]) h

theorem ended_append (cs ds : List Text) : ended b (cs ++ ds) = ended b cs ++ ended b ds :=
  List.flatMap_append

theorem ended_replicate (k : Nat) : ended b (List.replicate k []) = (List.replicate k b.text).flatten := by
  rw [ended, List.flatMap, List.map_replicate, List.nil_append]

end Text

namespace Line

variable {t : Text} {b : Break} {cs : List Text} {c : Text}

theorem collect_append (h : '\r' ∉ c ∧ '\n' ∉ c) (n s o : Nat) (r : Text) :
    collect n s o false (c ++ r) = collect n s (o + c.length) false r := by
  induction c generalizing o with
  | nil => rfl
  | cons d c ih =>
    simp only [List.mem_cons, not_or] at h
    have hreturn : (d == '\r') = false := beq_eq_false_iff_ne.2 (Ne.symm h.1.1)
    rw [List.cons_append, collect, if_neg (Ne.symm h.2.1), hreturn, ih ⟨h.1.2, h.2.2⟩, List.length_cons]
    congr 1
    omega

/-- A line, and the lines after a break that ends it. -/
theorem collect_append_break (h : '\r' ∉ c ∧ '\n' ∉ c) (b : Break) (n s : Nat) (r : Text) :
    collect n s s false (c ++ b.text ++ r) =
      ⟨n, s, s + c.length⟩ :: collect (n + 1) (s + c.length + b.text.length) (s + c.length + b.text.length) false r := by
  rw [List.append_assoc, collect_append h]
  cases b with
  | lineFeed => rfl
  | returnLineFeed => rfl

/-- The line with content `c` after the lines `before`, the first of which has the number `n` and starts at `s`. -/
def after (b : Break) (n s : Nat) (before : List Text) (c : Text) : Line :=
  ⟨n + before.length, s + (Text.ended b before).length, s + (Text.ended b before).length + c.length⟩

theorem mem_collect_intercalate (h : AreContents cs) (hne : cs ≠ []) (n s : Nat) {l : Line} :
    l ∈ collect n s s false (b.text.intercalate cs) ↔
      ∃ before c rest, cs = before ++ c :: rest ∧ l = after b n s before c := by
  induction cs generalizing n s with
  | nil => exact absurd rfl hne
  | cons c cs ih =>
    obtain ⟨hc, hcs⟩ := List.forall_mem_cons.1 h
    have hfirst : after b n s [] c = ⟨n, s, s + c.length⟩ := rfl
    rcases eq_or_ne cs [] with rfl | hne
    · have hlines : collect n s s false c = [after b n s [] c] := by
        have h := collect_append hc n s s []
        rwa [List.append_nil] at h
      rw [List.intercalate_singleton, hlines, List.mem_singleton]
      constructor
      · intro hl
        exact ⟨[], c, [], rfl, hl⟩
      · rintro ⟨before, d, rest, heq, hl⟩
        obtain ⟨rfl, hd⟩ := List.append_eq_singleton_iff.1 heq.symm |>.resolve_right (by simp)
        obtain ⟨rfl, -⟩ := List.cons.inj hd
        exact hl
    · have hlater (before : List Text) (d : Text) :
          after b (n + 1) (s + c.length + b.text.length) before d = after b n s (c :: before) d := by
        simp only [after, Text.ended, List.flatMap_cons, List.length_append, List.length_cons, mk.injEq]
        omega
      rw [List.intercalate_cons_of_ne_nil hne, collect_append_break hc, List.mem_cons, ih hcs hne, ← hfirst]
      constructor
      · rintro (hl | ⟨before, d, rest, rfl, hl⟩)
        · exact ⟨[], c, cs, rfl, hl⟩
        · exact ⟨c :: before, d, rest, rfl, by rw [hl, hlater]⟩
      · rintro ⟨_ | ⟨c', before⟩, d, rest, heq, hl⟩
        · obtain ⟨rfl, -⟩ := List.cons.inj heq
          exact .inl hl
        · obtain ⟨rfl, rfl⟩ := List.cons.inj heq
          exact .inr ⟨before, d, rest, rfl, by rw [hl, hlater]⟩

/-- The lines of a text that is lines with breaks between them. -/
theorem mem_ofText_intercalate (h : AreContents cs) (hne : cs ≠ []) {l : Line} :
    l ∈ ofText (b.text.intercalate cs) ↔ ∃ before c rest, cs = before ++ c :: rest ∧ l = after b 1 0 before c :=
  mem_collect_intercalate h hne 1 0

end Line

end YamlStyle
