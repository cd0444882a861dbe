import YamlStyle.Proofs.Lexeme.Ordered
import YamlStyle.Stream

/-!
# Each line ends its page

The elements of a text come page by page: the lexemes and comments of a line, then the line
itself. Nothing comes after the last line.
-/

namespace YamlStyle

/-! ## Comments between lexemes -/

namespace Comment

theorem mem_placesIn {p q : Place} {segments : List Text} (h : q ∈ placesIn p segments) :
    p.line ≤ q.line ∧ q.line < p.line + segments.length := by
  induction segments generalizing p with
  | nil => simp [placesIn] at h
  | cons segment segments ih =>
    have hrest : q ∈ placesIn ⟨p.line + 1, 1, p.offset + segment.length + 1⟩ segments →
        p.line ≤ q.line ∧ q.line < p.line + (segments.length + 1) := by
      intro h
      have := ih h
      simp only at this
      omega
    rw [placesIn] at h
    split at h
    · rcases List.mem_cons.1 h with rfl | h
      · simp
      · exact hrest h
    · exact hrest h

theorem placesIn_sorted (p : Place) (segments : List Text) :
    (placesIn p segments).Pairwise fun a b => a.line < b.line := by
  induction segments generalizing p with
  | nil => exact .nil
  | cons segment segments ih =>
    rw [placesIn]
    split
    · refine .cons (fun q hq => ?_) (ih _)
      have := mem_placesIn hq
      simp only at this ⊢
      omega
    · exact ih _

theorem map_chain (before : Lexeme) (after : Option Lexeme) (previous : Option Place) (ps : List Place) :
    (chain before after previous ps).map (·.toPlace) = ps := by
  induction ps generalizing previous with
  | nil => rfl
  | cons p ps ih => rw [chain, List.map_cons, ih]

theorem between_sorted (t : Text) (x : Lexeme) (after : Option Lexeme) :
    (between t x after).Pairwise fun a b => a.line < b.line := by
  unfold between
  split
  · exact .nil
  · next g _ =>
    have hs := placesIn_sorted ⟨x.stop.line + 1, x.stop.column + 1, x.stop.offset⟩ (g.splitOn '\n')
    rw [← map_chain x after none (placesIn _ _), List.pairwise_map] at hs
    exact hs

/-- The comments in a gap are on the lines from that of the end of one lexeme as far as the gap goes. -/
theorem mem_between {t : Text} {x : Lexeme} {after : Option Lexeme} {c : Comment} (h : c ∈ between t x after) :
    x.stop.line < c.line ∧ ∃ g, gap t x after = some g ∧ g ≠ [] ∧ c.line ≤ x.stop.line + 1 + g.count '\n' := by
  unfold between at h
  split at h
  · simp at h
  · next g hg =>
    have hp : c.toPlace ∈ placesIn ⟨x.stop.line + 1, x.stop.column + 1, x.stop.offset⟩ (g.splitOn '\n') := by
      rw [← map_chain x after none (placesIn _ _)]
      exact List.mem_map_of_mem h
    have hline := mem_placesIn hp
    rw [Text.length_splitOn] at hline
    simp only at hline
    refine ⟨by omega, g, hg, ?_, by omega⟩
    rintro rfl
    simp [Text.splitOn, placesIn] at hp

/-- A comment before a lexeme is not on a later line than the lexeme. -/
theorem line_le_of_mem_between {t : Text} {x y : Lexeme} {c : Comment} (hx : x.Marked t) (hy : y.Marked t)
    (h : c ∈ between t x (some y)) : c.line ≤ y.start.line + 1 := by
  obtain ⟨-, g, hg, hne, hle⟩ := mem_between h
  have hslice : g = t.slice x.stop.offset y.start.offset := by
    unfold gap at hg
    simp only at hg
    split at hg <;> simp_all
  have horder : x.stop.offset ≤ y.start.offset := by
    rcases Nat.le_total x.stop.offset y.start.offset with h | h
    · exact h
    · exact absurd (hslice.trans (Text.slice_eq_nil h)) hne
  have hcount := congrArg (List.count '\n') (Text.take_append_slice t horder)
  rw [List.count_append, ← hslice, ← LineIndex.line_mark, ← LineIndex.line_mark, ← hx.stop, ← hy.start] at hcount
  omega

/-- A comment after the last lexeme is not beyond the last line. -/
theorem line_le_of_mem_between_none {t : Text} {x : Lexeme} {c : Comment} (hx : x.Marked t)
    (h : c ∈ between t x none) : c.line ≤ t.count '\n' + 1 := by
  obtain ⟨-, g, hg, -, hle⟩ := mem_between h
  have hg : t.drop x.stop.offset = g := Option.some.inj hg
  have hcount := congrArg (List.count '\n') (List.take_append_drop x.stop.offset t)
  rw [List.count_append, ← LineIndex.line_mark, ← hx.stop, hg] at hcount
  omega

end Comment

/-! ## Lexemes and comments -/

namespace Element

def isLine : Element → Bool
  | line _ => true
  | _ => false

theorem isLine_of_mem_ofWindows {t : Text} {ws : List Window} {e : Element} (h : e ∈ ofWindows t ws) :
    e.isLine = false := by
  obtain ⟨w, -, h⟩ := List.mem_flatMap.1 h
  rcases List.mem_cons.1 h with rfl | h
  · rfl
  · obtain ⟨c, -, rfl⟩ := List.mem_map.1 h
    rfl

theorem ofWindows_slide_cons (t : Text) (prev : Option Lexeme) (x : Lexeme) (xs : List Lexeme) :
    ofWindows t (Window.slide prev (x :: xs)) =
      lexeme ⟨prev, x, xs[0]?, xs[1]?⟩ :: ((Comment.between t x xs[0]?).map comment ++
        ofWindows t (Window.slide (some x) xs)) := rfl

/-- Lexemes and comments are not before the first lexeme nor beyond the last line. -/
theorem lineNumber_of_mem_ofWindows {t : Text} {prev : Option Lexeme} {xs : List Lexeme} {n : Nat}
    {e : Element} (hm : ∀ x ∈ xs, x.Marked t) (hn : ∀ x ∈ xs, n ≤ x.start.line + 1)
    (he : e ∈ ofWindows t (Window.slide prev xs)) : n ≤ e.lineNumber ∧ e.lineNumber ≤ t.count '\n' + 1 := by
  induction xs generalizing prev with
  | nil => simp [Window.slide, ofWindows] at he
  | cons x xs ih =>
    have hx := hm x (.head _)
    have hnx := hn x (.head _)
    rw [ofWindows_slide_cons] at he
    rcases List.mem_cons.1 he with rfl | he
    · refine ⟨hnx, ?_⟩
      have := LineIndex.line_mark_le t x.start.offset
      rw [← hx.start] at this
      simp only [lineNumber]
      omega
    rcases List.mem_append.1 he with he | he
    · obtain ⟨c, hc, rfl⟩ := List.mem_map.1 he
      have hlow := (Comment.mem_between hc).1
      have := hx.line_start_le
      refine ⟨by simp only [lineNumber]; omega, ?_⟩
      simp only [lineNumber]
      cases xs with
      | nil => exact Comment.line_le_of_mem_between_none hx hc
      | cons y ys =>
        have hy := hm y (by simp)
        have hle := Comment.line_le_of_mem_between hx hy hc
        have := LineIndex.line_mark_le t y.start.offset
        rw [← hy.start] at this
        omega
    · exact ih (fun y hy => hm y (.tail _ hy)) (fun y hy => hn y (.tail _ hy)) he

theorem ofWindows_sorted {t : Text} {prev : Option Lexeme} {xs : List Lexeme} (hm : ∀ x ∈ xs, x.Marked t)
    (hs : xs.Pairwise fun x y => x.start.line ≤ y.start.line) :
    (ofWindows t (Window.slide prev xs)).Pairwise fun a b => a.lineNumber ≤ b.lineNumber := by
  induction xs generalizing prev with
  | nil => exact .nil
  | cons x xs ih =>
    have hx := hm x (.head _)
    have hmxs : ∀ y ∈ xs, y.Marked t := fun y hy => hm y (.tail _ hy)
    rw [ofWindows_slide_cons]
    refine .cons (fun e he => ?_) (List.pairwise_append.2 ⟨?_, ih hmxs hs.of_cons, ?_⟩)
    · have he : e ∈ ofWindows t (Window.slide prev (x :: xs)) := List.mem_cons_of_mem _ he
      refine (lineNumber_of_mem_ofWindows hm (fun y hy => ?_) he).1
      rcases List.mem_cons.1 hy with rfl | hy
      · exact Nat.le_refl _
      · exact Nat.succ_le_succ (List.rel_of_pairwise_cons hs hy)
    · exact List.Pairwise.map comment (fun _ _ h => Nat.le_of_lt h) (Comment.between_sorted t x _)
    · intro a ha b hb
      obtain ⟨c, hc, rfl⟩ := List.mem_map.1 ha
      cases xs with
      | nil => simp [Window.slide, ofWindows] at hb
      | cons y ys =>
        have hle := Comment.line_le_of_mem_between hx (hmxs y (.head _)) hc
        refine Nat.le_trans hle (lineNumber_of_mem_ofWindows hmxs (fun z hz => ?_) hb).1
        rcases List.mem_cons.1 hz with rfl | hz
        · exact Nat.le_refl _
        · exact Nat.succ_le_succ (List.rel_of_pairwise_cons hs.of_cons hz)

/-! ## Pages -/

/-- Elements page by page from line `n` on: those of each line, then the line. -/
inductive Paged : Nat → List Element → Prop
  | nil (n : Nat) : Paged n []
  | elem {n : Nat} {e : Element} {es : List Element} :
      e.isLine = false → e.lineNumber = n → es ≠ [] → Paged n es → Paged n (e :: es)
  | line {n : Nat} {l : Line} {es : List Element} :
      l.number = n → Paged (n + 1) es → Paged n (.line l :: es)

theorem Paged.le_lineNumber {n : Nat} {es : List Element} (h : Paged n es) {e : Element} (he : e ∈ es) :
    n ≤ e.lineNumber := by
  induction h with
  | nil => simp at he
  | elem _ hn _ _ ih =>
    rcases List.mem_cons.1 he with rfl | he
    · omega
    · exact ih he
  | line hn _ ih =>
    rcases List.mem_cons.1 he with rfl | he
    · simp only [lineNumber]; omega
    · have := ih he; omega

/-- Sorted elements that are on the lines `n` to `n + k - 1` fall on their pages when they are
merged with these lines. -/
theorem paged_merge {n k : Nat} {es : List Element} {ls : List Line} (hl : ls.map (·.number) = List.range' n k)
    (hline : ∀ e ∈ es, e.isLine = false) (hs : es.Pairwise fun a b => a.lineNumber ≤ b.lineNumber)
    (hb : ∀ e ∈ es, n ≤ e.lineNumber ∧ e.lineNumber < n + k) :
    Paged n (es.merge (ls.map line) fun a b => a.lineNumber ≤ b.lineNumber) := by
  induction k generalizing n es ls with
  | zero =>
    have hls : ls = [] := by simpa using hl
    cases es with
    | nil => rw [hls, List.map_nil, List.nil_merge]; exact .nil n
    | cons e es => have := hb e (.head _); omega
  | succ k ihk =>
    cases ls with
    | nil => simp [List.range'_succ] at hl
    | cons l ls =>
      have hnum : l.number = n ∧ ls.map (·.number) = List.range' (n + 1) k := by
        simpa [List.range'_succ] using hl
      -- The elements on line `n` go first, then the line, then what is on later lines.
      induction es with
      | nil =>
        have hrest := @ihk (n + 1) [] ls hnum.2 (by simp) .nil (by simp)
        rw [List.nil_merge] at hrest ⊢
        exact .line hnum.1 hrest
      | cons e es ihe =>
        rw [List.map_cons, List.cons_merge_cons]
        split
        · next hle =>
          have he := hb e (.head _)
          have hnl : (line l).lineNumber = n := hnum.1
          simp only [hnl, decide_eq_true_eq] at hle
          refine .elem (hline e (.head _)) (by omega) ?_
            (ihe (fun a ha => hline a (.tail _ ha)) hs.of_cons (fun a ha => hb a (.tail _ ha)))
          -- The lines are still to come, so this element is not the last.
          intro hnil
          have := congrArg List.length hnil
          simp [List.length_merge] at this
        · next hlt =>
          refine .line hnum.1 (ihk hnum.2 hline hs fun a ha => ?_)
          have hea : e.lineNumber ≤ a.lineNumber := by
            rcases List.mem_cons.1 ha with rfl | ha
            · exact Nat.le_refl _
            · exact List.rel_of_pairwise_cons hs ha
          have hba := hb a ha
          have hnl : (line l).lineNumber = n := hnum.1
          simp only [hnl, decide_eq_true_eq] at hlt
          omega

/-- The elements of a text come page by page, whatever tree its lexemes are made of. -/
theorem ofLexemes_paged (t : Text) (root : Node) : Paged 1 (ofLexemes t (Lexeme.ofTree t root)) := by
  have hm : ∀ x ∈ Lexeme.ofTree t root, x.Marked t := fun x hx => Lexeme.marked_of_mem_ofTree hx
  refine paged_merge (Line.number_ofText t) (fun e he => isLine_of_mem_ofWindows he)
    (ofWindows_sorted hm (Lexeme.ofTree_sorted t root)) (fun e he => ?_)
  have := lineNumber_of_mem_ofWindows hm (fun x _ => Nat.le_add_left 1 x.start.line) he
  omega

end Element

end YamlStyle
