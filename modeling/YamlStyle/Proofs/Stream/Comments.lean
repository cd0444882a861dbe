import YamlStyle.Proofs.Lint.Tolerance
import YamlStyle.Proofs.Stream.Within

/-!
# Where comments are

In each gap between two lexemes that is looked at, a comment starts at the first hash sign of every
line, and nowhere else. A comment comes after the lexeme before its gap and before the lexeme after
it, so comments come in the order of the text (`ofText_commented`).
-/

namespace YamlStyle

variable {t : Text}

namespace Comment

/-! ## One gap -/

/-- Where the gap before a lexeme stops, or the one at the end of the text. -/
def gapStop (t : Text) (after : Option Lexeme) : Nat := (after.map (·.start.offset)).getD t.length

/-- Whether a gap is looked at: not where the lexemes around it are on one line, unless the stream starts or
ends there. -/
def IsScanned (x : Lexeme) (after : Option Lexeme) : Prop :=
  ∀ y ∈ after, x.stop.line = y.start.line → x.kind = .streamStart ∨ y.kind = .streamEnd

theorem gap_of_isScanned {x : Lexeme} {after : Option Lexeme} (h : IsScanned x after) :
    gap t x after = some (t.slice x.stop.offset (gapStop t after)) := by
  cases after with
  | none =>
    rw [gap, gapStop, Option.map_none, Option.getD_none, Text.slice, List.take_of_length_le (by simp)]
  | some y =>
    rw [gap, if_neg]
    · rfl
    · intro hskipped
      simp only [Bool.and_eq_true, beq_iff_eq, bne_iff_ne] at hskipped
      rcases h y rfl hskipped.1.1 with hkind | hkind
      · exact hskipped.1.2 hkind
      · exact hskipped.2 hkind

theorem gap_of_not_isScanned {x : Lexeme} {after : Option Lexeme} (h : ¬IsScanned x after) : gap t x after = none := by
  cases after with
  | none => exact absurd nofun h
  | some y =>
    rw [gap, if_pos]
    simp only [IsScanned, Option.mem_def, Option.some.injEq, forall_eq', not_forall, not_or] at h
    simpa [and_left_comm, and_assoc] using h

/-- The gap between two offsets is empty where the second is not after the first. -/
theorem isFirstHash_slice {a b o : Nat} (hb : b ≤ t.length) :
    IsFirstHash t a (a + (t.slice a b).length) o ↔ IsFirstHash t a b o := by
  have hlength : a + (t.slice a b).length = max a b := by
    rw [Text.slice, List.length_take, List.length_drop]
    omega
  rw [hlength]
  constructor
  · intro h
    exact ⟨h.le, by have := h.le; have := h.lt; omega, h.hash, h.first⟩
  · intro h
    exact ⟨h.le, Nat.lt_of_lt_of_le h.lt (Nat.le_max_right a b), h.hash, h.first⟩

/-- The comments of a gap are at the first hash signs of its lines, if it is looked at. -/
theorem mem_between_iff {x : Lexeme} {after : Option Lexeme} (hx : x.IsIn t) (hafter : ∀ y ∈ after, y.IsIn t)
    {p : Place} :
    p ∈ (between t x after).map (·.toPlace) ↔
      IsScanned x after ∧ p = .ofOffset t p.offset ∧ IsFirstHash t x.stop.offset (gapStop t after) p.offset := by
  have hstop : gapStop t after ≤ t.length := by
    cases after with
    | none => exact Nat.le_refl _
    | some y => exact (hafter y rfl).start_le_length
  rw [between]
  by_cases h : IsScanned x after
  · rw [gap_of_isScanned h]
    dsimp only
    have hplace : (⟨x.stop.line + 1, x.stop.column + 1, x.stop.offset⟩ : Place) = .ofOffset t x.stop.offset := by
      rw [Place.ofOffset, ← hx.stop]
    have hslice : t.slice x.stop.offset (gapStop t after) <+: t.drop x.stop.offset := List.take_prefix _ _
    rw [map_chain, hplace, mem_placesIn_iff hslice, isFirstHash_slice hstop]
    exact (and_iff_right h).symm
  · rw [gap_of_not_isScanned h]
    simp [h]

/-- Each comment of a gap knows the one before it there. -/
theorem linked_chain (before : Lexeme) (after : Option Lexeme) (previous : Option Place) (ps : List Place) :
    (∀ c ∈ (chain before after previous ps).head?, c.previous = previous) ∧
      (chain before after previous ps).IsChain fun c d => d.previous = some c.toPlace := by
  induction ps generalizing previous with
  | nil => exact ⟨fun c hc => (by cases hc), .nil⟩
  | cons p ps ih =>
    obtain ⟨hfirst, hlinked⟩ := ih (some p)
    refine ⟨fun c hc => ?_, List.isChain_cons.2 ⟨hfirst, hlinked⟩⟩
    cases hc
    rfl

theorem sides_of_mem_chain {before : Lexeme} {after : Option Lexeme} {previous : Option Place} {ps : List Place}
    {c : Comment} (h : c ∈ chain before after previous ps) : c.before = before ∧ c.after = after := by
  induction ps generalizing previous with
  | nil => cases h
  | cons p ps ih =>
    rcases List.mem_cons.1 h with rfl | h
    · exact ⟨rfl, rfl⟩
    · exact ih h

/-- What a gap has for comments: one on each line with a hash sign, at the first of them, if the gap is looked
at. -/
structure Fill (t : Text) (w : Window) (cs : List Comment) : Prop where
  between : ∀ c ∈ cs, c.before = w.curr ∧ c.after = w.next
  first : ∀ c ∈ cs.head?, c.previous = none
  linked : cs.IsChain fun c d => d.previous = some c.toPlace
  each : IsScanned w.curr w.next → ∀ o, w.curr.stop.offset ≤ o → o < gapStop t w.next → t[o]? = some '#' →
    ∃ c, (cs.filter fun c => c.line == ((LineIndex.ofText t).mark o).line + 1) = [c]
  skipped : ¬IsScanned w.curr w.next → cs = []

/-- A line of a gap with a hash sign has a first one. -/
theorem exists_isFirstHash {a b o : Nat} (ha : a ≤ o) (hb : o < b) (ho : t[o]? = some '#') :
    ∃ p, ((LineIndex.ofText t).mark p).line = ((LineIndex.ofText t).mark o).line ∧ IsFirstHash t a b p := by
  induction o using Nat.strong_induction_on with
  | _ o ih =>
    by_cases h : ∃ p, a ≤ p ∧ p < o ∧ ((LineIndex.ofText t).mark p).line = ((LineIndex.ofText t).mark o).line ∧
        t[p]? = some '#'
    · obtain ⟨p, hap, hpo, hline, hp⟩ := h
      obtain ⟨q, hq, hfirst⟩ := ih p hpo hap (Nat.lt_trans hpo hb) hp
      exact ⟨q, hq.trans hline, hfirst⟩
    · exact ⟨o, rfl, ha, hb, ho, fun p hap hpo hline hp => h ⟨p, hap, hpo, hline, hp⟩⟩

/-- Where no two comments are on one line, each is the only one on its line. -/
theorem filter_line_eq_singleton {cs : List Comment} (h : cs.Pairwise fun c d => c.line < d.line) {c : Comment}
    (hc : c ∈ cs) : (cs.filter fun d => d.line == c.line) = [c] := by
  induction h with
  | nil => cases hc
  | @cons d cs hd _ ih =>
    rcases List.mem_cons.1 hc with rfl | hc
    · have hnone : (cs.filter fun d => d.line == c.line) = [] := by
        rw [List.filter_eq_nil_iff]
        intro e he
        have := hd e he
        simp only [beq_iff_eq]
        omega
      rw [List.filter_cons_of_pos (by simp), hnone]
    · have hne : d.line ≠ c.line := Nat.ne_of_lt (hd c hc)
      rw [List.filter_cons_of_neg (by simpa using hne), ih hc]

theorem fill_between (w : Window) (hcurr : w.curr.IsIn t) (hnext : ∀ y ∈ w.next, y.IsIn t) :
    Fill t w (Comment.between t w.curr w.next) := by
  have hchained : ∃ ps, Comment.between t w.curr w.next = chain w.curr w.next none ps := by
    rw [Comment.between]
    cases gap t w.curr w.next with
    | none => exact ⟨[], rfl⟩
    | some g => exact ⟨_, rfl⟩
  obtain ⟨ps, hps⟩ := hchained
  have hlinked := linked_chain w.curr w.next none ps
  rw [← hps] at hlinked
  refine ⟨fun c hc => sides_of_mem_chain (hps ▸ hc), hlinked.1, hlinked.2, fun h o hlow hhigh ho => ?_, fun h => ?_⟩
  · obtain ⟨p, hline, hfirst⟩ := exists_isFirstHash hlow hhigh ho
    obtain ⟨c, hc, hplace⟩ := List.mem_map.1
      ((mem_between_iff (p := .ofOffset t p) hcurr hnext).2 ⟨h, rfl, hfirst⟩)
    have hcline : ((LineIndex.ofText t).mark o).line + 1 = c.line := by
      rw [← hline]
      exact congrArg Place.line hplace.symm
    rw [hcline]
    exact ⟨c, filter_line_eq_singleton (between_sorted t w.curr w.next) hc⟩
  · rw [Comment.between, gap_of_not_isScanned h]

end Comment

/-! ## The whole text -/

/-- A comment at the first hash sign that its line has in the gap between two lexemes. -/
structure Comment.IsPlaced (t : Text) (c : Comment) : Prop where
  place : c.toPlace = .ofOffset t c.offset
  hash : IsFirstHash t c.before.stop.offset (gapStop t c.after) c.offset

theorem Comment.isPlaced_of_mem_between {w : Window} (h : w.IsIn t) {c : Comment}
    (hc : c ∈ between t w.curr w.next) : c.IsPlaced t := by
  obtain ⟨hbefore, hafter⟩ := (fill_between w h.curr h.next).between c hc
  obtain ⟨-, hplace, hfirst⟩ := (mem_between_iff h.curr h.next).1 (List.mem_map_of_mem (f := (·.toPlace)) hc)
  refine ⟨hplace, ?_⟩
  rw [hbefore, hafter]
  exact hfirst

/-- A comment further down comes later in the text. -/
theorem Comment.offset_lt_of_line_lt {c d : Comment} (hc : c.IsPlaced t) (hd : d.IsPlaced t) (h : c.line < d.line) :
    c.offset < d.offset := by
  have hcline : c.line = ((LineIndex.ofText t).mark c.offset).line + 1 := congrArg Place.line hc.place
  have hdline : d.line = ((LineIndex.ofText t).mark d.offset).line + 1 := congrArg Place.line hd.place
  by_contra hle
  have := LineIndex.line_mark_mono t (Nat.le_of_not_lt hle)
  omega

/-- No gap stops after the lexemes that follow it. -/
theorem Window.pairwise_slide {prev : Option Lexeme} {xs : List Lexeme}
    (h : xs.Pairwise fun x y => x.start.offset ≤ y.start.offset) :
    (slide prev xs).Pairwise fun v w => Comment.gapStop t v.next ≤ w.curr.start.offset := by
  induction xs generalizing prev with
  | nil => exact .nil
  | cons x xs ih =>
    obtain ⟨-, hrest⟩ := List.pairwise_cons.1 h
    refine List.pairwise_cons.2 ⟨fun w hw => ?_, ih hrest⟩
    have hmem := curr_mem_of_mem_slide hw
    cases xs with
    | nil => cases hmem
    | cons y ys =>
      rcases List.mem_cons.1 hmem with hy | hy
      · rw [hy]
        exact Nat.le_refl _
      · exact List.rel_of_pairwise_cons hrest hy

/-- The comments among lexemes and comments are those of all gaps. -/
theorem Element.comments_ofWindows (t : Text) (ws : List Window) :
    comments (ofWindows t ws) = ws.flatMap fun w => Comment.between t w.curr w.next := by
  induction ws with
  | nil => rfl
  | cons w ws ih =>
    have hgap : comments ((Comment.between t w.curr w.next).map comment) = Comment.between t w.curr w.next := by
      rw [comments, List.filterMap_map]
      exact List.filterMap_some
    rw [ofWindows, List.flatMap_cons, List.flatMap_cons, ← ih, comments, List.filterMap_append]
    exact congrArg (· ++ comments (ofWindows t ws)) hgap

/-- The comments of a text are those of the gaps between its lexemes, in the order of the text. Each is at the
first hash sign of its line there, and each line of a gap with a hash sign has one, if the gap is looked at. -/
theorem ofText_commented (t : Text) :
    match (Lexeme.ofText t).outcome with
    | .error f => Yaml.TokenHazard t f
    | .ok xs =>
      let ws := Window.slide none xs
      let cs := Element.comments (Element.ofWindows t ws)
      cs = (ws.flatMap fun w => Comment.between t w.curr w.next) ∧
      (∀ w ∈ ws, Comment.Fill t w (Comment.between t w.curr w.next)) ∧
      (∀ c ∈ cs, c.IsPlaced t) ∧
      cs.Pairwise fun c d => c.offset < d.offset := by
  cases h : (Lexeme.ofText t).outcome with
  | error f => exact Tree.hazard_of_build (Lexeme.outcome_ofText_eq_error.1 h)
  | ok xs =>
    dsimp only
    have hin : ∀ w ∈ Window.slide none xs, w.IsIn t :=
      Window.isIn_of_mem_slide (fun _ h => by cases h) fun x hx => Lexeme.isIn_of_ofText h hx
    have hgaps : (Window.slide none xs).Pairwise fun v w => Comment.gapStop t v.next ≤ w.curr.start.offset :=
      Window.pairwise_slide (Lexeme.pairwise_start_of_ofText h)
    have hplaced : ∀ w ∈ Window.slide none xs, ∀ c ∈ Comment.between t w.curr w.next, c.IsPlaced t :=
      fun w hw _ hc => Comment.isPlaced_of_mem_between (hin w hw) hc
    rw [Element.comments_ofWindows, List.pairwise_flatMap]
    refine ⟨rfl, fun w hw => Comment.fill_between w (hin w hw).curr (hin w hw).next, fun c hc => ?_, fun w hw => ?_,
      hgaps.imp_of_mem fun {v w} hv hw hvw c hc d hd => ?_⟩
    · obtain ⟨w, hw, hc⟩ := List.mem_flatMap.1 hc
      exact hplaced w hw c hc
    · exact (Comment.between_sorted t w.curr w.next).imp_of_mem fun hc hd =>
        Comment.offset_lt_of_line_lt (hplaced w hw _ hc) (hplaced w hw _ hd)
    · -- Between two gaps there is the lexeme that the first of them stops at.
      have hlt := (hplaced v hv c hc).hash.lt
      have hle := (hplaced w hw d hd).hash.le
      rw [((Comment.fill_between v (hin v hv).curr (hin v hv).next).between c hc).2] at hlt
      rw [((Comment.fill_between w (hin w hw).curr (hin w hw).next).between d hd).1] at hle
      have hordered := (hin w hw).curr.ordered
      omega

end YamlStyle
