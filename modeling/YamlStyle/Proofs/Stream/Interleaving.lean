import YamlStyle.Proofs.Lint.Tolerance
import YamlStyle.Proofs.Stream.Pages

/-!
# The elements of a text are its lexemes, comments and lines

The merge gives every lexeme, comment and line once and keeps the order of either side. It compares
heads only. Since both sides come in the order of their lines, everything on a line is before the
line, and everything after it is further down (`ofText_interleaved`).
-/

namespace YamlStyle

namespace Element

variable {es ls : List Element} {n : Nat}

/-! ## Both sides of a merge -/

/-- A merge of elements and lines is the elements without its lines, and the lines without the others. -/
theorem filter_isLine_merge (le : Element → Element → Bool) (hes : ∀ e ∈ es, e.isLine = false)
    (hls : ∀ e ∈ ls, e.isLine = true) :
    (es.merge ls le).filter (!·.isLine) = es ∧ (es.merge ls le).filter (·.isLine) = ls := by
  induction es generalizing ls with
  | nil =>
    rw [List.nil_merge, List.filter_eq_nil_iff, List.filter_eq_self]
    exact ⟨fun e he => by simp [hls e he], hls⟩
  | cons e es ihe =>
    have he : e.isLine = false := hes e (.head _)
    have hes' : ∀ a ∈ es, a.isLine = false := fun a ha => hes a (.tail _ ha)
    induction ls with
    | nil =>
      rw [List.merge_right, List.filter_eq_nil_iff, List.filter_eq_self]
      exact ⟨fun a ha => by simp [hes a ha], fun a ha => by simp [hes a ha]⟩
    | cons l ls ihl =>
      have hl : l.isLine = true := hls l (.head _)
      rw [List.cons_merge_cons]
      split
      · obtain ⟨hleft, hright⟩ := ihe hes' hls
        rw [List.filter_cons_of_pos (by simp [he]), List.filter_cons_of_neg (by simp [he]), hleft, hright]
        exact ⟨rfl, rfl⟩
      · obtain ⟨hleft, hright⟩ := ihl fun a ha => hls a (.tail _ ha)
        rw [List.filter_cons_of_neg (by simp [hl]), List.filter_cons_of_pos hl, hleft, hright]
        exact ⟨rfl, rfl⟩

/-! ## Around a line -/

/-- Page by page, a line is after all of its page and before all of the next. -/
theorem Paged.around_line (h : Paged n es) {before after : List Element} {l : Line}
    (hes : es = before ++ .line l :: after) :
    (∀ e ∈ before, e.lineNumber ≤ l.number) ∧ ∀ e ∈ after, l.number < e.lineNumber := by
  induction h generalizing before with
  | nil => simp at hes
  | @elem n e es hline hn hne hp ih =>
    cases before with
    | nil =>
      cases hes
      cases hline
    | cons b before =>
      obtain ⟨rfl, rfl⟩ := List.cons.inj hes
      obtain ⟨hbefore, hafter⟩ := ih rfl
      refine ⟨fun a ha => ?_, hafter⟩
      rcases List.mem_cons.1 ha with rfl | ha
      · have hl : n ≤ l.number := hp.le_lineNumber (e := .line l) (by simp)
        omega
      · exact hbefore a ha
  | @line n l' es hn hp ih =>
    cases before with
    | nil =>
      cases hes
      refine ⟨by simp, fun a ha => ?_⟩
      have := hp.le_lineNumber ha
      omega
    | cons b before =>
      obtain ⟨rfl, rfl⟩ := List.cons.inj hes
      obtain ⟨hbefore, hafter⟩ := ih rfl
      refine ⟨fun a ha => ?_, hafter⟩
      rcases List.mem_cons.1 ha with rfl | ha
      · have hl : n + 1 ≤ l.number := hp.le_lineNumber (e := .line l) (by simp)
        simp only [lineNumber]
        omega
      · exact hbefore a ha

/-- The last page ends with its line. -/
theorem Paged.getLast? (h : Paged n es) (hne : es ≠ []) : ∃ l, es.getLast? = some (.line l) := by
  induction h with
  | nil => exact absurd rfl hne
  | elem hline hn hne' hp ih =>
    obtain ⟨l, hl⟩ := ih hne'
    exact ⟨l, by rw [List.getLast?_cons, hl]; rfl⟩
  | @line n l es hn hp ih =>
    by_cases hes : es = []
    · exact ⟨l, by rw [hes]; rfl⟩
    · obtain ⟨l', hl⟩ := ih hes
      exact ⟨l', by rw [List.getLast?_cons, hl]; rfl⟩

end Element

/-! ## The elements of a text -/

/-- A text that has lexemes has them, its comments and its lines as elements: each once, either kind
in its order, with each line right after what is on it. A text without lexemes carries a value that
no text may carry. -/
theorem ofText_interleaved (t : Text) :
    match (Lexeme.ofText t).outcome with
    | .error f => Yaml.TokenHazard t f
    | .ok xs =>
      let es := Element.ofLexemes t xs
      es.filter (!·.isLine) = Element.ofWindows t (Window.slide none xs) ∧
      es.filter (·.isLine) = (Line.ofText t).map .line ∧
      (∀ before l after, es = before ++ .line l :: after →
        (∀ e ∈ before, e.lineNumber ≤ l.number) ∧ ∀ e ∈ after, l.number < e.lineNumber) ∧
      ∃ l, es.getLast? = some (.line l) ∧ (Line.ofText t).getLast? = some l := by
  cases h : (Lexeme.ofText t).outcome with
  | error f => exact Tree.hazard_of_build (Lexeme.outcome_ofText_eq_error.1 h)
  | ok xs =>
    have hpaged : Element.Paged 1 (Element.ofLexemes t xs) := Lint.paged_of_ofText h
    obtain ⟨helems, hlines⟩ : (Element.ofLexemes t xs).filter (!·.isLine) = Element.ofWindows t (Window.slide none xs) ∧
        (Element.ofLexemes t xs).filter (·.isLine) = (Line.ofText t).map .line := by
      refine Element.filter_isLine_merge _ (fun e he => Element.isLine_of_mem_ofWindows he) fun e he => ?_
      obtain ⟨l, -, rfl⟩ := List.mem_map.1 he
      rfl
    have hne : Element.ofLexemes t xs ≠ [] := by
      intro hnil
      have hnumbers := Line.number_ofText t
      rw [hnil] at hlines
      rw [List.map_eq_nil_iff.1 hlines.symm] at hnumbers
      simp [List.range'_succ] at hnumbers
    obtain ⟨l, hl⟩ := hpaged.getLast? hne
    refine ⟨helems, hlines, fun before l after hes => hpaged.around_line hes, l, hl, ?_⟩
    -- The last element is a line, so it is the last of the lines.
    obtain ⟨init, hinit⟩ := List.getLast?_eq_some_iff.1 hl
    rw [hinit, List.filter_append, List.filter_cons_of_pos rfl, List.filter_nil] at hlines
    have hlast := congrArg List.getLast? hlines
    rw [List.getLast?_concat, List.getLast?_map] at hlast
    obtain ⟨l', hl', hline⟩ := Option.map_eq_some_iff.1 hlast.symm
    rw [hl', Element.line.inj hline]

end YamlStyle
