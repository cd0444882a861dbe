import YamlStyle.Proofs.Lint.Emissions
import YamlStyle.Proofs.Rule.Places
import YamlStyle.Proofs.Stream.Pages

/-!
# Problems on other lines than their elements

On a text, each problem that is emitted is on the line of its element, or it is of a kind that may
stray (`line_of_emissionsOn`): the mark that a document misses at its end, an anchor without an alias,
a key below its mark, and a later line of a scalar.
-/

namespace YamlStyle

/-! ## The elements of a text -/

theorem Window.forward_of_mem_slide {prev : Option Lexeme} {xs : List Lexeme} {w : Window}
    (hs : xs.Pairwise fun x y => x.start.line ≤ y.start.line) (h : w ∈ Window.slide prev xs) : w.Forward := by
  induction xs generalizing prev with
  | nil => cases h
  | cons x xs ih =>
    rcases List.mem_cons.1 h with rfl | h
    · intro y hy
      exact List.rel_of_pairwise_cons hs (List.mem_of_getElem? hy)
    · exact ih hs.of_cons h

theorem Line.start_pos_of_mem_collect {n s o : Nat} {r : Bool} {t : Text} {l : Line} (hs : 0 < s)
    (h : l ∈ collect n s o r t) : 0 < l.start := by
  induction t generalizing n s o r with
  | nil =>
    rw [List.mem_singleton.1 h]
    exact hs
  | cons c t ih =>
    rw [collect] at h
    split at h
    · rcases List.mem_cons.1 h with rfl | h
      · exact hs
      · exact ih (Nat.succ_pos o) h
    · exact ih hs h

theorem Line.number_of_mem_collect {n s o : Nat} {r : Bool} {t : Text} {l : Line} (h : l ∈ collect n s o r t) :
    l.number = n ∨ 0 < l.start := by
  induction t generalizing o r with
  | nil =>
    rw [List.mem_singleton.1 h]
    exact .inl rfl
  | cons c t ih =>
    rw [collect] at h
    split at h
    · rcases List.mem_cons.1 h with rfl | h
      · exact .inl rfl
      · exact .inr (start_pos_of_mem_collect (Nat.succ_pos o) h)
    · exact ih h

namespace Element

/-- A lexeme that is not after the next one, or a line that only starts the text if it is the first. -/
def IsPlaced : Element → Prop
  | lexeme w => w.Forward
  | comment _ => True
  | line l => l.start = 0 → l.number = 1

/-- The elements of a text are windows on its lexemes, comments and its lines. -/
theorem forall_mem_ofLexemes {P : Element → Prop} {t : Text} {xs : List Lexeme}
    (hlexeme : ∀ w ∈ Window.slide none xs, P (.lexeme w)) (hcomment : ∀ c, P (.comment c))
    (hline : ∀ l ∈ Line.ofText t, P (.line l)) : ∀ e ∈ ofLexemes t xs, P e := by
  intro e h
  rcases List.mem_merge.1 h with h | h
  · obtain ⟨w, hw, h⟩ := List.mem_flatMap.1 h
    rcases List.mem_cons.1 h with rfl | h
    · exact hlexeme w hw
    · obtain ⟨c, -, rfl⟩ := List.mem_map.1 h
      exact hcomment c
  · obtain ⟨l, hl, rfl⟩ := List.mem_map.1 h
    exact hline l hl

theorem isPlaced_of_mem_ofLexemes {t : Text} {xs : List Lexeme} (hs : xs.Pairwise fun x y => x.start.line ≤ y.start.line) :
    ∀ e ∈ ofLexemes t xs, e.IsPlaced := by
  refine forall_mem_ofLexemes (fun w hw => Window.forward_of_mem_slide hs hw) (fun _ => trivial) fun l hl h0 => ?_
  rcases Line.number_of_mem_collect hl with hn | hpos
  · exact hn
  · omega

end Element

theorem Lexeme.pairwise_line_of_ofText {t : Text} {xs : List Lexeme} (h : (ofText t).outcome = .ok xs) :
    xs.Pairwise fun x y => x.start.line ≤ y.start.line := by
  obtain ⟨root, -, rfl⟩ := outcome_ofText_eq_ok.1 h
  exact ofTree_sorted t root

namespace Lint

variable {t : Text} {rules : List ConfiguredRule}

/-! ## One element -/

/-- A watch that a rule of the run has set up, in whatever state. -/
def Watch.IsFrom (rules : List ConfiguredRule) (watch : Watch) : Prop :=
  ∃ c ∈ rules, ∃ r state, c.rule = .lexeme r ∧ watch = ⟨r, c.level, r.options c.options, state⟩

theorem Watches.isFrom_ofRules : ∀ watch ∈ (ofRules rules).lexeme, watch.IsFrom rules := by
  intro watch hw
  obtain ⟨c, hc, r, hr, rfl⟩ := mem_lexeme_ofRules hw
  exact ⟨c, hc, r, _, hr, rfl⟩

/-- A report that a rule of the run makes of an element and that may be on another line. -/
def IsStray (rules : List ConfiguredRule) (e : Element) (p : Problem) : Prop :=
  ∃ c ∈ rules, ∃ r w f, c.rule = .lexeme r ∧ e = .lexeme w ∧ r.Strays (r.options c.options) w f ∧
    p = stamp r.name c.level f

theorem Watch.line_of_check {w : Window} {watch : Watch} (hfrom : watch.IsFrom rules) :
    (watch.check t w).Meets (fun r => r.1.IsFrom rules ∧
      ∀ p ∈ r.2, p.line = (Element.lexeme w).lineNumber ∨ IsStray rules (.lexeme w) p) fun _ => True := by
  refine Logged.meets_of_ok fun result h => ?_
  obtain ⟨c, hc, r, state, hr, rfl⟩ := hfrom
  obtain ⟨⟨state', findings⟩, hcheck, h⟩ := Logged.outcome_bind_eq_ok.1 h
  cases h
  refine ⟨⟨c, hc, r, state', hr, rfl⟩, fun p hp => ?_⟩
  obtain ⟨f, hf, rfl⟩ := List.mem_map.1 hp
  rcases r.line_of_check hcheck f hf with hline | hstray
  · exact .inl hline
  · exact .inr ⟨c, hc, r, w, f, hr, rfl, hstray, rfl⟩

theorem Watches.line_of_check {e : Element} {ws : Watches} (he : e.IsPlaced)
    (hfrom : ∀ watch ∈ ws.lexeme, watch.IsFrom rules) :
    (ws.check t e).Meets (fun r => (∀ watch ∈ r.1.lexeme, watch.IsFrom rules) ∧
      ∀ p ∈ r.2, p.line = e.lineNumber ∨ IsStray rules e p) fun _ => True := by
  cases e with
  | lexeme w =>
    refine (meets_checkLexeme (fun watch hw => Watch.line_of_check hw) hfrom).bind fun r ⟨hfrom', hline⟩ => ?_
    exact Logged.meets_pure ⟨hfrom', hline⟩
  | comment c =>
    refine Logged.meets_pure ⟨hfrom, fun p hp => .inl ?_⟩
    obtain ⟨⟨r, configured⟩, -, hp⟩ := List.mem_flatMap.1 hp
    obtain ⟨f, hf, rfl⟩ := List.mem_map.1 hp
    exact CommentRule.onLines_check _ c r f hf
  | line l =>
    have hcheck : ∀ r ∈ ws.line, (r.1.check r.2.options t l).Meets
        (fun fs => ∀ f ∈ fs, (stamp r.1.name r.2.level f).line = l.number) fun _ => True :=
      fun r _ => Logged.meets_of_ok fun fs hfs => LineRule.onLines_check he hfs
    exact (meets_checkLine hcheck).bind fun ps hps => Logged.meets_pure ⟨hfrom, fun p hp => .inl (hps p hp)⟩

/-! ## A text -/

/-- What rules emit of an element of a text is on the line of the element or may stray. -/
theorem line_of_emissionsOn {emitted : List (Element × List Problem)}
    (h : (emissionsOn t rules).outcome = .ok emitted) :
    ∀ x ∈ emitted, x.1.IsPlaced ∧ ∀ p ∈ x.2, p.line = x.1.lineNumber ∨ IsStray rules x.1 p := by
  obtain ⟨xs, hxs, h⟩ := emissionsOn_eq_ok.1 h
  have hs := Lexeme.pairwise_line_of_ofText hxs
  have hplaced := Element.isPlaced_of_mem_ofLexemes (t := t) hs
  have hwalk := meets_emissions (t := t) (Q := fun e p => p.line = e.lineNumber ∨ IsStray rules e p)
    (fun ws hws e he => Watches.line_of_check (hplaced e he) hws) Watches.isFrom_ofRules
  obtain ⟨hmap, hline⟩ := hwalk.1 emitted h
  refine fun x hx => ⟨hplaced x.1 ?_, hline x hx⟩
  rw [← hmap]
  exact List.mem_map_of_mem hx

end Lint

end YamlStyle
