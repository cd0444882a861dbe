import YamlStyle.Proofs.Lint.Order

/-!
# What a directive leaves on its line

A directive for one line that names no rule takes away all problems with the elements of that line.
A problem with an element of another line is not asked for the line it is reported on, so problems
that stray are left, and no others (`cosmeticProblems_disabledLine`).
-/

namespace YamlStyle.Lint

variable {t : Text} {cs : List Comment} {rules : List ConfiguredRule}

/-- Whether a comment turns all rules off on the line it is about. -/
def DisablesLine (t : Text) (d : Comment) : Prop := Directive.ofComment? (d.text t) = some (.disableLine [])

theorem DisablesLine.isSilenced {d : Comment} (h : DisablesLine t d) (hd : d ∈ cs) {p : Problem} {rule : String}
    (hp : p.rule = some rule) : isSilenced t cs (d.subject t) p = true := by
  have hoff : isOffOnLine t cs (d.subject t) rule = true := by
    rw [isOffOnLine, List.any_eq_true]
    refine ⟨d, hd, ?_⟩
    rw [beq_self_eq_true, Bool.true_and, Directive.turnsOffOnLine, h]
    rfl
  rw [Lint.isSilenced, hp, Option.any_some, hoff, Bool.true_or]

/-- Where directives silence all that rules emit on a line, only what they emit on others is left. -/
theorem unsilenced_filter_of_silenced {emitted : List (Element × List Problem)} {n : Nat}
    (h : ∀ x ∈ emitted, x.1.lineNumber = n → ∀ p ∈ x.2, isSilenced t cs n p = true) :
    unsilenced t cs (emitted.filter fun x => x.1.lineNumber != n) = unsilenced t cs emitted := by
  induction emitted with
  | nil => rfl
  | cons x rest ih =>
    have hrest := ih fun x hx => h x (.tail _ hx)
    by_cases hn : x.1.lineNumber = n
    · rw [List.filter_cons_of_neg (by simp [hn]), hrest, unsilenced_cons, List.filter_eq_nil_iff.2, List.nil_append]
      intro p hp
      simp [hn, h x (.head _) hn p hp]
    · rw [List.filter_cons_of_pos (by simp [hn]), unsilenced_cons, unsilenced_cons, hrest]

theorem mem_unsilenced {emitted : List (Element × List Problem)} {p : Problem} (h : p ∈ unsilenced t cs emitted) :
    ∃ x ∈ emitted, p ∈ x.2 ∧ isSilenced t cs x.1.lineNumber p = false := by
  obtain ⟨x, hx, hp⟩ := List.mem_flatMap.1 h
  obtain ⟨hmem, hkept⟩ := List.mem_filter.1 hp
  exact ⟨x, hx, hmem, by simpa using hkept⟩

/-- What is given out is what rules emit, less what directives silence. -/
theorem perm_of_cosmeticProblems {ps : List Problem} (h : (cosmeticProblems t rules).outcome = .ok ps) :
    ∃ emitted, (emissionsOn t rules).outcome = .ok emitted ∧
      ps.Perm (unsilenced t (Element.comments (emitted.map (·.1))) emitted) := by
  rw [outcome_cosmeticProblems] at h
  cases he : (emissionsOn t rules).outcome with
  | error e => rw [he] at h; cases h
  | ok emitted =>
    rw [he] at h
    cases h
    have hperm := release_perm [] (sift t (rules.map (·.rule.name)) .start emitted)
    rw [flatMap_sift_of_emissionsOn he] at hperm
    exact ⟨emitted, rfl, hperm⟩

/-- On the line that a directive turns all rules off on, exactly those problems are left that rules
emit on other lines and no directive silences there. Each of them is of a kind that may stray. -/
theorem cosmeticProblems_disabledLine (t : Text) (c : Config) (path : Option String) {xs : List Lexeme}
    (hxs : (Lexeme.ofText t).outcome = .ok xs) {d : Comment} (hd : d ∈ Element.comments (Element.ofLexemes t xs))
    (hdisables : DisablesLine t d) {ps : List Problem}
    (hps : (cosmeticProblems t (c.rulesFor path)).outcome = .ok ps) :
    ∃ emitted, (emissionsOn t (c.rulesFor path)).outcome = .ok emitted ∧
      (ps.filter fun p => p.line == (d.subject t : Int)).Perm
        ((unsilenced t (Element.comments (Element.ofLexemes t xs))
          (emitted.filter fun x => x.1.lineNumber != d.subject t)).filter fun p => p.line == (d.subject t : Int)) ∧
      ∀ p ∈ ps, p.line = d.subject t →
        ∃ x ∈ emitted, x.1.lineNumber ≠ d.subject t ∧ p ∈ x.2 ∧ IsStray (c.rulesFor path) x.1 p := by
  obtain ⟨emitted, he, hperm⟩ := perm_of_cosmeticProblems hps
  obtain ⟨xs', hxs', hwalk⟩ := emissionsOn_eq_ok.1 he
  rw [hxs] at hxs'
  cases hxs'
  obtain ⟨hmap, hsigned⟩ := emissions_signed (Watches.named_ofRules _) hwalk
  rw [hmap] at hperm
  have hsilenced : ∀ x ∈ emitted, x.1.lineNumber = d.subject t → ∀ p ∈ x.2,
      isSilenced t (Element.comments (Element.ofLexemes t xs)) (d.subject t) p = true := by
    intro x hx _ p hp
    obtain ⟨rule, -, hrule⟩ := hsigned x hx p hp
    exact hdisables.isSilenced hd hrule
  rw [← unsilenced_filter_of_silenced hsilenced] at hperm
  refine ⟨emitted, he, hperm.filter _, fun p hp hline => ?_⟩
  obtain ⟨x, hx, hmem, -⟩ := mem_unsilenced (hperm.mem_iff.1 hp)
  obtain ⟨hx, hother⟩ := List.mem_filter.1 hx
  have hne : x.1.lineNumber ≠ d.subject t := by simpa using hother
  refine ⟨x, hx, hne, hmem, ?_⟩
  rcases (line_of_emissionsOn he x hx).2 p hmem with hhere | hstray
  · exact absurd (Int.ofNat.inj (hhere.symm.trans hline)) hne
  · exact hstray

/-- Rules for the later lines of scalars, the end of documents and the length of lines. -/
def strayingRules : Config := { Config.nothing with rules := [
  ("document-end", some ⟨.lexeme .documentEnd, .error, [("present", .bool true)], none⟩),
  ("indentation", some ⟨.lexeme .indentation, .error, [("spaces", .text "consistent"),
    ("indent-sequences", .bool true), ("check-multi-line-strings", .bool true)], none⟩),
  ("line-length", some ⟨.line .lineLength, .error, [("max", .int 0), ("allow-non-breakable-words", .bool false),
    ("allow-non-breakable-inline-mappings", .bool false)], none⟩)] }

/-- A scalar of two lines, and a directive for the second of them. -/
def twoLineScalar : Text := "a: \"x\n   y\"  # yamllint disable-line\n".toList

def directiveAfterScalar : Comment where
  line := 2
  column := 8
  offset := 13
  before := ⟨.scalar, ⟨0, 3, 3⟩, ⟨1, 5, 11⟩, some "x y", some .double⟩
  after := some ⟨.blockEnd, ⟨2, 0, 37⟩, ⟨2, 0, 37⟩, none, none⟩
  previous := none

def scalarProblems : List Problem := [
  ⟨1, 1, "line too long (5 > 0 characters)", some "line-length", some .error⟩,
  ⟨2, 1, "missing document end \"...\"", some "document-end", some .error⟩,
  ⟨2, 4, "wrong indentation: expected 4 but found 3", some "indentation", some .error⟩]

theorem mem_comments_twoLineScalar : ∃ xs, (Lexeme.ofText twoLineScalar).outcome = .ok xs ∧
    directiveAfterScalar ∈ Element.comments (Element.ofLexemes twoLineScalar xs) := by
  have h : (Lexeme.ofText twoLineScalar).outcome.toOption.map
      (fun xs => Element.comments (Element.ofLexemes twoLineScalar xs)) = some [directiveAfterScalar] := by
    simp only [Lexeme.outcome_ofText_eq_reckoned, ofLexemes_eq_reckonedElements]
    cbv
  obtain ⟨xs, hxs, hcomments⟩ := exists_of_toOption h
  refine ⟨xs, hxs, ?_⟩
  rw [hcomments]
  exact List.mem_singleton_self _

theorem disablesLine_directiveAfterScalar : DisablesLine twoLineScalar directiveAfterScalar := by
  unfold DisablesLine
  decide +kernel

theorem cosmeticProblems_twoLineScalar :
    (cosmeticProblems twoLineScalar (strayingRules.rulesFor none)).outcome = .ok scalarProblems := by
  rw [outcome_cosmeticProblems_eq_reckoned]
  decide +kernel

theorem cosmeticProblems_disabledLine_of_two_line_scalar :
    ∃ xs, (Lexeme.ofText twoLineScalar).outcome = .ok xs ∧
      directiveAfterScalar ∈ Element.comments (Element.ofLexemes twoLineScalar xs) ∧
      DisablesLine twoLineScalar directiveAfterScalar ∧
      (cosmeticProblems twoLineScalar (strayingRules.rulesFor none)).outcome = .ok scalarProblems ∧
      ∃ emitted, (emissionsOn twoLineScalar (strayingRules.rulesFor none)).outcome = .ok emitted ∧
        (scalarProblems.filter fun p => p.line == (directiveAfterScalar.subject twoLineScalar : Int)).Perm
          ((unsilenced twoLineScalar (Element.comments (Element.ofLexemes twoLineScalar xs))
            (emitted.filter fun x => x.1.lineNumber != directiveAfterScalar.subject twoLineScalar)).filter
              fun p => p.line == (directiveAfterScalar.subject twoLineScalar : Int)) ∧
        ∀ p ∈ scalarProblems, p.line = directiveAfterScalar.subject twoLineScalar → ∃ x ∈ emitted,
          x.1.lineNumber ≠ directiveAfterScalar.subject twoLineScalar ∧ p ∈ x.2 ∧
            IsStray (strayingRules.rulesFor none) x.1 p := by
  obtain ⟨xs, hxs, hd⟩ := mem_comments_twoLineScalar
  have h := cosmeticProblems_disabledLine twoLineScalar strayingRules none hxs hd
    disablesLine_directiveAfterScalar cosmeticProblems_twoLineScalar
  exact ⟨xs, hxs, hd, disablesLine_directiveAfterScalar, cosmeticProblems_twoLineScalar, h⟩

/-- The second line of the scalar and the mark that the document misses are problems on the line. -/
theorem not_disabledLine_of_two_line_scalar :
    ∃ xs, (Lexeme.ofText twoLineScalar).outcome = .ok xs ∧
      directiveAfterScalar ∈ Element.comments (Element.ofLexemes twoLineScalar xs) ∧
      DisablesLine twoLineScalar directiveAfterScalar ∧ directiveAfterScalar.isInline twoLineScalar = true ∧
      ∃ ps, (cosmeticProblems twoLineScalar (strayingRules.rulesFor none)).outcome = .ok ps ∧
        ¬∀ p ∈ ps, p.line ≠ directiveAfterScalar.line := by
  obtain ⟨xs, hxs, hd⟩ := mem_comments_twoLineScalar
  have hinline : directiveAfterScalar.isInline twoLineScalar = true := by cbv
  refine ⟨xs, hxs, hd, disablesLine_directiveAfterScalar, hinline, scalarProblems, cosmeticProblems_twoLineScalar, ?_⟩
  decide

end YamlStyle.Lint
