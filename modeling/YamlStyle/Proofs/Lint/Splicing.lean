import YamlStyle.Proofs.Lint.Tolerance

/-!
# The fault of syntax has one place among the problems

The fault comes right after the longest run of problems at earlier places, whether or not the
problems are sorted, and takes the place of the next one if that is just where the fault is
(`ofText_spliced`).
-/

namespace YamlStyle

namespace Problem

variable {p q : Problem}

theorem isBefore_iff_position_lt : p.isBefore q = true ↔ toLex p.position < toLex q.position := by
  rw [isBefore_iff, Prod.Lex.toLex_lt_toLex]
  rfl

theorem isAt_iff_position_eq : p.isAt q = true ↔ p.position = q.position := by
  rw [isAt_iff, position, position, Prod.mk.injEq]

end Problem

namespace Lint

/-- The fault stands after the longest run of problems at earlier places. Of the other problems only
the first is left out, and only where it stands at the place of the fault. -/
def IsSpliced (fault : Problem) (ps out : List Problem) : Prop :=
  ∃ earlier later, ps = earlier ++ later ∧
    (∀ p ∈ earlier, toLex p.position < toLex fault.position) ∧
    (∀ p ∈ later.head?, ¬toLex p.position < toLex fault.position) ∧
    out = earlier ++ fault :: if later.head?.any (·.position == fault.position) then later.tail else later

variable {t : Text} {fault : Problem} {ps out : List Problem}

/-! ## Splicing -/

theorem isSpliced_nil (fault : Problem) : IsSpliced fault [] [fault] := by
  refine ⟨[], [], rfl, ?_, ?_, rfl⟩
  · intro p hp
    cases hp
  · intro p hp
    cases hp

theorem IsSpliced.cons {p : Problem} (hp : toLex p.position < toLex fault.position) (h : IsSpliced fault ps out) :
    IsSpliced fault (p :: ps) (p :: out) := by
  obtain ⟨earlier, later, rfl, hearlier, hlater, rfl⟩ := h
  refine ⟨p :: earlier, later, rfl, ?_, hlater, rfl⟩
  intro q hq
  rcases List.mem_cons.1 hq with rfl | hq
  · exact hp
  · exact hearlier q hq

theorem isSpliced_here {p : Problem} (hp : ¬toLex p.position < toLex fault.position) (ps : List Problem) :
    IsSpliced fault (p :: ps) (fault :: if p.position == fault.position then ps else p :: ps) := by
  refine ⟨[], p :: ps, rfl, ?_, ?_, rfl⟩
  · intro q hq
    cases hq
  · intro q hq
    cases hq
    exact hp

theorem isSpliced_splice (fault : Problem) (ps : List Problem) : IsSpliced fault ps (splice (some fault) ps) := by
  induction ps with
  | nil => exact isSpliced_nil fault
  | cons p ps ih =>
    by_cases hp : p.isBefore fault = true
    · rw [splice_cons, if_pos hp]
      exact ih.cons (Problem.isBefore_iff_position_lt.1 hp)
    · have hhere := isSpliced_here (mt Problem.isBefore_iff_position_lt.2 hp) ps
      rw [splice_cons, if_neg hp]
      by_cases hat : fault.isAt p = true
      · rw [if_pos hat]
        rwa [if_pos (beq_iff_eq.2 (Problem.isAt_iff_position_eq.1 hat).symm)] at hhere
      · rw [if_neg hat]
        rwa [if_neg fun he => hat (Problem.isAt_iff_position_eq.2 (beq_iff_eq.1 he).symm)] at hhere

/-! ## What is left of the problems -/

/-- Among problems of rules a fault of no rule is there once. -/
theorem IsSpliced.count_eq_one (h : IsSpliced fault ps out) (hfault : fault ∉ ps) : out.count fault = 1 := by
  obtain ⟨earlier, later, rfl, -, -, rfl⟩ := h
  have hearlier : fault ∉ earlier := fun hmem => hfault (List.mem_append_left _ hmem)
  have hlater : fault ∉ later := fun hmem => hfault (List.mem_append_right _ hmem)
  rw [List.count_append, List.count_eq_zero_of_not_mem hearlier, List.count_cons_self, Nat.zero_add, Nat.add_eq_right]
  refine List.count_eq_zero_of_not_mem ?_
  split
  · exact fun hmem => hlater (List.mem_of_mem_tail hmem)
  · exact hlater

/-- Without the fault there are the problems, less one at most. -/
theorem IsSpliced.sublist_erase (h : IsSpliced fault ps out) (hfault : fault ∉ ps) :
    (out.erase fault).Sublist ps ∧ ps.length ≤ (out.erase fault).length + 1 := by
  obtain ⟨earlier, later, rfl, -, -, rfl⟩ := h
  have hearlier : fault ∉ earlier := fun hmem => hfault (List.mem_append_left _ hmem)
  rw [List.erase_append_right _ hearlier, List.erase_cons_head, List.length_append, List.length_append]
  split
  · refine ⟨(List.tail_sublist later).append_left earlier, ?_⟩
    rw [List.length_tail]
    omega
  · exact ⟨List.Sublist.refl _, by omega⟩

/-- The fault of syntax is of no rule, and problems are. -/
theorem rule_of_syntaxError (h : (syntaxError t).outcome = .ok (some fault)) : fault.rule = none := by
  unfold syntaxError at h
  split at h
  · cases h
  · split at h
    · cases h
    · cases h
      rfl

theorem not_mem_of_syntaxError {rules : List ConfiguredRule} (h : (syntaxError t).outcome = .ok (some fault))
    (hps : (cosmeticProblems t rules).outcome = .ok ps) : fault ∉ ps := by
  intro hmem
  obtain ⟨rule, -, hrule⟩ := signed_of_cosmeticProblems hps fault hmem
  rw [rule_of_syntaxError h] at hrule
  cases hrule

/-! ## Main theorem -/

theorem outcome_ofText {c : Config} {path : Option String} (h : Directive.isDisableFile (firstLine t) = false) :
    (ofText t c path).outcome = ((syntaxError t).outcome.mapError (Rule.Failure.unreadable t) >>= fun fault =>
      (cosmeticProblems t (c.rulesFor path)).outcome >>= fun ps => .ok (splice fault ps)) := by
  rw [ofText, if_neg (by rw [h]; exact Bool.false_ne_true), Logged.outcome_bind]
  congr 1
  funext fault
  rw [Logged.outcome_bind]
  rfl

/-- Unless a directive turns linting off, a text without a fault of syntax has the problems of the
rules. One with a fault has it once, right after the longest run of problems at earlier places, and
at most one problem less. Where there is no answer about the fault or the problems, there is none. -/
theorem ofText_spliced (t : Text) (c : Config) (path : Option String)
    (h : Directive.isDisableFile (firstLine t) = false) :
    (∀ f, (syntaxError t).outcome = .error f → (ofText t c path).outcome = .error (.unreadable t f)) ∧
    (∀ fault? e, (syntaxError t).outcome = .ok fault? →
      (cosmeticProblems t (c.rulesFor path)).outcome = .error e → (ofText t c path).outcome = .error e) ∧
    (∀ ps, (syntaxError t).outcome = .ok none → (cosmeticProblems t (c.rulesFor path)).outcome = .ok ps →
      (ofText t c path).outcome = .ok ps) ∧
    ∀ fault ps, (syntaxError t).outcome = .ok (some fault) →
      (cosmeticProblems t (c.rulesFor path)).outcome = .ok ps →
      ∃ out, (ofText t c path).outcome = .ok out ∧ IsSpliced fault ps out ∧
        out.count fault = 1 ∧ (out.erase fault).Sublist ps ∧ ps.length ≤ (out.erase fault).length + 1 := by
  refine ⟨fun f hf => ?_, fun fault? e hfault he => ?_, fun ps hnone hps => ?_, fun fault ps hfault hps => ?_⟩
  · rw [outcome_ofText h, hf]
    rfl
  · rw [outcome_ofText h, hfault, he]
    rfl
  · rw [outcome_ofText h, hnone, hps]
    exact congrArg Except.ok (splice_none ps)
  · have hspliced := isSpliced_splice fault ps
    have hnot := not_mem_of_syntaxError hfault hps
    refine ⟨splice (some fault) ps, ?_, hspliced, hspliced.count_eq_one hnot, hspliced.sublist_erase hnot⟩
    rw [outcome_ofText h, hfault, hps]
    rfl

/-- Rules for the length and the end of lines. -/
def lineRules : Config := { Config.nothing with rules := [
  ("line-length", some ⟨.line .lineLength, .error, [("max", .int 0), ("allow-non-breakable-words", .bool false),
    ("allow-non-breakable-inline-mappings", .bool false)], none⟩),
  ("trailing-spaces", some ⟨.line .trailingSpaces, .error, [], none⟩)] }

/-- The fault of a bracket in a mapping, where its line gets too long. -/
def strayBracket : Yaml.Failure :=
  .fault ⟨some .blockMapping, some ⟨0, 0, 0⟩, some (.expectedBlockEnd .flowSequenceEnd), some ⟨1, 0, 5⟩⟩

def strayBracketProblem : Problem :=
  syntaxProblem strayBracket (Yaml.Cause.expectedBlockEnd .flowSequenceEnd).phrase

def lineProblems : List Problem := [
  ⟨1, 1, "line too long (4 > 0 characters)", some "line-length", some .error⟩,
  ⟨2, 1, "line too long (2 > 0 characters)", some "line-length", some .error⟩,
  ⟨2, 2, "trailing spaces", some "trailing-spaces", some .error⟩]

theorem ofText_spliced_of_stray_bracket :
    Directive.isDisableFile (firstLine "a: 1\n] \n".toList) = false ∧
      (syntaxError "a: 1\n] \n".toList).outcome = .ok (some strayBracketProblem) ∧
      (cosmeticProblems "a: 1\n] \n".toList (lineRules.rulesFor none)).outcome = .ok lineProblems ∧
      ∃ out, (ofText "a: 1\n] \n".toList lineRules none).outcome = .ok out ∧
        IsSpliced strayBracketProblem lineProblems out ∧ out.count strayBracketProblem = 1 ∧
        (out.erase strayBracketProblem).Sublist lineProblems ∧
        lineProblems.length ≤ (out.erase strayBracketProblem).length + 1 := by
  have hdisable : Directive.isDisableFile (firstLine "a: 1\n] \n".toList) = false := by decide +kernel
  have hfailure : (Yaml.EventStream.ofText "a: 1\n] \n".toList).failure = some strayBracket := by decide +kernel
  have hfault : (syntaxError "a: 1\n] \n".toList).outcome = .ok (some strayBracketProblem) :=
    outcome_syntaxError hfailure rfl
  have hps : (cosmeticProblems "a: 1\n] \n".toList (lineRules.rulesFor none)).outcome = .ok lineProblems := by
    rw [outcome_cosmeticProblems_eq_reckoned]
    decide +kernel
  obtain ⟨-, -, -, h⟩ := ofText_spliced "a: 1\n] \n".toList lineRules none hdisable
  exact ⟨hdisable, hfault, hps, h _ _ hfault hps⟩

end Lint

end YamlStyle
