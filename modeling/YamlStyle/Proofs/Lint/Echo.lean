import YamlStyle.Proofs.Lint.Splicing

/-!
# Echoes of a fault of syntax

A problem of a rule at the place of the fault is likely a result of it. Only one of them is left out: the
first problem not before the fault, if it stands at that place. `run_echoes` says which problems of a run
are still there beside the fault, and when there are none.
-/

namespace YamlStyle.Lint

variable {fault : Problem} {ps out : List Problem}

/-- The problems at the place of the fault. -/
def echoes (fault : Problem) (ps : List Problem) : List Problem := ps.filter (·.isAt fault)

/-- The problem that the fault is put before. -/
def overtaken (fault : Problem) (ps : List Problem) : Option Problem := ps.find? fun p => !p.isBefore fault

/-! ## Around the fault -/

theorem isAt_eq_false_of_lt {p : Problem} (h : toLex p.position < toLex fault.position) : p.isAt fault = false := by
  rw [Bool.eq_false_iff, Ne, Problem.isAt_iff_position_eq]
  intro he
  rw [he] at h
  exact lt_irrefl _ h

theorem echoes_append_of_lt {earlier : List Problem} (h : ∀ p ∈ earlier, toLex p.position < toLex fault.position)
    (later : List Problem) : echoes fault (earlier ++ later) = echoes fault later := by
  have hnone : earlier.filter (·.isAt fault) = [] :=
    List.filter_eq_nil_iff.2 fun p hp => by rw [isAt_eq_false_of_lt (h p hp)]; exact Bool.false_ne_true
  rw [echoes, List.filter_append, hnone, List.nil_append, echoes]

theorem overtaken_append {earlier later : List Problem}
    (hearlier : ∀ p ∈ earlier, toLex p.position < toLex fault.position)
    (hlater : ∀ p ∈ later.head?, ¬toLex p.position < toLex fault.position) :
    overtaken fault (earlier ++ later) = later.head? := by
  have hnone : earlier.find? (fun p => !p.isBefore fault) = none :=
    List.find?_eq_none.2 fun p hp => by rw [Problem.isBefore_iff_position_lt.2 (hearlier p hp)]; exact Bool.false_ne_true
  rw [overtaken, List.find?_append, hnone, Option.none_or]
  cases later with
  | nil => rfl
  | cons p later =>
    rw [List.find?_cons_of_pos]
    · rfl
    · rw [Bool.not_eq_true', Bool.eq_false_iff, Ne, Problem.isBefore_iff_position_lt]
      exact hlater p rfl

theorem echoes_tail {p : Problem} {later : List Problem} (h : p.isAt fault = true) :
    echoes fault later = (echoes fault (p :: later)).tail := by
  have hcons : (p :: later).filter (·.isAt fault) = p :: later.filter (·.isAt fault) := List.filter_cons_of_pos h
  rw [echoes, echoes, hcons, List.tail_cons]

/-- Of the problems at the place of the fault the first is left out, provided that it is the one
overtaken. -/
theorem IsSpliced.echoes_erase (h : IsSpliced fault ps out) (hfault : fault ∉ ps) :
    echoes fault (out.erase fault) =
      if (overtaken fault ps).any (·.isAt fault) then (echoes fault ps).tail else echoes fault ps := by
  obtain ⟨earlier, later, rfl, hearlier, hlater, rfl⟩ := h
  rw [List.erase_append_right _ fun hmem => hfault (List.mem_append_left _ hmem), List.erase_cons_head,
    echoes_append_of_lt hearlier, echoes_append_of_lt hearlier, overtaken_append hearlier hlater]
  cases later with
  | nil => rfl
  | cons p later =>
    rw [List.head?_cons, Option.any_some, Option.any_some, List.tail_cons]
    by_cases hp : p.isAt fault = true
    · rw [if_pos (beq_iff_eq.2 (Problem.isAt_iff_position_eq.1 hp)), if_pos hp, echoes_tail hp]
    · rw [if_neg fun he => hp (Problem.isAt_iff_position_eq.2 (beq_iff_eq.1 he)), if_neg hp]

theorem IsSpliced.eq_or_mem {p : Problem} (h : IsSpliced fault ps out) (hp : p ∈ out) : p = fault ∨ p ∈ ps := by
  obtain ⟨earlier, later, rfl, -, -, rfl⟩ := h
  rcases List.mem_append.1 hp with hp | hp
  · exact .inr (List.mem_append_left _ hp)
  rcases List.mem_cons.1 hp with rfl | hp
  · exact .inl rfl
  · refine .inr (List.mem_append_right _ ?_)
    split at hp
    · exact List.mem_of_mem_tail hp
    · exact hp

/-! ## How many are left -/

theorem overtaken_mem_echoes {p : Problem} (h : overtaken fault ps = some p) (hp : p.isAt fault = true) :
    p ∈ echoes fault ps :=
  List.mem_filter.2 ⟨List.mem_of_find?_eq_some h, hp⟩

theorem tail_or_self_eq_nil_iff : (if (overtaken fault ps).any (·.isAt fault) then (echoes fault ps).tail
      else echoes fault ps) = [] ↔
    echoes fault ps = [] ∨ ∃ p, echoes fault ps = [p] ∧ overtaken fault ps = some p := by
  refine ⟨fun h => ?_, ?_⟩
  · split at h
    · next hany =>
      obtain ⟨p, hp, hat⟩ := (Option.any_eq_true _ _).1 hany
      have hmem := overtaken_mem_echoes hp hat
      cases he : echoes fault ps with
      | nil => exact .inl rfl
      | cons q rest =>
        rw [he, List.tail_cons] at h
        rw [he, h] at hmem
        exact .inr ⟨p, by rw [h, List.mem_singleton.1 hmem], hp⟩
    · exact .inl h
  · rintro (h | ⟨p, h, hp⟩)
    · rw [h]
      exact ite_self _
    · have hat : p.isAt fault = true := (List.mem_filter.1 (h ▸ List.mem_singleton_self p : p ∈ echoes fault ps)).2
      rw [hp, Option.any_some, if_pos hat, h, List.tail_cons]

/-- Where the problems come in order, the one overtaken is the first at the place of the fault. -/
theorem overtaken_isAt_of_sorted (hsorted : Problem.Sorted ps)
    (h : echoes fault ps ≠ []) : (overtaken fault ps).any (·.isAt fault) = true := by
  obtain ⟨q, hq⟩ := List.exists_mem_of_ne_nil _ h
  obtain ⟨hmem, hat⟩ := List.mem_filter.1 hq
  have hnot : ¬q.isBefore fault = true := fun hb => by
    rw [isAt_eq_false_of_lt (Problem.isBefore_iff_position_lt.1 hb)] at hat
    cases hat
  cases ho : overtaken fault ps with
  | none => exact absurd (by simpa using hnot) (List.find?_eq_none.1 ho q hmem)
  | some p =>
    obtain ⟨hp, before, after, rfl, hbefore⟩ := List.find?_eq_some_iff_append.1 ho
    rcases List.mem_append.1 hmem with hq | hq
    · exact absurd (by simpa using hbefore q hq) hnot
    rcases List.mem_cons.1 hq with rfl | hq
    · exact hat
    have hle := (List.pairwise_cons.1 (List.pairwise_append.1 hsorted).2.1).1 q hq
    rw [← Bool.not_eq_true, Problem.isBefore_iff_position_lt, not_lt, Problem.isAt_iff_position_eq.1 hat] at hle
    rw [Bool.not_eq_true', Bool.eq_false_iff, Ne, Problem.isBefore_iff_position_lt, not_lt] at hp
    exact Problem.isAt_iff_position_eq.2 (toLex.injective (le_antisymm hle hp))

/-! ## Main theorem -/

/-- A problem of a run that is of no rule is the fault of the text, spliced into the problems of rules. -/
theorem isSpliced_of_run {asked : Text.Asked} {input : Input} {c : Config} {path : Option String}
    (h : (run asked input c path).outcome = .ok out) (hmem : fault ∈ out) (hrule : fault.rule = none) :
    ∃ t ps, (input.decode asked).outcome = .ok t ∧ (syntaxError t).outcome = .ok (some fault) ∧
      (cosmeticProblems t (c.rulesFor path)).outcome = .ok ps ∧ IsSpliced fault ps out := by
  unfold run at h
  split at h
  · cases h
    cases hmem
  obtain ⟨t, ht, h⟩ := Logged.outcome_bind_eq_ok.1 h
  replace h : (ofText t c path).outcome = .ok out := Logged.outcome_mapError_eq_ok.1 h
  by_cases hdisable : Directive.isDisableFile (firstLine t) = true
  · rw [ofText, if_pos hdisable] at h
    cases h
    cases hmem
  rw [ofText, if_neg hdisable] at h
  obtain ⟨fault?, hfault, h⟩ := Logged.outcome_bind_eq_ok.1 h
  obtain ⟨ps, hps, h⟩ := Logged.outcome_bind_eq_ok.1 h
  replace hfault := Logged.outcome_mapError_eq_ok.1 hfault
  have hof : fault ∉ ps := fun hin => by
    obtain ⟨rule, -, hr⟩ := signed_of_cosmeticProblems hps fault hin
    rw [hr] at hrule
    cases hrule
  obtain rfl : splice fault? ps = out := Except.ok.inj h
  cases fault? with
  | none => exact absurd (splice_none ps ▸ hmem) hof
  | some f =>
    have hspliced := isSpliced_splice f ps
    obtain rfl : fault = f := (hspliced.eq_or_mem hmem).resolve_right hof
    exact ⟨t, ps, ht, hfault, hps, hspliced⟩

/-- Beside a fault of syntax a run gives the problems of rules at its place, without the first of them if
that is the problem overtaken, as it is where the problems come in order. So the fault stands alone exactly
if the rules have no problem at its place, or a single one, which is the one overtaken. -/
theorem run_echoes {asked : Text.Asked} {input : Input} {c : Config} {path : Option String}
    (h : (run asked input c path).outcome = .ok out) (hmem : fault ∈ out) (hrule : fault.rule = none) :
    ∃ t ps, (input.decode asked).outcome = .ok t ∧ (syntaxError t).outcome = .ok (some fault) ∧
      (cosmeticProblems t (c.rulesFor path)).outcome = .ok ps ∧
      echoes fault (out.erase fault) =
        (if (overtaken fault ps).any (·.isAt fault) then (echoes fault ps).tail else echoes fault ps) ∧
      (Problem.Sorted ps → echoes fault (out.erase fault) = (echoes fault ps).tail) ∧
      (echoes fault (out.erase fault) = [] ↔
        echoes fault ps = [] ∨ ∃ p, echoes fault ps = [p] ∧ overtaken fault ps = some p) := by
  obtain ⟨t, ps, ht, hfault, hps, hspliced⟩ := isSpliced_of_run h hmem hrule
  have hechoes := hspliced.echoes_erase (not_mem_of_syntaxError hfault hps)
  refine ⟨t, ps, ht, hfault, hps, hechoes, fun hsorted => ?_, ?_⟩
  · rw [hechoes]
    by_cases hnil : echoes fault ps = []
    · rw [hnil, List.tail_nil]
      exact ite_self _
    · exact if_pos (overtaken_isAt_of_sorted hsorted hnil)
  · rw [hechoes]
    exact tail_or_self_eq_nil_iff

/-- A rule for the start of documents and one for the length of lines. -/
def startRules : Config := { Config.nothing with rules := [
  ("document-start", some ⟨.lexeme .documentStart, .error, [("present", .bool true)], none⟩),
  ("line-length", some ⟨.line .lineLength, .error, [("max", .int 0), ("allow-non-breakable-words", .bool false),
    ("allow-non-breakable-inline-mappings", .bool false)], none⟩)] }

/-- The fault of a bracket that nothing opens. -/
def loneBracket : Yaml.Failure :=
  .fault ⟨some .blockNode, some ⟨0, 0, 0⟩, some (.expectedContent .flowSequenceEnd), some ⟨0, 0, 0⟩⟩

def loneBracketProblem : Problem :=
  syntaxProblem loneBracket (Yaml.Cause.expectedContent .flowSequenceEnd).phrase

def missingStart : Problem := ⟨1, 1, "missing document start \"---\"", some "document-start", some .error⟩

def longBracketLine : Problem := ⟨1, 1, "line too long (1 > 0 characters)", some "line-length", some .error⟩

theorem cosmeticProblems_loneBracket :
    (cosmeticProblems "]\n".toList (startRules.rulesFor none)).outcome = .ok [missingStart, longBracketLine] := by
  rw [outcome_cosmeticProblems_eq_reckoned]
  decide +kernel

theorem run_loneBracket : (run (pure none) (.text "]\n".toList) startRules none).outcome =
    .ok [loneBracketProblem, longBracketLine] := by
  have hdisable : Directive.isDisableFile (firstLine "]\n".toList) = false := by cbv
  have hfailure : (Yaml.EventStream.ofText "]\n".toList).failure = some loneBracket := by cbv
  rw [outcome_run rfl hdisable (outcome_syntaxError hfailure rfl), cosmeticProblems_loneBracket]
  rfl

theorem run_echoes_of_lone_bracket :
    (run (pure none) (.text "]\n".toList) startRules none).outcome = .ok [loneBracketProblem, longBracketLine] ∧
      loneBracketProblem ∈ [loneBracketProblem, longBracketLine] ∧ loneBracketProblem.rule = none ∧
      echoes loneBracketProblem ([loneBracketProblem, longBracketLine].erase loneBracketProblem) ≠ [] ∧
      ∃ ps, (cosmeticProblems "]\n".toList (startRules.rulesFor none)).outcome = .ok ps ∧
        echoes loneBracketProblem ([loneBracketProblem, longBracketLine].erase loneBracketProblem) =
          (echoes loneBracketProblem ps).tail := by
  have hmem : loneBracketProblem ∈ [loneBracketProblem, longBracketLine] := List.mem_cons_self
  obtain ⟨t, ps, ht, -, hps, -, hsorted, -⟩ := run_echoes run_loneBracket hmem rfl
  obtain rfl : "]\n".toList = t := Except.ok.inj ht
  have heq : [missingStart, longBracketLine] = ps := Except.ok.inj (cosmeticProblems_loneBracket.symm.trans hps)
  exact ⟨run_loneBracket, hmem, rfl, by decide, ps, hps, hsorted (heq ▸ by decide)⟩

/-- Two rules have a problem at the place of the bracket, and one of these problems is left. -/
theorem not_alone_of_lone_bracket :
    ∃ ps, (run (pure none) (.text "]\n".toList) startRules none).outcome = .ok ps ∧
      ∃ fault ∈ ps, fault.rule = none ∧ ∃ p ∈ ps, p ≠ fault ∧ p.position = fault.position :=
  ⟨_, run_loneBracket, loneBracketProblem, .head _, rfl, longBracketLine, .tail _ (.head _), by decide, by decide⟩

end YamlStyle.Lint
