import YamlStyle.Path.Pattern
import Mathlib.Data.List.Induction

/-!
# What path patterns name

`consumed` enumerates cuts of a path; `Names` says which cuts there should be, and
`mem_consumed_iff` that the enumeration holds these and no others. The main statement,
`isMatch_iff_covers`, reads a pattern and a list of patterns off that relation alone.
-/

namespace YamlStyle

namespace PathPattern

/-- Segments of a pattern name parts of a path: `**` any number of them, every other segment the
one part that its glob accepts. -/
inductive Names : List Text → List Text → Prop
  | nil : Names [] []
  | span {segments parts : List Text} (skipped : List Text) (rest : Names segments parts) :
    Names ("**".toList :: segments) (skipped ++ parts)
  | single {segment part : Text} {segments parts : List Text} (plain : segment ≠ "**".toList)
    (accepts : (Glob.ofText segment).isMatch part = true) (rest : Names segments parts) :
    Names (segment :: segments) (part :: parts)

theorem names_nil_iff {parts : List Text} : Names [] parts ↔ parts = [] := by
  refine ⟨?_, ?_⟩
  · rintro ⟨⟩
    rfl
  · rintro rfl
    exact .nil

theorem names_span_iff {segments parts : List Text} :
    Names ("**".toList :: segments) parts ↔ ∃ k ≤ parts.length, Names segments (parts.drop k) := by
  refine ⟨fun h => ?_, ?_⟩
  · generalize hs : "**".toList :: segments = all at h
    cases h with
    | nil => simp at hs
    | span skipped rest =>
      obtain ⟨-, rfl⟩ := List.cons.inj hs
      exact ⟨skipped.length, by simp, by simpa using rest⟩
    | single plain => exact absurd (List.cons.inj hs).1.symm plain
  · rintro ⟨k, -, hk⟩
    have := Names.span (parts.take k) hk
    rwa [List.take_append_drop] at this

theorem names_single_iff {segment : Text} {segments parts : List Text} (plain : segment ≠ "**".toList) :
    Names (segment :: segments) parts ↔
      ∃ part rest, parts = part :: rest ∧ (Glob.ofText segment).isMatch part = true ∧ Names segments rest := by
  refine ⟨fun h => ?_, ?_⟩
  · generalize hs : segment :: segments = all at h
    cases h with
    | nil => simp at hs
    | span => exact absurd (List.cons.inj hs).1 plain
    | single _ accepts rest =>
      obtain ⟨rfl, rfl⟩ := List.cons.inj hs
      exact ⟨_, _, rfl, accepts, rest⟩
  · rintro ⟨part, rest, rfl, accepts, h⟩
    exact .single plain accepts h

theorem consumed_nil (parts : List Text) : consumed [] parts = [0] := rfl

theorem consumed_span (segments parts : List Text) :
    consumed ("**".toList :: segments) parts = (List.range (parts.length + 1)).flatMap fun skipped =>
      (consumed segments (parts.drop skipped)).map (skipped + ·) := if_pos (beq_self_eq_true _)

theorem consumed_single_nil {segment : Text} (plain : segment ≠ "**".toList) (segments : List Text) :
    consumed (segment :: segments) [] = [] := if_neg (by simpa using plain)

theorem consumed_single_cons {segment : Text} (plain : segment ≠ "**".toList) (segments : List Text) (part : Text)
    (rest : List Text) : consumed (segment :: segments) (part :: rest) =
      if (Glob.ofText segment).isMatch part then (consumed segments rest).map (1 + ·) else [] :=
  if_neg (by simpa using plain)

/-- The enumeration holds a number exactly if that many leading parts are named. -/
theorem mem_consumed_iff {segments parts : List Text} {n : Nat} :
    n ∈ consumed segments parts ↔ n ≤ parts.length ∧ Names segments (parts.take n) := by
  induction segments generalizing parts n with
  | nil =>
    simp only [consumed_nil, List.mem_singleton, names_nil_iff, List.take_eq_nil_iff]
    refine ⟨?_, ?_⟩
    · rintro rfl
      simp
    · rintro ⟨h, rfl | rfl⟩
      · rfl
      · simpa using h
  | cons head segments ih =>
    by_cases hh : head = "**".toList
    · subst hh
      simp only [consumed_span, List.mem_flatMap, List.mem_range, List.mem_map, ih, names_span_iff,
        List.length_take, List.length_drop, List.drop_take]
      refine ⟨?_, ?_⟩
      · rintro ⟨k, hk, used, ⟨hu, hn⟩, rfl⟩
        exact ⟨by omega, k, by omega, by simpa using hn⟩
      · rintro ⟨hn, k, hk, h⟩
        exact ⟨k, by omega, n - k, ⟨by omega, h⟩, by omega⟩
    · rw [names_single_iff hh]
      cases parts with
      | nil => simp [consumed_single_nil hh]
      | cons part rest =>
        rw [consumed_single_cons hh]
        refine ⟨fun h => ?_, ?_⟩
        · split at h
          · obtain ⟨used, hu, rfl⟩ := List.mem_map.1 h
            obtain ⟨hle, hn⟩ := ih.1 hu
            exact ⟨by simp only [List.length_cons]; omega, part, rest.take used,
              by rw [Nat.add_comm, List.take_succ_cons], ‹_›, hn⟩
          · simp at h
        · rintro ⟨hn, part', rest', he, ha, hr⟩
          cases n with
          | zero => simp at he
          | succ n =>
            obtain ⟨rfl, rfl⟩ := List.cons.inj he
            rw [if_pos ha]
            exact List.mem_map.2 ⟨n, ih.2 ⟨by simpa using hn, hr⟩, by omega⟩

/-- The parts of a path, without the slashes around it. -/
def parts (path : Text) : List Text := (Text.trim (· == '/') (normalize path)).splitOn '/'

/-- A pattern covers a path: its segments name the parts from `i` up to `j`, from the root if it is
anchored, and with a part left below if it asks for a directory. -/
def Covers (p : PathPattern) (path : Text) : Prop :=
  ∃ i j, i ≤ j ∧ j ≤ (parts path).length ∧
    (if p.anchored then i = 0 else i < (parts path).length) ∧
    Names (p.pattern.splitOn '/') (((parts path).take j).drop i) ∧
    (p.directoryOnly = true → j < (parts path).length)

/-- The search that matching is, with the enumeration read as a choice of how many parts are used. -/
theorem isMatch_iff_exists (p : PathPattern) (path : Text) : p.isMatch path = true ↔
    ∃ i, (if p.anchored then i = 0 else i < (parts path).length) ∧
      ∃ used ∈ consumed (p.pattern.splitOn '/') ((parts path).drop i),
        p.directoryOnly = true → i + used < (parts path).length := by
  have starts (i : Nat) : (i ∈ if p.anchored then [0] else List.range (parts path).length) ↔
      if p.anchored then i = 0 else i < (parts path).length := by
    split
    · exact List.mem_singleton
    · exact List.mem_range
  show List.any (if p.anchored then [0] else List.range (parts path).length) _ = true ↔ _
  simp only [List.any_eq_true, starts, Bool.or_eq_true, Bool.not_eq_true', decide_eq_true_eq,
    ← imp_iff_not_or, Bool.eq_false_iff]
  rfl

theorem isMatch_eq_true_iff (p : PathPattern) (path : Text) : p.isMatch path = true ↔ p.Covers path := by
  rw [isMatch_iff_exists]
  refine ⟨?_, ?_⟩
  · rintro ⟨i, hi, used, hu, hd⟩
    obtain ⟨hle, hn⟩ := mem_consumed_iff.1 hu
    have hm : i ≤ (parts path).length := by
      split at hi <;> omega
    rw [List.length_drop] at hle
    refine ⟨i, i + used, by omega, by omega, hi, ?_, hd⟩
    rwa [List.drop_take, Nat.add_sub_cancel_left]
  · rintro ⟨i, j, hij, hj, hi, hn, hd⟩
    refine ⟨i, hi, j - i, mem_consumed_iff.2 ⟨?_, ?_⟩, fun h => ?_⟩
    · rw [List.length_drop]
      omega
    · rwa [List.drop_take] at hn
    · have := hd h
      omega

end PathPattern

namespace PathPatterns

/-- What the last of the patterns says, if it matches. -/
theorem isMatch_concat (ps : PathPatterns) (p : PathPattern) (path : Text) :
    isMatch (ps ++ [p]) path = if p.isMatch path then !p.negated else isMatch ps path := by
  simp [isMatch, List.foldl_append]

theorem isMatch_append_of_forall {ps after : PathPatterns} {path : Text}
    (h : ∀ q ∈ after, q.isMatch path = false) : isMatch (ps ++ after) path = isMatch ps path := by
  induction after using List.reverseRecOn with
  | nil => rw [List.append_nil]
  | append_singleton after q ih =>
    rw [← List.append_assoc, isMatch_concat, if_neg (by simp [h q]), ih fun r hr => h r (by simp [hr])]

/-- Patterns that say something about a path have a last one that does. -/
theorem exists_last_of_isMatch {ps : PathPatterns} {path : Text} (h : isMatch ps path = true) :
    ∃ before p after, ps = before ++ p :: after ∧ p.isMatch path = true ∧ p.negated = false ∧
      ∀ q ∈ after, q.isMatch path = false := by
  induction ps using List.reverseRecOn with
  | nil => simp [isMatch] at h
  | append_singleton ps p ih =>
    rw [isMatch_concat] at h
    by_cases hp : p.isMatch path = true
    · rw [if_pos hp, Bool.not_eq_true'] at h
      exact ⟨ps, p, [], rfl, hp, h, by simp⟩
    · rw [if_neg hp] at h
      obtain ⟨before, q, after, rfl, hq, hn, ha⟩ := ih h
      refine ⟨before, q, after ++ [p], by simp, hq, hn, fun r hr => ?_⟩
      rcases List.mem_append.1 hr with hr | hr
      · exact ha r hr
      · rw [List.mem_singleton.1 hr]
        exact Bool.eq_false_iff.2 hp

end PathPatterns

/-- A pattern matches the paths that it covers, and of several patterns the last one that covers a
path decides: it is matched if there is one and it is not negated. -/
theorem isMatch_iff_covers :
    (∀ (p : PathPattern) (path : Text), p.isMatch path = true ↔ p.Covers path) ∧
      ∀ (ps : PathPatterns) (path : Text), ps.isMatch path = true ↔
        ∃ before p after, ps = before ++ p :: after ∧ p.Covers path ∧ p.negated = false ∧
          ∀ q ∈ after, ¬ q.Covers path := by
  refine ⟨PathPattern.isMatch_eq_true_iff, fun ps path => ?_⟩
  simp only [← PathPattern.isMatch_eq_true_iff, Bool.not_eq_true]
  refine ⟨PathPatterns.exists_last_of_isMatch, ?_⟩
  rintro ⟨before, p, after, rfl, hp, hn, ha⟩
  rw [List.append_cons, PathPatterns.isMatch_append_of_forall ha, PathPatterns.isMatch_concat, if_pos hp, hn]
  rfl

/-- A directory is covered with all that is below it, and is not covered itself. -/
example : (PathPattern.ofLine? "**/build/".toList).map (fun p =>
    (p.isMatch "./out/build/a.yaml".toList, p.isMatch "out/build".toList)) = some (true, false) := by
  cbv

end YamlStyle
