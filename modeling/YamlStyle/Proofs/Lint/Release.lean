import YamlStyle.Proofs.Lexeme.Reckoning
import YamlStyle.Proofs.Lint.Sifting

/-!
# Release gives problems out in order

Release sorts what has been found so far at the end of each line, and gives out what is on earlier
lines. Problems of one place always keep the order in which they were found (`filter_isAt_release`).
Problems of different places come in order unless one was found more than a line too late
(`release_sorted`). So where none is late, release gives the stable sort of all problems.
-/

namespace YamlStyle

namespace Problem

variable {p q r : Problem} {ps qs : List Problem}

theorem isBefore_iff : p.isBefore q = true ↔ p.line < q.line ∨ p.line = q.line ∧ p.column < q.column := by
  simp [isBefore]

theorem isBefore_eq_false_iff :
    p.isBefore q = false ↔ q.line < p.line ∨ q.line = p.line ∧ q.column ≤ p.column := by
  rw [Bool.eq_false_iff, ne_eq, isBefore_iff]
  omega

theorem isAt_iff : p.isAt q = true ↔ p.line = q.line ∧ p.column = q.column := by simp [isAt]

theorem isAt_self (p : Problem) : p.isAt p = true := isAt_iff.2 ⟨rfl, rfl⟩

/-- No problem stands at an earlier place than one that comes first. -/
abbrev Sorted (ps : List Problem) : Prop := ps.Pairwise fun p q => q.isBefore p = false

/-! ## Stable sorting -/

theorem notAfter_trans (a b c : Problem) (hab : (!b.isBefore a) = true) (hbc : (!c.isBefore b) = true) :
    (!c.isBefore a) = true := by
  simp only [Bool.not_eq_true', isBefore_eq_false_iff] at hab hbc ⊢
  omega

theorem notAfter_total (a b : Problem) : (!b.isBefore a || !a.isBefore b) = true := by
  simp only [Bool.or_eq_true, Bool.not_eq_true', isBefore_eq_false_iff]
  omega

theorem sorted_sort (ps : List Problem) : Sorted (sort ps) := by
  have h : (sort ps).Pairwise fun p q => (!q.isBefore p) = true :=
    List.pairwise_mergeSort notAfter_trans notAfter_total ps
  exact h.imp fun hpq => by simpa using hpq

/-- Sorting keeps the order of the problems at one place. -/
theorem filter_isAt_sort (x : Problem) (ps : List Problem) : (sort ps).filter x.isAt = ps.filter x.isAt := by
  have hsub : (ps.filter x.isAt).Sublist (sort ps) := by
    refine List.sublist_mergeSort notAfter_trans notAfter_total ?_ List.filter_sublist
    refine List.pairwise_of_forall_mem_list fun a ha b hb => ?_
    have ha := isAt_iff.1 (List.mem_filter.1 ha).2
    have hb := isAt_iff.1 (List.mem_filter.1 hb).2
    simp only [Bool.not_eq_true', isBefore_eq_false_iff]
    omega
  have hfilter := hsub.filter x.isAt
  rw [List.filter_filter] at hfilter
  simp only [Bool.and_self] at hfilter
  exact (hfilter.eq_of_length ((List.mergeSort_perm ps _).filter x.isAt).length_eq.symm).symm

/-- A sorted list is known by what it holds at each place. -/
theorem Sorted.eq_of_filter (hp : Sorted ps) (hq : Sorted qs)
    (h : ∀ x : Problem, ps.filter x.isAt = qs.filter x.isAt) : ps = qs := by
  induction ps generalizing qs with
  | nil =>
    cases qs with
    | nil => rfl
    | cons q qs =>
      have hnil := h q
      rw [List.filter_nil, List.filter_cons_of_pos (isAt_self q)] at hnil
      cases hnil
  | cons p ps ih =>
    cases qs with
    | nil =>
      have hnil := h p
      rw [List.filter_nil, List.filter_cons_of_pos (isAt_self p)] at hnil
      cases hnil
    | cons q qs =>
      -- Each head stands at the place of a member of the other list, so neither is before the other.
      have hle : ∀ {a b : Problem} {as bs : List Problem}, Sorted (b :: bs) →
          (a :: as).filter a.isAt = (b :: bs).filter a.isAt → a.isBefore b = false := by
        intro a b as bs hs hf
        have hmem : a ∈ (b :: bs).filter a.isAt := by
          rw [← hf, List.filter_cons_of_pos (isAt_self a)]
          exact .head _
        rcases List.mem_cons.1 (List.mem_filter.1 hmem).1 with rfl | ha
        · exact isBefore_eq_false_iff.2 (.inr ⟨rfl, Int.le_refl _⟩)
        · exact List.rel_of_pairwise_cons hs ha
      have hpq := isBefore_eq_false_iff.1 (hle hq (h p))
      have hqp := isBefore_eq_false_iff.1 (hle hp (h q).symm)
      have hat : p.isAt q = true := isAt_iff.2 (by omega)
      have hhead := h p
      rw [List.filter_cons_of_pos (isAt_self p), List.filter_cons_of_pos hat, List.cons.injEq] at hhead
      rw [← hhead.1] at h ⊢
      refine congrArg _ (ih hp.of_cons hq.of_cons fun x => ?_)
      have hx := h x
      rw [List.filter_cons, List.filter_cons] at hx
      split at hx
      · exact (List.cons.inj hx).2
      · exact hx

/-- The stable sort is the sorted list that keeps the order at each place. -/
theorem Sorted.eq_sort (hq : Sorted qs) (h : ∀ x : Problem, qs.filter x.isAt = ps.filter x.isAt) : qs = sort ps :=
  hq.eq_of_filter (sorted_sort ps) fun x => (h x).trans (filter_isAt_sort x ps).symm

theorem sort_filter (keep : Problem → Bool) (ps : List Problem) : sort (ps.filter keep) = (sort ps).filter keep := by
  refine (Sorted.eq_sort ((sorted_sort ps).filter keep) fun x => ?_).symm
  rw [List.filter_comm, filter_isAt_sort, List.filter_comm]

/-! ## Lines of sorted problems -/

theorem Sorted.line_le (h : Sorted (p :: ps)) (hq : q ∈ ps) : p.line ≤ q.line := by
  have := isBefore_eq_false_iff.1 (List.rel_of_pairwise_cons h hq)
  omega

/-- Of sorted problems the ones on earlier lines come first. -/
theorem Sorted.takeWhile_eq_filter (h : Sorted ps) (n : Nat) :
    ps.takeWhile (fun p => p.line < (n : Int)) = ps.filter fun p => p.line < (n : Int) := by
  induction ps with
  | nil => rfl
  | cons p ps ih =>
    by_cases hp : p.line < n
    · rw [List.takeWhile_cons_of_pos (by simpa using hp), List.filter_cons_of_pos (by simpa using hp), ih h.of_cons]
    · rw [List.takeWhile_cons_of_neg (by simpa using hp), List.filter_cons_of_neg (by simpa using hp)]
      refine (List.filter_eq_nil_iff.2 fun q hq => ?_).symm
      have := h.line_le hq
      simp only [decide_eq_true_eq]
      omega

theorem Sorted.dropWhile_eq_filter (h : Sorted ps) (n : Nat) :
    ps.dropWhile (fun p => p.line < (n : Int)) = ps.filter fun p => !decide (p.line < (n : Int)) := by
  induction ps with
  | nil => rfl
  | cons p ps ih =>
    by_cases hp : p.line < n
    · rw [List.dropWhile_cons_of_pos (by simpa using hp), List.filter_cons_of_neg (by simpa using hp), ih h.of_cons]
    · rw [List.dropWhile_cons_of_neg (by simpa using hp)]
      refine (List.filter_eq_self.2 fun q hq => ?_).symm
      simp only [Bool.not_eq_true', decide_eq_false_iff_not]
      rcases List.mem_cons.1 hq with rfl | hq
      · exact hp
      · have := h.line_le hq
        omega

end Problem

namespace Lint

open Problem

variable {t : Text} {all : List String}

/-! ## Release -/

/-- Problems at one place are given out in the order in which they were found. -/
theorem filter_isAt_release (x : Problem) (pending : List Problem) (xs : List (Nat × List Problem)) :
    (release pending xs).filter x.isAt = (pending ++ xs.flatMap (·.2)).filter x.isAt := by
  induction xs generalizing pending with
  | nil => rw [release, filter_isAt_sort, List.flatMap_nil, List.append_nil]
  | cons y xs ih =>
    obtain ⟨number, found⟩ := y
    rw [release, List.filter_append, ih, List.filter_append, ← List.append_assoc, ← List.filter_append,
      List.takeWhile_append_dropWhile, filter_isAt_sort, ← List.filter_append, List.flatMap_cons, List.append_assoc]

/-- Leaving problems out before release is leaving them out after it. -/
theorem filter_release (keep : Problem → Bool) (pending : List Problem) (xs : List (Nat × List Problem)) :
    (release pending xs).filter keep =
      release (pending.filter keep) (xs.map fun x => (x.1, x.2.filter keep)) := by
  induction xs generalizing pending with
  | nil => rw [release, ← sort_filter, List.map_nil, release]
  | cons y xs ih =>
    obtain ⟨number, found⟩ := y
    have hs := sorted_sort (pending ++ found)
    have hk : Sorted ((sort (pending ++ found)).filter keep) := hs.filter keep
    rw [release, List.filter_append, ih, List.map_cons, release, ← List.filter_append, sort_filter,
      hs.takeWhile_eq_filter, hs.dropWhile_eq_filter, hk.takeWhile_eq_filter, hk.dropWhile_eq_filter,
      List.filter_comm keep fun p => decide (p.line < (number : Int)),
      List.filter_comm keep fun p => !decide (p.line < (number : Int))]

/-- Batches of problems line by line. A problem is on the line before that of its batch or further
down, or it is one of the `late`. -/
structure Timely (late : Problem → Prop) (xs : List (Nat × List Problem)) : Prop where
  numbers : xs.Pairwise fun a b => a.1 < b.1
  lines : ∀ x ∈ xs, ∀ p ∈ x.2, (x.1 : Int) ≤ p.line + 1 ∨ late p

theorem Timely.tail {late : Problem → Prop} {x : Nat × List Problem} {xs : List (Nat × List Problem)}
    (h : Timely late (x :: xs)) : Timely late xs :=
  ⟨h.numbers.of_cons, fun y hy => h.lines y (.tail _ hy)⟩

theorem mem_release {p : Problem} {pending : List Problem} {xs : List (Nat × List Problem)}
    (h : p ∈ release pending xs) : p ∈ pending ∨ ∃ x ∈ xs, p ∈ x.2 := by
  have := (release_perm pending xs).mem_iff.1 h
  rcases List.mem_append.1 this with hp | hp
  · exact .inl hp
  · exact .inr (List.mem_flatMap.1 hp)

/-- A problem that is given out after one further down is late. -/
theorem release_sorted {late : Problem → Prop} {xs : List (Nat × List Problem)} (h : Timely late xs)
    (pending : List Problem) : (release pending xs).Pairwise fun p q => q.isBefore p = true → late q := by
  induction xs generalizing pending with
  | nil =>
    rw [release]
    exact (sorted_sort pending).imp fun hpq hqp => by rw [hpq] at hqp; cases hqp
  | cons y xs ih =>
    obtain ⟨number, found⟩ := y
    have hs := sorted_sort (pending ++ found)
    rw [release]
    refine List.pairwise_append.2 ⟨?_, ih h.tail _, fun p hp q hq hqp => ?_⟩
    · exact (hs.sublist (List.takeWhile_sublist _)).imp fun hpq hqp => by rw [hpq] at hqp; cases hqp
    -- What is given out here is on earlier lines, what is kept is not; later batches have greater numbers.
    · have hline : p.line < number := by
        rw [hs.takeWhile_eq_filter] at hp
        simpa using (List.mem_filter.1 hp).2
      have hle : q.line ≤ p.line := by
        have := isBefore_iff.1 hqp
        omega
      rcases mem_release hq with hq | ⟨z, hz, hq⟩
      · rw [hs.dropWhile_eq_filter] at hq
        have : ¬q.line < number := by simpa using (List.mem_filter.1 hq).2
        omega
      · have hlt := List.rel_of_pairwise_cons h.numbers hz
        rcases h.lines z (.tail _ hz) q hq with hq | hq
        · simp only at hlt
          omega
        · exact hq

/-- Where no problem is late, release gives the stable sort of all problems. -/
theorem release_eq_sort {xs : List (Nat × List Problem)} (h : Timely (fun _ => False) xs) :
    release [] xs = sort (xs.flatMap (·.2)) := by
  refine Sorted.eq_sort ((release_sorted h []).imp fun hpq => ?_) fun x => filter_isAt_release x [] xs
  rwa [imp_false, Bool.not_eq_true] at hpq

/-! ## The batches of the sieve -/

/-- The sieve closes the lines one after another, each with problems found on it. -/
theorem timely_sift {late : Problem → Prop} {emitted : List (Element × List Problem)} {n : Nat} {s : Sieve}
    (hp : Element.Paged n (emitted.map (·.1))) (hheld : ∀ p ∈ s.held, (n : Int) ≤ p.line + 1 ∨ late p)
    (h : ∀ x ∈ emitted, ∀ p ∈ x.2, (x.1.lineNumber : Int) ≤ p.line + 1 ∨ late p) :
    Timely late (sift t all s emitted) ∧ ∀ x ∈ sift t all s emitted, n ≤ x.1 := by
  induction emitted generalizing n s with
  | nil => exact ⟨⟨.nil, by simp [sift]⟩, by simp [sift]⟩
  | cons x rest ih =>
    obtain ⟨e, found⟩ := x
    have hrest : ∀ x ∈ rest, ∀ p ∈ x.2, (x.1.lineNumber : Int) ≤ p.line + 1 ∨ late p :=
      fun x hx => h x (.tail _ hx)
    have hfound : e.lineNumber = n → ∀ p ∈ s.held ++ found, (n : Int) ≤ p.line + 1 ∨ late p := by
      intro hn p hp
      rcases List.mem_append.1 hp with hp | hp
      · exact hheld p hp
      · exact hn ▸ h _ (.head _) p hp
    cases hp with
    | elem hline hn hne hp =>
      cases e with
      | lexeme w => exact ih (s := { s with held := s.held ++ found }) hp (hfound hn) hrest
      | comment c =>
        rw [sift]
        exact ih hp (by rw [Sieve.held_note]; exact hfound hn) hrest
      | line l => simp [Element.isLine] at hline
    | @line _ l _ hn hp =>
      obtain ⟨ht, hle⟩ := ih (s := Sieve.next { s with held := s.held ++ found }) hp (by simp [Sieve.next]) hrest
      rw [sift]
      refine ⟨⟨.cons (fun y hy => ?_) ht.numbers, fun y hy => ?_⟩, fun y hy => ?_⟩
      · have := hle y hy
        simp only
        omega
      · rcases List.mem_cons.1 hy with rfl | hy
        · intro p hp
          simp only [hn]
          exact hfound hn p (List.mem_filter.1 hp).1
        · exact ht.lines y hy
      · rcases List.mem_cons.1 hy with rfl | hy
        · exact Nat.le_of_eq hn.symm
        · exact Nat.le_of_succ_le (hle y hy)

/-! ## The problems of a fixed text -/

def reckonedElements (t : Text) (xs : List Lexeme) : List Element :=
  mergeInto (fun a b => a.lineNumber ≤ b.lineNumber) (Element.ofWindows t (Window.slide none xs))
    ((Line.ofText t).map .line)

theorem ofLexemes_eq_reckonedElements (t : Text) (xs : List Lexeme) :
    Element.ofLexemes t xs = reckonedElements t xs := merge_eq_mergeInto ..

def reckonedSort (ps : List Problem) : List Problem := ps.insertionSort fun p q => (!q.isBefore p) = true

/-- Problems in order, as `release` gives them out. -/
def reckonedRelease : List Problem → List (Nat × List Problem) → List Problem
  | pending, [] => reckonedSort pending
  | pending, (number, found) :: rest =>
    let sorted := reckonedSort (pending ++ found)
    let isEarlier (p : Problem) : Bool := p.line < number
    sorted.takeWhile isEarlier ++ reckonedRelease (sorted.dropWhile isEarlier) rest

theorem sort_eq_reckonedSort (ps : List Problem) : Problem.sort ps = reckonedSort ps :=
  mergeSort_eq_insertionSort Problem.notAfter_trans Problem.notAfter_total ps

theorem release_eq_reckonedRelease (pending : List Problem) (found : List (Nat × List Problem)) :
    release pending found = reckonedRelease pending found := by
  induction found generalizing pending with
  | nil => rw [release, sort_eq_reckonedSort, reckonedRelease]
  | cons x found ih => rw [release, sort_eq_reckonedSort, ih, reckonedRelease]

deriving instance DecidableEq for Rule.Failure

def reckonedEmissions (t : Text) (rules : List ConfiguredRule) : Except Rule.Failure (List (Element × List Problem)) :=
  match Lexeme.reckoned t with
  | .error e => .error (.unreadable t e)
  | .ok xs => (emissions t (.ofRules rules) (reckonedElements t xs)).outcome

theorem outcome_emissionsOn_eq_reckoned (t : Text) (rules : List ConfiguredRule) :
    (emissionsOn t rules).outcome = reckonedEmissions t rules := by
  rw [emissionsOn, Logged.outcome_bind, reckonedEmissions, ← Lexeme.outcome_ofText_eq_reckoned, Logged.mapError]
  cases (Lexeme.ofText t).outcome with
  | error e => rfl
  | ok xs => exact congrArg (fun es => (emissions t _ es).outcome) (ofLexemes_eq_reckonedElements t xs)

def reckonedProblems (t : Text) (rules : List ConfiguredRule) : Except Rule.Failure (List Problem) :=
  (reckonedEmissions t rules).map fun emitted =>
    reckonedRelease [] (sift t (rules.map (·.rule.name)) .start emitted)

theorem outcome_cosmeticProblems_eq_reckoned (t : Text) (rules : List ConfiguredRule) :
    (cosmeticProblems t rules).outcome = reckonedProblems t rules := by
  rw [outcome_cosmeticProblems, outcome_emissionsOn_eq_reckoned]
  simp only [release_eq_reckonedRelease]
  rfl

end Lint

end YamlStyle
