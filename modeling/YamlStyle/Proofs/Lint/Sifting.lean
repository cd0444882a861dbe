import YamlStyle.Proofs.Lint.Directives
import YamlStyle.Proofs.Lint.Emissions
import YamlStyle.Proofs.Stream.Pages

/-!
# Sifting takes away what directives silence, and nothing else

The sieve sees the elements page by page. Between two elements it knows of the comments so far
what they say about the line of the page and the next one (`Follows`); at the line itself no later
comment has a say on the page any more.
-/

namespace YamlStyle

/-- The comments among elements. -/
def Element.comments : List Element → List Comment :=
  List.filterMap fun e => match e with
    | .comment c => some c
    | _ => none

theorem Element.mem_comments {es : List Element} {c : Comment} (h : c ∈ comments es) : Element.comment c ∈ es := by
  obtain ⟨e, he, h⟩ := List.mem_filterMap.1 h
  split at h
  · cases h
    exact he
  · cases h

namespace Lint

variable {t : Text} {all : List String}

/-! ## The sieve -/

/-- A sieve on line `n` that has seen the comments `seen`. -/
structure Follows (t : Text) (all : List String) (seen : List Comment) (n : Nat) (s : Sieve) : Prop where
  past : ∀ c ∈ seen, c.line ≤ n
  off : ∀ rule ∈ all, s.off.contains rule = isOff t seen n rule
  onLine : ∀ rule ∈ all, s.offOnLine.contains rule = isOffOnLine t seen n rule
  onNextLine : ∀ rule ∈ all, s.offOnNextLine.contains rule = isOffOnLine t seen (n + 1) rule

theorem follows_start (t : Text) (all : List String) (n : Nat) : Follows t all [] n .start where
  past c hc := by simp at hc
  off _ _ := rfl
  onLine _ _ := rfl
  onNextLine _ _ := rfl

theorem Follows.hold {seen : List Comment} {n : Nat} {s : Sieve} (h : Follows t all seen n s) (held : List Problem) :
    Follows t all seen n { s with held } :=
  ⟨h.past, h.off, h.onLine, h.onNextLine⟩

theorem Follows.note {seen : List Comment} {c : Comment} {s : Sieve} (h : Follows t all seen c.line s) :
    Follows t all (seen ++ [c]) c.line (s.note t all c) := by
  have hpast : ∀ d ∈ seen ++ [c], d.line ≤ c.line := by
    intro d hd
    rcases List.mem_append.1 hd with hd | hd
    · exact h.past d hd
    · exact Nat.le_of_eq (congrArg (·.line) (List.mem_singleton.1 hd))
  have hoff : ∀ rule ∈ all, (s.off.after all (c.text t)).contains rule = isOff t (seen ++ [c]) c.line rule :=
    fun rule hr => by
      rw [DisabledRules.contains_after hr, h.off rule hr, isOff_append_singleton (Nat.le_refl _)]
  cases hc : c.isInline t with
  | true =>
    have hs : c.subject t = c.line := by simp [Comment.subject, hc]
    refine ⟨hpast, fun rule hr => ?_, fun rule hr => ?_, fun rule hr => ?_⟩
    · simpa only [Sieve.note, hc, if_true] using hoff rule hr
    · simp only [Sieve.note, hc, if_true]
      rw [DisabledRules.contains_afterOnLine hr, h.onLine rule hr, isOffOnLine_append_singleton, hs, beq_self_eq_true,
        Bool.true_and]
    · simp only [Sieve.note, hc, if_true]
      rw [h.onNextLine rule hr, isOffOnLine_append_singleton, hs]
      simp
  | false =>
    have hs : c.subject t = c.line + 1 := by simp [Comment.subject, hc]
    refine ⟨hpast, fun rule hr => ?_, fun rule hr => ?_, fun rule hr => ?_⟩
    · simpa only [Sieve.note, hc, Bool.false_eq_true, if_false] using hoff rule hr
    · simp only [Sieve.note, hc, Bool.false_eq_true, if_false]
      rw [h.onLine rule hr, isOffOnLine_append_singleton, hs]
      simp
    · simp only [Sieve.note, hc, Bool.false_eq_true, if_false]
      rw [DisabledRules.contains_afterOnLine hr, h.onNextLine rule hr, isOffOnLine_append_singleton, hs,
        beq_self_eq_true, Bool.true_and]

theorem Sieve.held_note (c : Comment) (s : Sieve) : (s.note t all c).held = s.held := by
  unfold Sieve.note
  split <;> rfl

theorem Follows.next {seen : List Comment} {n : Nat} {s : Sieve} (h : Follows t all seen n s) :
    Follows t all seen (n + 1) s.next where
  past c hc := Nat.le_succ_of_le (h.past c hc)
  off rule hr := by rw [isOff_of_le h.past (Nat.le_succ n)]; exact h.off rule hr
  onLine rule hr := h.onNextLine rule hr
  onNextLine rule _ := by rw [isOffOnLine_of_le h.past (Nat.lt_succ_self _)]; rfl

/-- What a sieve keeps at the end of a line is what later comments too leave. -/
theorem Follows.kept {seen later : List Comment} {n : Nat} {s : Sieve} (h : Follows t all seen n s)
    (hlater : ∀ c ∈ later, n < c.line) (hheld : Signed all s.held) :
    s.kept = s.held.filter fun p => !isSilenced t (seen ++ later) n p := by
  rw [Sieve.kept]
  refine List.filter_congr fun p hp => ?_
  obtain ⟨rule, hr, hp⟩ := hheld p hp
  rw [isSilenced_append_of_lt hlater, isSilenced, DisabledRules.covers, DisabledRules.covers, hp]
  simp only [Option.any_some, h.off rule hr, h.onLine rule hr]

/-! ## The run of the sieve -/

/-- The problems that directives leave of those that each element has. -/
def unsilenced (t : Text) (cs : List Comment) (emitted : List (Element × List Problem)) : List Problem :=
  emitted.flatMap fun x => x.2.filter fun p => !isSilenced t cs x.1.lineNumber p

theorem unsilenced_cons (cs : List Comment) (e : Element) (found : List Problem)
    (rest : List (Element × List Problem)) :
    unsilenced t cs ((e, found) :: rest) =
      (found.filter fun p => !isSilenced t cs e.lineNumber p) ++ unsilenced t cs rest := rfl

theorem sift_paged {emitted : List (Element × List Problem)} {n : Nat} {seen : List Comment} {s : Sieve}
    (hp : Element.Paged n (emitted.map (·.1))) (hs : Follows t all seen n s) (hheld : Signed all s.held)
    (hsigned : ∀ x ∈ emitted, Signed all x.2) (hend : emitted = [] → s.held = []) {cs : List Comment}
    (hcs : cs = seen ++ Element.comments (emitted.map (·.1))) :
    (sift t all s emitted).flatMap (·.2) =
      (s.held.filter fun p => !isSilenced t cs n p) ++ unsilenced t cs emitted := by
  induction emitted generalizing n seen s with
  | nil => simp [sift, unsilenced, hend rfl]
  | cons x rest ih =>
    obtain ⟨e, found⟩ := x
    have hfound : Signed all (s.held ++ found) := hheld.append (hsigned _ (.head _))
    have hrest : ∀ x ∈ rest, Signed all x.2 := fun x hx => hsigned x (.tail _ hx)
    have hs' := hs.hold (s.held ++ found)
    rw [unsilenced_cons, ← List.append_assoc]
    cases hp with
    | elem hline hn hne hp =>
      have hend' : rest = [] → s.held ++ found = [] := fun h => absurd (congrArg (List.map (·.1)) h) hne
      rw [hn, ← List.filter_append]
      cases e with
      | lexeme w => exact ih hp hs' hfound hrest hend' hcs
      | comment c =>
        have hc : c.line = n := hn
        subst hc
        have hcs' : cs = seen ++ [c] ++ Element.comments (rest.map (·.1)) := by
          rw [hcs, List.append_assoc]
          rfl
        rw [sift, ih hp hs'.note (by rwa [Sieve.held_note]) hrest (by rwa [Sieve.held_note]) hcs', Sieve.held_note]
      | line l => simp [Element.isLine] at hline
    | @line _ l _ hn hp =>
      -- What the comments after a line are about is beyond it.
      have hlater : ∀ c ∈ Element.comments (rest.map (·.1)), n < c.line := fun c hc =>
        hp.le_lineNumber (Element.mem_comments hc)
      have hnum : (Element.line l).lineNumber = n := hn
      rw [hnum, ← List.filter_append, sift, List.flatMap_cons, hs'.kept hlater hfound,
        ih hp hs'.next signed_nil hrest (fun _ => rfl) hcs]
      simp [Sieve.next, hcs, Element.comments]

/-! ## Release -/

theorem sort_perm (ps : List Problem) : (Problem.sort ps).Perm ps := List.mergeSort_perm _ _

/-- Release gives out each problem once, also those after the last line. -/
theorem release_perm (pending : List Problem) (xs : List (Nat × List Problem)) :
    (release pending xs).Perm (pending ++ xs.flatMap (·.2)) := by
  induction xs generalizing pending with
  | nil =>
    rw [release, List.flatMap_nil, List.append_nil]
    exact sort_perm pending
  | cons x xs ih =>
    obtain ⟨number, found⟩ := x
    rw [release, List.flatMap_cons, ← List.append_assoc]
    refine ((ih _).append_left _).trans ?_
    rw [← List.append_assoc, List.takeWhile_append_dropWhile]
    exact (sort_perm _).append_right _

/-! ## Main theorem -/

theorem paged_of_ofText {xs : List Lexeme} (h : (Lexeme.ofText t).outcome = .ok xs) :
    Element.Paged 1 (Element.ofLexemes t xs) := by
  obtain ⟨root, -, rfl⟩ := Lexeme.outcome_ofText_eq_ok.1 h
  exact Element.ofLexemes_paged t root

/-- The problems given out are, each as often as it was emitted, those that the rules have with the
elements of a text, less those that directives silence on the line of the element. There are none
only where the text has no lexemes or a rule fails on an element. -/
theorem cosmeticProblems_perm (t : Text) (c : Config) (path : Option String) :
    match (Lexeme.ofText t).outcome with
    | .error e => (cosmeticProblems t (c.rulesFor path)).outcome = .error (.unreadable t e)
    | .ok xs =>
      let es := Element.ofLexemes t xs
      match (emissions t (.ofRules (c.rulesFor path)) es).outcome with
      | .error e => (cosmeticProblems t (c.rulesFor path)).outcome = .error e
      | .ok emitted => emitted.map (·.1) = es ∧ ∃ ps, (cosmeticProblems t (c.rulesFor path)).outcome = .ok ps ∧
          ps.Perm (unsilenced t (Element.comments es) emitted) := by
  have hrun : (cosmeticProblems t (c.rulesFor path)).outcome =
      ((Lexeme.ofText t).outcome.mapError (.unreadable t) >>= fun xs =>
        (emissions t (.ofRules (c.rulesFor path)) (Element.ofLexemes t xs)).outcome >>= fun emitted =>
          .ok (release [] (sift t ((c.rulesFor path).map (·.rule.name)) .start emitted))) := by
    rw [cosmeticProblems, Logged.outcome_bind]
    congr 1
    funext xs
    rw [Logged.outcome_bind]
    rfl
  cases hx : (Lexeme.ofText t).outcome with
  | error e => rw [hrun, hx]; rfl
  | ok xs =>
    simp only
    cases he : (emissions t (.ofRules (c.rulesFor path)) (Element.ofLexemes t xs)).outcome with
    | error e => rw [hrun, hx]; simp only [Except.mapError, bind, Except.bind, he]
    | ok emitted =>
      obtain ⟨hmap, hsigned⟩ := emissions_signed (Watches.named_ofRules _) he
      refine ⟨hmap, release [] (sift t ((c.rulesFor path).map (·.rule.name)) .start emitted), ?_, ?_⟩
      · rw [hrun, hx]
        simp only [Except.mapError, bind, Except.bind, he]
      · have hpaged : Element.Paged 1 (emitted.map (·.1)) := hmap ▸ paged_of_ofText hx
        have hsift := sift_paged hpaged (follows_start t _ 1) signed_nil hsigned (fun _ => rfl) rfl
        have hperm := release_perm [] (sift t ((c.rulesFor path).map (·.rule.name)) .start emitted)
        rw [hsift, hmap] at hperm
        exact hperm

end Lint

end YamlStyle
