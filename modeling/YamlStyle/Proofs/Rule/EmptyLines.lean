import YamlStyle.Proofs.Text.Lines

/-!
# Runs of blank lines

In a text with one kind of line break the rule for empty lines reports the maximal runs of blank lines that are
longer than allowed, each of them once and at its last line (`mem_flatMap_check_iff`). The rule counts the breaks
before a line backwards, first those with a return; what it counts are the blank lines before the line
(`breaksBefore_eq`).
-/

namespace YamlStyle.Rule.EmptyLines

open LineBreaks (Break)

variable {t : Text} {b : Break} {n first first' last : Nat}

/-- Whether a line is blank and a line break ends it. -/
def IsBlank (t : Text) (n : Nat) : Prop := ∃ l ∈ Line.ofText t, l.number = n ∧ l.start = l.stop ∧ l.stop < t.length

/-- Blank lines between lines that are not blank. -/
structure IsRun (t : Text) (first last : Nat) : Prop where
  ordered : first ≤ last
  blank : ∀ n, first ≤ n → n ≤ last → IsBlank t n
  before : ¬ IsBlank t (first - 1)
  after : ¬ IsBlank t (last + 1)

/-- Whether nothing comes after a line and its break. -/
def IsLast (t : Text) (n : Nat) : Prop := ∃ l ∈ Line.ofText t, l.number = n + 1 ∧ l.start = t.length

instance (t : Text) (n : Nat) : Decidable (IsBlank t n) := inferInstanceAs (Decidable (∃ l ∈ Line.ofText t, _))

instance (t : Text) (n : Nat) : Decidable (IsLast t n) := inferInstanceAs (Decidable (∃ l ∈ Line.ofText t, _))

/-- How many lines a run may have. -/
def limit (o : Options) (t : Text) (first last : Nat) : Int :=
  if IsLast t last then o.mostAtEnd else if first = 1 then o.mostAtStart else o.most

/-- What is reported for a run. -/
def runTooLong (o : Options) (t : Text) (first last : Nat) : Finding :=
  ⟨last, 1, s!"too many blank lines ({last + 1 - first} > {limit o t first last})"⟩

/-! ## Runs -/

/-- A run is known by its last line. -/
theorem IsRun.first_eq (h : IsRun t first last) (h' : IsRun t first' last) : first = first' := by
  -- The line before the later of two starts would be in the run with the earlier one.
  have hle {m n : Nat} (hm : IsRun t m last) (hn : IsRun t n last) : m ≤ n := by
    refine Nat.le_of_not_lt fun hlt => hm.before (hn.blank _ ?_ ?_)
    · omega
    · have := hm.ordered
      omega
  exact Nat.le_antisymm (hle h h') (hle h' h)

/-! ## Counting backwards -/

theorem breaks_append (k : Nat) {x : Text} (hx : ∀ c ∈ x.head?, c ≠ '\n') :
    breaks (List.replicate k '\n' ++ x) = (k, x) := by
  induction k with
  | zero =>
    rw [List.replicate_zero, List.nil_append]
    unfold breaks
    split
    · exact absurd rfl (hx _ rfl)
    · rfl
  | succ k ih => rw [List.replicate_succ, List.cons_append, breaks, ih]

theorem returnBreaks_append (k : Nat) {x : Text} (hx : ∀ c ∈ x.head?, c ≠ '\n') :
    returnBreaks ((List.replicate k ['\n', '\r']).flatten ++ x) = (k, x) := by
  induction k with
  | zero =>
    rw [List.replicate_zero, List.flatten_nil, List.nil_append]
    unfold returnBreaks
    split
    · exact absurd rfl (hx _ rfl)
    · rfl
  | succ k ih =>
    rw [List.replicate_succ, List.flatten_cons, List.append_assoc]
    exact congrArg (fun p : Nat × Text => (p.1 + 1, p.2)) ih

/-- Line feeds alone are no breaks with a return. -/
theorem returnBreaks_lineFeeds (k : Nat) {x : Text} (hx : ∀ c ∈ x.head?, c ≠ '\r' ∧ c ≠ '\n') :
    returnBreaks (List.replicate k '\n' ++ x) = (0, List.replicate k '\n' ++ x) := by
  unfold returnBreaks
  split
  · next r heq =>
    -- The return would be the first character of `x`.
    match k, heq with
    | 0, heq =>
      rw [List.replicate_zero, List.nil_append] at heq
      exact absurd rfl (hx '\n' (by rw [heq]; rfl)).2
    | 1, heq =>
      obtain rfl : x = '\r' :: r := (List.cons.inj heq).2
      exact absurd rfl (hx '\r' rfl).1
    | k + 2, heq => cases (List.cons.inj (List.cons.inj heq).2).1
  · rfl

/-- What ends with neither a return nor a line feed is where the breaks before an offset are counted up to. -/
theorem breaksBefore_eq {x : Text} {offset k : Nat} (b : Break)
    (h : t.take offset = x ++ (List.replicate k b.text).flatten) (hx : ∀ c ∈ x.getLast?, c ≠ '\r' ∧ c ≠ '\n') :
    breaksBefore t offset = (k, x.isEmpty) := by
  have hhead : ∀ c ∈ x.reverse.head?, c ≠ '\r' ∧ c ≠ '\n' := by rwa [List.head?_reverse]
  have hline : ∀ c ∈ x.reverse.head?, c ≠ '\n' := fun c hc => (hhead c hc).2
  rw [breaksBefore, h, List.reverse_append, List.reverse_flatten, List.map_replicate, List.reverse_replicate]
  cases b with
  | lineFeed =>
    have hflat : (List.replicate k (Break.text .lineFeed).reverse).flatten = List.replicate k '\n' := by
      rw [Break.text, List.reverse_singleton]
      exact List.flatten_replicate_singleton
    rw [hflat, returnBreaks_lineFeeds k hhead]
    dsimp only
    rw [breaks_append k hline, Nat.zero_add, List.isEmpty_reverse]
  | returnLineFeed =>
    rw [Break.text, List.reverse_cons, List.reverse_singleton, List.singleton_append, returnBreaks_append k hline]
    dsimp only
    rw [← List.nil_append x.reverse, ← List.replicate_zero, breaks_append 0 hline, Nat.add_zero, List.isEmpty_reverse]

/-! ## Lines between breaks -/

section

variable {cs before rest pre : List Text} {k : Nat}

theorem eq_append_cons {c : Text} (h : cs[n]? = some c) : cs = cs.take n ++ c :: cs.drop (n + 1) := by
  obtain ⟨hlt, hget⟩ := List.getElem?_eq_some_iff.1 h
  conv_lhs => rw [← List.take_append_drop n cs, List.drop_eq_getElem_cons hlt, hget]

theorem isBlank_intercalate_iff (h : AreContents cs) (hne : cs ≠ []) :
    IsBlank (b.text.intercalate cs) n ↔ 0 < n ∧ n < cs.length ∧ cs[n - 1]? = some [] := by
  have hline (before : List Text) (c : Text) (rest : List Text) (hcs : cs = before ++ c :: rest) :
      ((Line.after b 1 0 before c).start = (Line.after b 1 0 before c).stop ↔ c = []) ∧
        ((Line.after b 1 0 before c).stop < (b.text.intercalate cs).length ↔ rest ≠ []) := by
    have hlength : (b.text.intercalate cs).length =
        (Text.ended b before).length + c.length + (Text.following b rest).length := by
      rw [hcs, Text.intercalate_append_cons, List.length_append, List.length_append, Nat.add_assoc]
    have hrest : 0 < (Text.following b rest).length ↔ rest ≠ [] :=
      List.length_pos_iff.trans (not_congr Text.following_eq_nil_iff)
    have hc : c.length = 0 ↔ c = [] := List.length_eq_zero_iff
    rw [hlength, ← hrest, ← hc]
    simp only [Line.after]
    omega
  constructor
  · rintro ⟨l, hl, rfl, hblank, hended⟩
    obtain ⟨before, c, rest, hcs, rfl⟩ := (Line.mem_ofText_intercalate h hne).1 hl
    obtain rfl := (hline before c rest hcs).1.1 hblank
    have hrest := List.length_pos_iff.2 ((hline before [] rest hcs).2.1 hended)
    have hnumber : (Line.after b 1 0 before []).number = before.length + 1 := Nat.add_comm _ _
    rw [hnumber, hcs]
    refine ⟨by omega, ?_, ?_⟩
    · rw [List.length_append, List.length_cons]
      omega
    · rw [Nat.add_sub_cancel, List.getElem?_append_right (Nat.le_refl _), Nat.sub_self]
      rfl
  · rintro ⟨hpos, hlt, hget⟩
    have hcs := eq_append_cons hget
    rw [Nat.sub_add_cancel hpos] at hcs
    have hrest : cs.drop n ≠ [] := by
      rw [Ne, List.drop_eq_nil_iff]
      omega
    obtain ⟨hblank, hended⟩ := hline _ _ _ hcs
    refine ⟨_, (Line.mem_ofText_intercalate h hne).2 ⟨_, _, _, hcs, rfl⟩, ?_, hblank.2 rfl, hended.2 hrest⟩
    rw [Line.after, List.length_take]
    dsimp only
    omega

theorem isLast_intercalate_iff (h : AreContents cs) (hne : cs ≠ []) :
    IsLast (b.text.intercalate cs) n ↔ cs.drop n = [[]] := by
  have hlast (before : List Text) (c : Text) (rest : List Text) :
      (Line.after b 1 0 before c).start = (b.text.intercalate (before ++ c :: rest)).length ↔ c = [] ∧ rest = [] := by
    rw [Text.intercalate_append_cons, List.length_append, List.length_append, ← Text.following_eq_nil_iff (b := b),
      ← List.length_eq_zero_iff, ← List.length_eq_zero_iff]
    simp only [Line.after]
    omega
  constructor
  · rintro ⟨l, hl, hnumber, hstart⟩
    obtain ⟨before, c, rest, rfl, rfl⟩ := (Line.mem_ofText_intercalate h hne).1 hl
    obtain ⟨rfl, rfl⟩ := (hlast before c rest).1 hstart
    have hn : n = before.length := by
      have hnumber : 1 + before.length = n + 1 := hnumber
      omega
    rw [hn, List.drop_left]
  · intro hdrop
    have hcs : cs = cs.take n ++ [[]] := by rw [← hdrop, List.take_append_drop]
    have hlength : cs.length = n + 1 := by
      have := congrArg List.length hdrop
      rw [List.length_drop, List.length_singleton] at this
      omega
    refine ⟨_, (Line.mem_ofText_intercalate h hne).2 ⟨_, _, _, hcs, rfl⟩, ?_, ?_⟩
    · rw [Line.after, List.length_take]
      dsimp only
      omega
    · conv_rhs => rw [hcs]
      exact (hlast _ _ _).2 ⟨rfl, rfl⟩

/-- What stands around a run of blank lines. -/
structure Encloses (pre rest : List Text) : Prop where
  before : pre.getLast? ≠ some []
  ended : rest ≠ []
  after : ∀ ds, rest = [] :: ds → ds = []

/-- Lines before blank lines, the last of which is the line before the `rest`. -/
def beforeLast (pre : List Text) (k : Nat) : List Text := pre ++ List.replicate k []

theorem Encloses.isRun (hpre : Encloses pre rest) (h : AreContents (beforeLast pre k ++ [] :: rest)) :
    IsRun (b.text.intercalate (beforeLast pre k ++ [] :: rest)) (pre.length + 1) (pre.length + k + 1) := by
  have hiff (n : Nat) := isBlank_intercalate_iff (b := b) (n := n) h (by simp)
  have hlength : (beforeLast pre k).length = pre.length + k := by simp [beforeLast]
  have hrest : 0 < rest.length := List.length_pos_iff.2 hpre.ended
  refine ⟨by omega, fun n hfirst hlast => (hiff n).2 ⟨by omega, ?_, ?_⟩, fun hblank => ?_, fun hblank => ?_⟩
  · rw [List.length_append, List.length_cons]
    omega
  · rcases Nat.lt_or_ge (n - 1) (beforeLast pre k).length with hlt | hge
    · rw [List.getElem?_append_left hlt, beforeLast, List.getElem?_append_right (by omega), List.getElem?_replicate,
        if_pos (by omega)]
    · have hn : n - 1 = (beforeLast pre k).length := by omega
      rw [hn, List.getElem?_append_right (Nat.le_refl _), Nat.sub_self]
      rfl
  · obtain ⟨hpos, -, hget⟩ := (hiff _).1 hblank
    rw [Nat.add_sub_cancel, List.getElem?_append_left (by omega), beforeLast, List.getElem?_append_left (by omega),
      ← List.getLast?_eq_getElem?] at hget
    exact hpre.before hget
  · obtain ⟨-, hlt, hget⟩ := (hiff _).1 hblank
    have hindex : pre.length + k + 1 + 1 - 1 - (beforeLast pre k).length = 1 := by omega
    rw [List.getElem?_append_right (by omega), hindex, List.getElem?_cons_succ] at hget
    obtain ⟨ds, hds⟩ := List.head?_eq_some_iff.1 ((List.head?_eq_getElem?).trans hget)
    rw [hds, hpre.after ds hds, List.length_append, hlength] at hlt
    simp at hlt

/-! ## The rule at a line -/

theorem isContinued_following_iff (h : AreContents rest) :
    isContinued (Text.following b rest) = true ↔ ∃ d ds, rest = [] :: d :: ds := by
  rcases rest with _ | ⟨_ | ⟨x, c⟩, rest⟩
  · exact iff_of_false (by cases b <;> decide) (by simp)
  · rw [Text.following, if_neg (by simp), Text.intercalate_cons, List.nil_append]
    cases rest with
    | nil => exact iff_of_false (by cases b <;> decide) (by simp)
    | cons d ds =>
      rw [Text.following, if_neg (by simp)]
      exact iff_of_true (by cases b <;> rfl) ⟨d, ds, rfl⟩
  · obtain ⟨hreturn, hline⟩ := h _ (List.mem_cons_self ..)
    simp only [List.mem_cons, not_or] at hreturn hline
    rw [Text.following, if_neg (by simp), Text.intercalate_cons]
    refine iff_of_false ?_ (by simp)
    cases b <;> simp [isContinued, Break.text, Ne.symm hreturn.1, Ne.symm hline.1]

theorem isBreak_following_iff (hrest : rest ≠ []) :
    (Text.following b rest == ['\n'] || Text.following b rest == ['\r', '\n']) = true ↔ rest = [[]] := by
  obtain ⟨c, ds, rfl⟩ := List.exists_cons_of_ne_nil hrest
  have hends : c ++ Text.following b ds = [] ↔ c :: ds = [[]] := by
    rw [List.append_eq_nil_iff, Text.following_eq_nil_iff, List.cons.injEq]
  rw [Text.following, if_neg hrest, Text.intercalate_cons, ← hends]
  cases b <;> simp [Break.text]

/-- The blank lines before a line are counted, and where a line with more comes before them the break of that
line. -/
theorem breaksBefore_ended (hcontents : AreContents pre) (hpre : pre.getLast? ≠ some []) (k : Nat) (r : Text) :
    breaksBefore (Text.ended b (beforeLast pre k) ++ r) (Text.ended b (beforeLast pre k)).length =
      (if pre = [] then k else k + 1, decide (pre = [])) := by
  rcases List.eq_nil_or_concat' pre with rfl | ⟨pre, d, rfl⟩
  · refine breaksBefore_eq (x := []) b ?_ nofun
    rw [List.take_left, beforeLast, List.nil_append, Text.ended_replicate, List.nil_append, if_pos rfl]
  · have hd : d ≠ [] := by simpa using hpre
    have hpre : pre ++ [d] ≠ [] := by simp
    have hx : (Text.ended b pre ++ d).isEmpty = false := by simp [hd]
    rw [if_neg hpre, decide_eq_false hpre, ← hx]
    refine breaksBefore_eq b ?_ fun c hc => ?_
    · rw [List.take_left, beforeLast, Text.ended_append, Text.ended_append, Text.ended_replicate, List.replicate_succ, List.flatten_cons,
        Text.ended, Text.ended, List.flatMap_singleton]
      simp only [List.append_assoc]
    · rw [List.getLast?_append_of_ne_nil _ hd] at hc
      have hmem := List.mem_of_getLast? hc
      obtain ⟨hreturn, hline⟩ := hcontents d (by simp)
      exact ⟨fun heq => hreturn (heq ▸ hmem), fun heq => hline (heq ▸ hmem)⟩

theorem drop_stop (b : Break) (before : List Text) (c : Text) (rest : List Text) :
    (b.text.intercalate (before ++ c :: rest)).drop (Line.after b 1 0 before c).stop = Text.following b rest := by
  rw [Text.intercalate_append_cons, ← List.append_assoc]
  exact List.drop_left' (by simp [Line.after])

/-- A text is a line break alone if that break comes after the first line and nothing after it. -/
theorem Encloses.eq_text_iff (hpre : Encloses pre rest) (ht : t = Text.ended b before ++ Text.following b rest) :
    ((Text.following b rest == ['\n'] || Text.following b rest == ['\r', '\n']) = true ∧
      ((Text.ended b before).length == 0) = true) ↔ t = b.text := by
  have hfollowing : Text.following b rest = b.text ++ b.text.intercalate rest := if_neg hpre.ended
  have hempty : b.text.intercalate rest = [] ↔ rest = [[]] := by
    obtain ⟨c, ds, rfl⟩ := List.exists_cons_of_ne_nil hpre.ended
    rw [Text.intercalate_cons, List.append_eq_nil_iff, Text.following_eq_nil_iff, List.cons.injEq]
  rw [isBreak_following_iff hpre.ended, beq_iff_eq, ← hempty, ht, hfollowing]
  constructor
  · rintro ⟨hrest, hbefore⟩
    rw [hrest, List.length_eq_zero_iff.1 hbefore, List.nil_append, List.append_nil]
  · intro heq
    have hlength := congrArg List.length heq
    rw [List.length_append, List.length_append] at hlength
    exact ⟨List.length_eq_zero_iff.1 (by omega), by omega⟩

theorem Encloses.check_eq (hpre : Encloses pre rest) (h : AreContents (beforeLast pre k ++ [] :: rest)) (o : Options)
    (ht : t = b.text.intercalate (beforeLast pre k ++ [] :: rest)) :
    check o t (Line.after b 1 0 (beforeLast pre k) []) =
      if t ≠ b.text ∧ limit o t (pre.length + 1) (pre.length + k + 1) < ↑(k + 1) then
        [runTooLong o t (pre.length + 1) (pre.length + k + 1)]
      else [] := by
  have hsplit : t = Text.ended b (beforeLast pre k) ++ Text.following b rest := by
    rw [ht, Text.intercalate_append_cons, List.nil_append]
  have hline : Line.after b 1 0 (beforeLast pre k) [] =
      ⟨pre.length + k + 1, (Text.ended b (beforeLast pre k)).length, (Text.ended b (beforeLast pre k)).length⟩ := by
    simp [Line.after, beforeLast, Nat.add_comm]
  have hcontents : AreContents pre := fun c hc => h c (by simp [beforeLast, hc])
  have hcontinued : isContinued (Text.following b rest) = false := by
    rw [← Bool.not_eq_true, isContinued_following_iff fun c hc => h c (by simp [hc])]
    rintro ⟨d, ds, hds⟩
    cases hpre.after _ hds
  have hlast : IsLast t (pre.length + k + 1) ↔ rest = [[]] := by
    have hlength : (beforeLast pre k).length = pre.length + k := by simp [beforeLast]
    rw [ht, isLast_intercalate_iff h (by simp), ← hlength, List.append_cons, List.drop_left' (by simp)]
  have hcount : (if decide (pre = []) = true then (if pre = [] then k else k + 1) + 1 else if pre = [] then k else k + 1) =
      k + 1 := by
    split <;> simp_all
  have hlimit : (if (Text.following b rest == ['\n'] || Text.following b rest == ['\r', '\n']) = true then o.mostAtEnd
      else if decide (pre = []) = true then o.mostAtStart else o.most) =
        limit o t (pre.length + 1) (pre.length + k + 1) := by
    have hfirst : pre.length + 1 = 1 ↔ pre = [] := by rw [← List.length_eq_zero_iff]; omega
    simp only [limit, isBreak_following_iff hpre.ended, hlast, hfirst, decide_eq_true_eq]
  have hdrop := drop_stop b (beforeLast pre k) [] rest
  rw [← ht, hline] at hdrop
  have hbefore : breaksBefore t (Text.ended b (beforeLast pre k)).length =
      (if pre = [] then k else k + 1, decide (pre = [])) := by
    rw [hsplit, breaksBefore_ended hcontents hpre.before]
  have hruns : ¬ ((Text.ended b (beforeLast pre k)).length != (Text.ended b (beforeLast pre k)).length ||
      (Text.following b rest).isEmpty || isContinued (Text.following b rest)) = true := by
    rw [hcontinued, bne_self_eq_false, Bool.or_false, Bool.false_or, List.isEmpty_iff, Text.following_eq_nil_iff]
    exact hpre.ended
  have hlength : pre.length + k + 1 + 1 - (pre.length + 1) = k + 1 := by omega
  rw [check, hline]
  dsimp only
  rw [hdrop, hbefore, if_neg hruns]
  dsimp only
  rw [hcount, hlimit, runTooLong, hlength]
  simp only [Bool.and_eq_true, Bool.not_eq_true', ← Bool.not_eq_true, hpre.eq_text_iff hsplit, decide_eq_true_eq]

/-- Any lines end with some that are blank. -/
theorem exists_beforeLast (before : List Text) : ∃ pre k, before = beforeLast pre k ∧ pre.getLast? ≠ some [] := by
  induction before using List.reverseRecOn with
  | nil => exact ⟨[], 0, rfl, nofun⟩
  | append_singleton before c ih =>
    rcases eq_or_ne c [] with rfl | hc
    · obtain ⟨pre, k, rfl, hpre⟩ := ih
      exact ⟨pre, k + 1, by rw [beforeLast, beforeLast, List.replicate_succ', List.append_assoc], hpre⟩
    · exact ⟨before ++ [c], 0, (List.append_nil _).symm, by simpa using hc⟩

/-- Something is reported only at the last line of a run. -/
theorem exists_encloses_of_mem_check {o : Options} {c : Text} (h : AreContents rest) {f : Finding}
    (hf : f ∈ check o (b.text.intercalate (before ++ c :: rest)) (Line.after b 1 0 before c)) :
    c = [] ∧ ∃ pre k, before = beforeLast pre k ∧ Encloses pre rest := by
  rw [check, drop_stop] at hf
  dsimp only at hf
  split at hf
  · cases hf
  · next hline =>
    simp only [Bool.or_eq_true, not_or, bne_iff_ne, Ne, not_not, List.isEmpty_iff, Text.following_eq_nil_iff,
      isContinued_following_iff h] at hline
    obtain ⟨⟨hblank, hrest⟩, hcontinued⟩ := hline
    obtain ⟨pre, k, hbefore, hpre⟩ := exists_beforeLast before
    have hc : c = [] := List.length_eq_zero_iff.1 (by simp only [Line.after] at hblank; omega)
    refine ⟨hc, pre, k, hbefore, hpre, hrest, fun ds hds => ?_⟩
    by_contra hne
    obtain ⟨d, ds', rfl⟩ := List.exists_cons_of_ne_nil hne
    exact hcontinued ⟨d, ds', hds⟩

theorem exists_encloses_of_isRun (h : AreContents cs) (hne : cs ≠ []) (hrun : IsRun (b.text.intercalate cs) first last) :
    ∃ pre k rest, Encloses pre rest ∧ cs = beforeLast pre k ++ [] :: rest ∧ first = pre.length + 1 ∧
      last = pre.length + k + 1 := by
  obtain ⟨hpos, hlt, hget⟩ := (isBlank_intercalate_iff h hne).1 (hrun.blank last hrun.ordered (Nat.le_refl _))
  have hcs := eq_append_cons hget
  rw [Nat.sub_add_cancel hpos] at hcs
  obtain ⟨pre, k, hbefore, hpre⟩ := exists_beforeLast (cs.take (last - 1))
  have hrest : cs.drop last ≠ [] := by
    rw [Ne, List.drop_eq_nil_iff]
    omega
  have hlast : last = pre.length + k + 1 := by
    have hlength := congrArg List.length hbefore
    rw [List.length_take, beforeLast, List.length_append, List.length_replicate] at hlength
    omega
  have hencloses : Encloses pre (cs.drop last) := by
    refine ⟨hpre, hrest, fun ds hds => ?_⟩
    by_contra hne'
    refine hrun.after ((isBlank_intercalate_iff h hne).2 ⟨Nat.succ_pos _, ?_, ?_⟩)
    · have hlength := congrArg List.length hds
      have := List.length_pos_iff.2 hne'
      rw [List.length_drop, List.length_cons] at hlength
      omega
    · rw [Nat.add_sub_cancel, ← List.head?_drop, hds]
      rfl
  rw [hbefore] at hcs
  refine ⟨pre, k, cs.drop last, hencloses, hcs, ?_, hlast⟩
  rw [hcs] at h hrun
  have hrun' := hencloses.isRun (b := b) h
  rw [← hlast] at hrun'
  exact hrun.first_eq hrun'

end

/-! ## Main theorem -/

/-- At most one finding, on the line itself. -/
def AtMostOne (l : Line) (fs : List Finding) : Prop := fs = [] ∨ ∃ message, fs = [⟨l.number, 1, message⟩]

theorem atMostOne_check (o : Options) (t : Text) (l : Line) : AtMostOne l (check o t l) :=
  iteInduction (motive := AtMostOne l) (fun _ => .inl rfl) fun _ =>
    iteInduction (motive := AtMostOne l) (fun _ => .inr ⟨_, rfl⟩) fun _ => .inl rfl

theorem AtMostOne.line_eq {l : Line} {fs : List Finding} (h : AtMostOne l fs) {f : Finding} (hf : f ∈ fs) :
    f.line = l.number := by
  obtain rfl | ⟨message, rfl⟩ := h
  · cases hf
  · rw [List.mem_singleton.1 hf]

theorem AtMostOne.pairwise {l : Line} {fs : List Finding} (h : AtMostOne l fs) : fs.Pairwise (·.line < ·.line) := by
  obtain rfl | ⟨message, rfl⟩ := h
  · exact .nil
  · exact List.pairwise_singleton _ _

/-- In a text with one kind of line break every run of blank lines that is too long is reported once, at its last
line, and nothing else is. A text that is a line break alone has none. -/
theorem reports_runs (h : t.HasOnly b) (o : Options) :
    ((Line.ofText t).flatMap (check o t)).Pairwise (·.line < ·.line) ∧
      ∀ f, f ∈ (Line.ofText t).flatMap (check o t) ↔
        t ≠ b.text ∧ ∃ first last, IsRun t first last ∧ limit o t first last < ↑(last + 1 - first) ∧
          f = runTooLong o t first last := by
  constructor
  · refine List.pairwise_flatMap.2 ⟨fun l _ => (atMostOne_check o t l).pairwise, ?_⟩
    have hnumbers : (Line.ofText t).Pairwise (·.number < ·.number) := by
      rw [← List.pairwise_map, Line.number_ofText]
      exact List.pairwise_lt_range'
    refine hnumbers.imp fun hlt f hf g hg => ?_
    rw [(atMostOne_check o t _).line_eq hf, (atMostOne_check o t _).line_eq hg]
    exact Int.ofNat_lt.2 hlt
  · obtain ⟨cs, hne, hcs, ht⟩ := h.exists_eq_intercalate
    intro f
    rw [List.mem_flatMap]
    constructor
    · rintro ⟨l, hl, hf⟩
      rw [ht] at hl
      obtain ⟨before, c, rest, rfl, rfl⟩ := (Line.mem_ofText_intercalate hcs hne).1 hl
      have hrest : AreContents rest := fun d hd => hcs d (by simp [hd])
      rw [ht] at hf
      obtain ⟨rfl, pre, k, rfl, hpre⟩ := exists_encloses_of_mem_check hrest hf
      rw [← ht, hpre.check_eq hcs o ht] at hf
      split at hf
      · next hlong =>
        have hlength : pre.length + k + 1 + 1 - (pre.length + 1) = k + 1 := by omega
        refine ⟨hlong.1, _, _, ht ▸ hpre.isRun hcs, ?_, List.mem_singleton.1 hf⟩
        rw [hlength]
        exact hlong.2
      · cases hf
    · rintro ⟨hbreak, first, last, hrun, hlong, rfl⟩
      obtain ⟨pre, k, rest, hpre, rfl, rfl, rfl⟩ := exists_encloses_of_isRun hcs hne (ht ▸ hrun)
      refine ⟨Line.after b 1 0 (beforeLast pre k) [], ?_, ?_⟩
      · rw [ht]
        exact (Line.mem_ofText_intercalate hcs hne).2 ⟨_, _, _, rfl, rfl⟩
      · have hlength : pre.length + k + 1 + 1 - (pre.length + 1) = k + 1 := by omega
        rw [hlength] at hlong
        rw [hpre.check_eq hcs o ht, if_pos ⟨hbreak, hlong⟩]
        exact List.mem_singleton_self _

/-- Three blank lines inside, and two at the end. -/
def spacedOut : Text := "a\r\n\r\n\r\n\r\nb\r\n\r\n\r\n".toList

theorem reports_runs_spacedOut :
    spacedOut.HasOnly .returnLineFeed ∧
      ⟨4, 1, "too many blank lines (3 > 2)"⟩ ∈ (Line.ofText spacedOut).flatMap (check ⟨2, 0, 1⟩ spacedOut) ∧
      ⟨7, 1, "too many blank lines (2 > 1)"⟩ ∈ (Line.ofText spacedOut).flatMap (check ⟨2, 0, 1⟩ spacedOut) := by
  have honly : spacedOut.HasOnly .returnLineFeed := by decide
  have hblank : ∀ n < 9, IsBlank spacedOut n ↔ n ∈ [2, 3, 4, 6, 7] := by decide
  have hmiddle : IsRun spacedOut 2 4 :=
    ⟨by decide, fun n hfirst hlast => (hblank n (by omega)).2 (by simp; omega), by decide, by decide⟩
  have hend : IsRun spacedOut 6 7 :=
    ⟨by decide, fun n hfirst hlast => (hblank n (by omega)).2 (by simp; omega), by decide, by decide⟩
  have hmem := (reports_runs honly ⟨2, 0, 1⟩).2
  exact ⟨honly, (hmem _).2 ⟨by decide, 2, 4, hmiddle, by decide, by decide⟩,
    (hmem _).2 ⟨by decide, 6, 7, hend, by decide, by decide⟩⟩

end YamlStyle.Rule.EmptyLines
