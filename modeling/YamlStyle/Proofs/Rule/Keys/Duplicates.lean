import YamlStyle.Proofs.Rule.Keys.Nesting

/-!
# Keys that occur twice

Whatever lexemes the rule against duplicated keys is shown, it reports a key just when the mapping in which
the key stands has an equal one before it (`steps_repeats`). Keys of other mappings, be they around it or
inside it, and of pairs in sequences do not count.
-/

namespace YamlStyle.Rule.KeyDuplicates

open Keys

variable {o : Options} {x y : Lexeme} {before after inside : List Lexeme} {value : String}

/-- What the rule keeps and finds, lexeme by lexeme. -/
def steps (o : Options) (s : State) : List Window → List (State × List Finding)
  | [] => []
  | w :: ws => check o w s :: steps o (check o w s).1 ws

/-- Whether what has come of a collection so far has a key of the collection itself that is a scalar with
this value. -/
def HasScalarKey (inside : List Lexeme) (value : String) : Prop :=
  ∃ earlier k scalar later, inside = earlier ++ k :: scalar :: later ∧ IsBalanced earlier ∧ k.kind = .key ∧
    scalar.kind = .scalar ∧ scalar.value = some value

/-- Whether the scalar `y` is a key that repeats an earlier one of its mapping, where `x` marks the key.
The merge key may be repeated unless that is forbidden. -/
structure Repeats (o : Options) (before : List Lexeme) (x y : Lexeme) (value : String) : Prop where
  marked : x.kind = .key
  scalar : y.kind = .scalar
  hasValue : y.value = some value
  counts : value = "<<" → o.forbidMerge = true
  earlier : ∃ opener inside, LeavesOffIn before opener inside ∧ opener.kind.isMappingStart = true ∧
    HasScalarKey inside value

/-! ## Steps -/

/-- What a lexeme makes of the open collections. -/
def step (o : Options) (s : State) (x : Lexeme) (next : Option Lexeme) : State :=
  (check o ⟨none, x, next, none⟩ s).1

theorem check_of_key?_eq_some {w : Window} {s : State} {keys : List String}
    (h : key? w (s.follow w.curr) = some (y, value, keys)) : check o w s =
      if value ∈ keys ∧ (value = "<<" → o.forbidMerge = true) then
        (s.follow w.curr, [.atStart y s!"duplication of key \"{value}\" in mapping"])
      else ((s.follow w.curr).add value, []) := by
  unfold check
  dsimp only
  rw [h]
  by_cases hmerge : value = "<<" <;> simp [hmerge]

theorem check_of_key?_eq_none {w : Window} {s : State} (h : key? w (s.follow w.curr) = none) :
    check o w s = (s.follow w.curr, []) := by
  unfold check
  dsimp only
  rw [h]

theorem length_findings_le (o : Options) (w : Window) (s : State) : (check o w s).2.length ≤ 1 := by
  cases h : key? w (s.follow w.curr) with
  | none => rw [check_of_key?_eq_none h]; exact Nat.zero_le 1
  | some found =>
    rw [check_of_key?_eq_some h]
    split
    · exact Nat.le_refl 1
    · exact Nat.zero_le 1

/-- A key is reported if its value has been noted for its mapping before. -/
theorem mem_findings_iff {w : Window} {s : State} {f : Finding} : f ∈ (check o w s).2 ↔
    ∃ y value keys, key? w (s.follow w.curr) = some (y, value, keys) ∧ value ∈ keys ∧
      (value = "<<" → o.forbidMerge = true) ∧ f = .atStart y s!"duplication of key \"{value}\" in mapping" := by
  cases h : key? w (s.follow w.curr) with
  | none =>
    rw [check_of_key?_eq_none h]
    exact ⟨nofun, nofun⟩
  | some found =>
    obtain ⟨y, value, keys⟩ := found
    rw [check_of_key?_eq_some h]
    split
    · next hreport =>
      rw [List.mem_singleton]
      constructor
      · exact fun hf => ⟨y, value, keys, rfl, hreport.1, hreport.2, hf⟩
      · rintro ⟨_, _, _, ⟨⟩, -, -, hf⟩
        exact hf
    · next hreport =>
      refine ⟨nofun, ?_⟩
      rintro ⟨_, _, _, ⟨⟩, hmem, hmerge, -⟩
      exact absurd ⟨hmem, hmerge⟩ hreport

theorem notes_step (o : Options) : Notes (step o) := by
  intro s x next
  cases h : key? ⟨none, x, next, none⟩ (s.follow x) with
  | none => exact .inl (congrArg Prod.fst (check_of_key?_eq_none h))
  | some found =>
    obtain ⟨y, value, keys⟩ := found
    rw [step, check_of_key?_eq_some h]
    split
    · exact .inl rfl
    · exact .inr ⟨y, value, keys, rfl, rfl⟩

/-- After a key of a mapping its value is among those noted for the mapping, be it new or not. -/
theorem mem_step_of_isScalarKey {next : Option Lexeme} (hx : IsScalarKey x next value) (keys : List String)
    (below : State) : ∃ keys', step o (⟨true, keys⟩ :: below) x next = ⟨true, keys'⟩ :: below ∧ value ∈ keys' := by
  obtain ⟨hkind, y, hnext, hscalar, hvalue⟩ := hx
  have hfollow := follow_key hkind (⟨true, keys⟩ :: below)
  have hkey : key? ⟨none, x, next, none⟩ (State.follow (⟨true, keys⟩ :: below) x) = some (y, value, keys) :=
    key?_eq_some.2 ⟨hkind, hnext, hscalar, hvalue, below, hfollow⟩
  rw [step, check_of_key?_eq_some hkey, hfollow]
  split
  · next hmem => exact ⟨keys, rfl, hmem.1⟩
  · exact ⟨keys ++ [value], rfl, List.mem_append_right keys (.head _)⟩

/-! ## Runs -/

theorem hasScalarKey_iff (hx : x.kind = .key) : HasScalarKey inside value ↔ HasKey 0 inside (some x) value := by
  constructor
  · rintro ⟨earlier, k, scalar, later, rfl, hbalanced, hk, hscalar, hvalue⟩
    exact ⟨earlier, k, scalar :: later, rfl, hbalanced, hk, scalar, rfl, hscalar, hvalue⟩
  · rintro ⟨earlier, k, later, rfl, hbalanced, hk, scalar, hnext, hscalar, hvalue⟩
    cases later with
    | nil =>
      obtain rfl : x = scalar := Option.some.inj hnext
      rw [hx] at hscalar
      cases hscalar
    | cons z later =>
      obtain rfl : z = scalar := Option.some.inj hnext
      exact ⟨earlier, k, z, later, rfl, hbalanced, hk, hscalar, hvalue⟩

/-- All keys of a mapping that is not at its end are noted for it. -/
theorem mem_run_of_hasKey {next : Option Lexeme} (hinside : IsBalanced inside) (h : HasKey 0 inside next value)
    (below : State) : ∃ keys, run (step o) (⟨true, []⟩ :: below) inside next = ⟨true, keys⟩ :: below ∧ value ∈ keys := by
  obtain ⟨earlier, k, later, rfl, hbalanced, hk⟩ := h
  obtain ⟨keys₁, hrun₁, -⟩ := (notes_step o).run_of_isBalanced (some k) ⟨true, []⟩ below hbalanced
  obtain ⟨keys₂, hstep, hmem⟩ := mem_step_of_isScalarKey (o := o) hk keys₁ below
  obtain ⟨keys₃, hrun₃, -⟩ := (notes_step o).run_of_isBalanced next ⟨true, keys₂⟩ below
    (isBalanced_after_key hinside hbalanced hk.1)
  refine ⟨keys₂ ++ keys₃, ?_, List.mem_append_left keys₃ hmem⟩
  rw [run_append, List.head?_cons, Option.some_or, hrun₁, run, List.nil_append, hstep, hrun₃]

/-- On top of the stack is a mapping that has noted a value just when the lexemes leave off in a mapping
that has a key with this value. -/
theorem run_noted_iff (hx : x.kind = .key) :
    (∃ keys below, run (step o) [] before (some x) = ⟨true, keys⟩ :: below ∧ value ∈ keys) ↔
      ∃ opener inside, LeavesOffIn before opener inside ∧ opener.kind.isMappingStart = true ∧
        HasScalarKey inside value := by
  have hnotes := notes_step o
  constructor
  · rintro ⟨keys, below, hrun, hmem⟩
    rcases hnotes.run_eq_nil_or_leavesOffIn before with hnil | ⟨opener, inside, hleaves⟩
    · rw [hnil] at hrun
      cases hrun
    · obtain ⟨below', keys', -, hrun', hkeys⟩ := hnotes.run_of_leavesOffIn hleaves (some x)
      rw [hrun] at hrun'
      obtain ⟨hhead, -⟩ := List.cons.inj hrun'
      obtain ⟨hmapping, rfl⟩ := Collection.mk.inj hhead
      exact ⟨opener, inside, hleaves, hmapping.symm, (hasScalarKey_iff hx).2 (hkeys value hmem)⟩
  · rintro ⟨opener, inside, hleaves, hmapping, hkey⟩
    obtain ⟨below, -, hrun, -⟩ := hnotes.run_of_leavesOffIn hleaves (some x)
    rw [hmapping] at hrun
    obtain ⟨keys, hinside, hmem⟩ := mem_run_of_hasKey (o := o) hleaves.2.1 ((hasScalarKey_iff hx).1 hkey) below
    exact ⟨keys, below, hrun.trans hinside, hmem⟩

theorem steps_slide (o : Options) (s : State) (prev : Option Lexeme) (before : List Lexeme) (x : Lexeme)
    (after : List Lexeme) : (steps o s (Window.slide prev (before ++ x :: after)))[before.length]? =
      some (check o ⟨none, x, after.head?, none⟩ (run (step o) s before (some x))) := by
  induction before generalizing s prev with
  | nil =>
    rw [List.nil_append, Window.slide, steps, List.head?_eq_getElem?]
    rfl
  | cons y before ih =>
    have hnext : (before ++ x :: after)[0]? = before.head?.or (some x) := by
      cases before <;> rfl
    rw [List.cons_append, Window.slide, steps, List.length_cons, List.getElem?_cons_succ, ih, run, hnext]
    rfl

/-- Of each lexeme that marks a key the rule reports the scalar right after it, and only that, just when it
repeats a key of its mapping. -/
theorem steps_repeats (o : Options) (before : List Lexeme) (x : Lexeme) (after : List Lexeme) :
    ∃ s findings, (steps o [] (Window.slide none (before ++ x :: after)))[before.length]? = some (s, findings) ∧
      findings.length ≤ 1 ∧
      ∀ f, f ∈ findings ↔ ∃ y value, after.head? = some y ∧ Repeats o before x y value ∧
        f = .atStart y s!"duplication of key \"{value}\" in mapping" := by
  have hstep := steps_slide o [] none before x after
  generalize hw : (⟨none, x, after.head?, none⟩ : Window) = w at hstep
  refine ⟨(check o w _).1, (check o w _).2, hstep, length_findings_le o w _, fun f => mem_findings_iff.trans ?_⟩
  subst hw
  dsimp only
  constructor
  · rintro ⟨y, value, keys, hkey, hmem, hmerge, hf⟩
    obtain ⟨hx, hnext, hscalar, hvalue, below, hfollow⟩ := key?_eq_some.1 hkey
    rw [follow_key hx] at hfollow
    exact ⟨y, value, hnext, ⟨hx, hscalar, hvalue, hmerge, (run_noted_iff hx).1 ⟨keys, below, hfollow, hmem⟩⟩, hf⟩
  · rintro ⟨y, value, hnext, h, hf⟩
    obtain ⟨keys, below, hrun, hmem⟩ := (run_noted_iff (o := o) h.marked).2 h.earlier
    refine ⟨y, value, keys, key?_eq_some.2 ⟨h.marked, hnext, h.scalar, h.hasValue, below, ?_⟩, hmem, h.counts, hf⟩
    rw [follow_key h.marked, hrun]

end YamlStyle.Rule.KeyDuplicates
