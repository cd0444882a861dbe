import Mathlib
import YamlStyle.Rule.Keys

/-!
# Collections that are open

A rule for keys keeps the open collections on a stack, innermost first, and notes keys for the innermost
one. Lexemes in which every collection that starts also ends leave the stack as it was, but for keys noted
on top of it (`run_of_isBalanced`). So what is on top of the stack after some lexemes is the collection in
which they leave off (`run_eq_nil_or_leavesOffIn`).
-/

namespace YamlStyle.Rule.Keys

/-! ## Nested collections -/

def isCollectionStart (x : Lexeme) : Bool := x.kind.isMappingStart || x.kind.isSequenceStart

/-- How many collections are open after a lexeme if `depth` were before it; none if it ends one and none
was open. An end closes the innermost collection. -/
def depthAt? (depth : Nat) (x : Lexeme) : Option Nat :=
  if isCollectionStart x then some (depth + 1)
  else if x.kind.isCollectionEnd then (if depth = 0 then none else some (depth - 1))
  else some depth

def depthAfter? (depth : Nat) (xs : List Lexeme) : Option Nat := xs.foldlM depthAt? depth

/-- Whether every collection that starts or ends in some lexemes does both there. -/
def IsBalanced (xs : List Lexeme) : Prop := depthAfter? 0 xs = some 0

/-- Whether some lexemes leave off in the collection that `opener` started, `inside` being what has come
of it so far. -/
def LeavesOffIn (xs : List Lexeme) (opener : Lexeme) (inside : List Lexeme) : Prop :=
  isCollectionStart opener = true ∧ IsBalanced inside ∧ ∃ outer, xs = outer ++ opener :: inside

/-- Whether a lexeme marks a key, and the one right after it is a scalar with this value. -/
def IsScalarKey (x : Lexeme) (next : Option Lexeme) (value : String) : Prop :=
  x.kind = .key ∧ ∃ y, next = some y ∧ y.kind = .scalar ∧ y.value = some value

/-- Whether some lexemes have a key with this value outside of the collections in them, `depth` of which
are open before them. -/
def HasKey (depth : Nat) (xs : List Lexeme) (next : Option Lexeme) (value : String) : Prop :=
  ∃ before x after, xs = before ++ x :: after ∧ depthAfter? depth before = some 0 ∧
    IsScalarKey x (after.head?.or next) value

variable {x y opener : Lexeme} {xs ys inside : List Lexeme} {next : Option Lexeme} {value : String} {depth n : Nat}

theorem isCollectionEnd_of_start (h : isCollectionStart x = true) : x.kind.isCollectionEnd = false := by
  cases hk : x.kind <;> simp_all [isCollectionStart, LexemeKind.isMappingStart, LexemeKind.isSequenceStart,
    LexemeKind.isCollectionEnd]

theorem depthAt?_start (h : isCollectionStart x = true) : depthAt? depth x = some (depth + 1) := if_pos h

theorem depthAt?_end (h : x.kind.isCollectionEnd = true) : depthAt? (depth + 1) x = some depth := by
  have hstart : isCollectionStart x = false := by
    by_contra hstart
    rw [isCollectionEnd_of_start (by simpa using hstart)] at h
    cases h
  simp [depthAt?, hstart, h]

theorem depthAt?_other (hstart : isCollectionStart x = false) (hend : x.kind.isCollectionEnd = false) :
    depthAt? depth x = some depth := by
  simp [depthAt?, hstart, hend]

theorem depthAt?_key (h : x.kind = .key) : depthAt? depth x = some depth :=
  depthAt?_other (by rw [isCollectionStart, h]; rfl) (by rw [h]; rfl)

/-- Collections around a lexeme do not matter to it. -/
theorem depthAt?_add (h : depthAt? depth x = some n) (m : Nat) : depthAt? (depth + m) x = some (n + m) := by
  unfold depthAt? at h ⊢
  split at h
  · rw [if_pos ‹_›, ← Option.some.inj h, Nat.add_right_comm]
  · rw [if_neg ‹_›]
    split at h
    · rw [if_pos ‹_›]
      split at h
      · cases h
      · rw [if_neg (by omega), ← Option.some.inj h]
        congr 1
        omega
    · rw [if_neg ‹_›, Option.some.inj h]

theorem depthAfter?_cons :
    depthAfter? depth (x :: xs) = (depthAt? depth x).bind fun n => depthAfter? n xs := List.foldlM_cons

theorem depthAfter?_append :
    depthAfter? depth (xs ++ ys) = (depthAfter? depth xs).bind fun n => depthAfter? n ys := List.foldlM_append

theorem depthAfter?_add (h : depthAfter? depth xs = some n) (m : Nat) :
    depthAfter? (depth + m) xs = some (n + m) := by
  induction xs generalizing depth with
  | nil =>
    cases h
    rfl
  | cons x xs ih =>
    rw [depthAfter?_cons, Option.bind_eq_some_iff] at h ⊢
    obtain ⟨k, hk, h⟩ := h
    exact ⟨k + m, depthAt?_add hk m, ih h⟩

theorem isBalanced_nil : IsBalanced [] := rfl

theorem IsBalanced.append (hxs : IsBalanced xs) (hys : IsBalanced ys) : IsBalanced (xs ++ ys) := by
  rw [IsBalanced, depthAfter?_append, hxs]
  exact hys

theorem IsBalanced.concat (h : IsBalanced xs) (hstart : isCollectionStart x = false)
    (hend : x.kind.isCollectionEnd = false) : IsBalanced (xs ++ [x]) := by
  refine h.append ?_
  rw [IsBalanced, depthAfter?_cons, depthAt?_other hstart hend]
  rfl

/-- A collection from its start to its end. -/
theorem IsBalanced.collection (hopener : isCollectionStart opener = true) (hinside : IsBalanced inside)
    (hend : x.kind.isCollectionEnd = true) : IsBalanced (opener :: inside ++ [x]) := by
  rw [IsBalanced, List.cons_append, depthAfter?_cons, depthAt?_start hopener, Option.bind_some, depthAfter?_append,
    depthAfter?_add hinside 1, Option.bind_some, depthAfter?_cons, depthAt?_end hend]
  rfl

/-- A key divides what is balanced into two parts that are. -/
theorem isBalanced_after_key {before after : List Lexeme} (h : IsBalanced (before ++ x :: after))
    (hbefore : IsBalanced before) (hx : x.kind = .key) : IsBalanced after := by
  rwa [IsBalanced, depthAfter?_append, hbefore, Option.bind_some, depthAfter?_cons, depthAt?_key hx] at h

/-! ## Steps -/

theorem follow_start (h : isCollectionStart x = true) (s : State) :
    s.follow x = ⟨x.kind.isMappingStart, []⟩ :: s := by
  unfold State.follow
  cases hm : x.kind.isMappingStart with
  | true => rfl
  | false =>
    rw [isCollectionStart, hm, Bool.false_or] at h
    rw [if_neg Bool.false_ne_true, if_pos h]

theorem follow_end (h : x.kind.isCollectionEnd = true) (s : State) : s.follow x = s.tail := by
  cases hk : x.kind <;> simp_all [State.follow, LexemeKind.isMappingStart, LexemeKind.isSequenceStart,
    LexemeKind.isCollectionEnd]

theorem follow_other (hstart : isCollectionStart x = false) (hend : x.kind.isCollectionEnd = false) (s : State) :
    s.follow x = s := by
  rw [isCollectionStart, Bool.or_eq_false_iff] at hstart
  simp [State.follow, hstart.1, hstart.2, hend]

theorem follow_key (h : x.kind = .key) (s : State) : s.follow x = s :=
  follow_other (by rw [isCollectionStart, h]; rfl) (by rw [h]; rfl) s

/-- The key of a mapping is a scalar right after what marks it, and the mapping is the innermost
collection. -/
theorem key?_eq_some {w : Window} {s : State} {keys : List String} : key? w s = some (y, value, keys) ↔
    w.curr.kind = .key ∧ w.next = some y ∧ y.kind = .scalar ∧ y.value = some value ∧
      ∃ rest, s = ⟨true, keys⟩ :: rest := by
  constructor
  · intro h
    unfold key? at h
    split at h
    · next next keys' rest hcurr hnext =>
      split at h
      · next hscalar =>
        obtain ⟨v, hv, heq⟩ := Option.map_eq_some_iff.1 h
        cases heq
        exact ⟨hcurr, hnext, eq_of_beq hscalar, hv, rest, rfl⟩
      · cases h
    · cases h
  · rintro ⟨hcurr, hnext, hscalar, hv, rest, rfl⟩
    simp [key?, hcurr, hnext, hscalar, hv]

/-- Steps that follow the collections, and at most note the key at hand for the innermost one. -/
def Notes (step : State → Lexeme → Option Lexeme → State) : Prop :=
  ∀ s x next, step s x next = s.follow x ∨
    ∃ y value keys, key? ⟨none, x, next, none⟩ (s.follow x) = some (y, value, keys) ∧
      step s x next = (s.follow x).add value

/-- The open collections after some lexemes, the last of which `next` follows. -/
def run (step : State → Lexeme → Option Lexeme → State) (s : State) : List Lexeme → Option Lexeme → State
  | [], _ => s
  | x :: xs, next => run step (step s x (xs.head?.or next)) xs next

variable {step : State → Lexeme → Option Lexeme → State}

theorem run_append (step : State → Lexeme → Option Lexeme → State) (s : State) (xs ys : List Lexeme)
    (next : Option Lexeme) : run step s (xs ++ ys) next = run step (run step s xs (ys.head?.or next)) ys next := by
  induction xs generalizing s with
  | nil => rfl
  | cons x xs ih =>
    rw [List.cons_append, run, run, ih]
    congr 3
    cases xs <;> rfl

theorem Notes.step_eq_follow (hstep : Notes step) (h : x.kind ≠ .key) (s : State) (next : Option Lexeme) :
    step s x next = s.follow x := by
  rcases hstep s x next with heq | ⟨y, value, keys, hkey, -⟩
  · exact heq
  · exact absurd (key?_eq_some.1 hkey).1 h

theorem Notes.step_nil (hstep : Notes step) (h : isCollectionStart x = false) (next : Option Lexeme) :
    step [] x next = [] := by
  have hfollow : State.follow [] x = [] := by
    cases hend : x.kind.isCollectionEnd with
    | true => exact follow_end hend []
    | false => exact follow_other h hend []
  rcases hstep [] x next with heq | ⟨y, value, keys, -, heq⟩
  · exact heq.trans hfollow
  · rw [heq, hfollow]
    rfl

/-- A step from a stack on which `above` lies over a collection. Nothing changes below that, and what is
noted for it is the key at hand. -/
theorem Notes.step_above (hstep : Notes step) (next : Option Lexeme) {above : State} (c : Collection) (below : State)
    (h : depthAt? above.length x = some n) :
    ∃ above' keys, step (above ++ c :: below) x next = above' ++ ⟨c.isMapping, c.keys ++ keys⟩ :: below ∧
      above'.length = n ∧ ∀ key ∈ keys, above = [] ∧ IsScalarKey x next key := by
  by_cases hkey : x.kind = .key
  · rw [depthAt?_key hkey] at h
    cases h
    rcases hstep (above ++ c :: below) x next with heq | ⟨y, value, keys, hvalue, heq⟩
    · exact ⟨above, [], by rw [heq, follow_key hkey, List.append_nil], rfl, nofun⟩
    · obtain ⟨hkind, hnext, hscalar, hv, -⟩ := key?_eq_some.1 hvalue
      rw [heq, follow_key hkey]
      cases above with
      | nil =>
        refine ⟨[], [value], rfl, rfl, fun key hmem => ⟨rfl, hkind, y, hnext, hscalar, ?_⟩⟩
        rw [hv, List.mem_singleton.1 hmem]
      | cons a above =>
        exact ⟨{ a with keys := a.keys ++ [value] } :: above, [], by rw [List.append_nil]; rfl, rfl, nofun⟩
  · rw [hstep.step_eq_follow hkey]
    cases hstart : isCollectionStart x with
    | true =>
      rw [depthAt?_start hstart] at h
      cases h
      exact ⟨⟨x.kind.isMappingStart, []⟩ :: above, [], by rw [follow_start hstart, List.append_nil]; rfl, rfl, nofun⟩
    | false =>
      cases hend : x.kind.isCollectionEnd with
      | true =>
        cases above with
        | nil => simp [depthAt?, hstart, hend] at h
        | cons a above =>
          rw [List.length_cons, depthAt?_end hend] at h
          cases h
          exact ⟨above, [], by rw [follow_end hend, List.append_nil]; rfl, rfl, nofun⟩
      | false =>
        rw [depthAt?_other hstart hend] at h
        cases h
        exact ⟨above, [], by rw [follow_other hstart hend, List.append_nil], rfl, nofun⟩

/-! ## Runs -/

theorem Notes.run_above (hstep : Notes step) (next : Option Lexeme) (above : State) (c : Collection) (below : State)
    (h : depthAfter? above.length xs = some n) :
    ∃ above' keys, run step (above ++ c :: below) xs next = above' ++ ⟨c.isMapping, c.keys ++ keys⟩ :: below ∧
      above'.length = n ∧ ∀ key ∈ keys, HasKey above.length xs next key := by
  induction xs generalizing above c with
  | nil =>
    cases h
    exact ⟨above, [], by rw [List.append_nil]; rfl, rfl, nofun⟩
  | cons x xs ih =>
    rw [depthAfter?_cons, Option.bind_eq_some_iff] at h
    obtain ⟨k, hk, h⟩ := h
    obtain ⟨above₁, keys₁, hrun₁, rfl, hkeys₁⟩ := hstep.step_above (xs.head?.or next) c below hk
    obtain ⟨above₂, keys₂, hrun₂, hlength, hkeys₂⟩ := ih above₁ ⟨c.isMapping, c.keys ++ keys₁⟩ h
    refine ⟨above₂, keys₁ ++ keys₂, ?_, hlength, fun key hmem => ?_⟩
    · rw [run, hrun₁, hrun₂, List.append_assoc]
    · rcases List.mem_append.1 hmem with hmem | hmem
      · obtain ⟨rfl, hx⟩ := hkeys₁ key hmem
        exact ⟨[], x, xs, rfl, rfl, hx⟩
      · obtain ⟨before, y, after, rfl, hbefore, hy⟩ := hkeys₂ key hmem
        refine ⟨x :: before, y, after, rfl, ?_, hy⟩
        rw [depthAfter?_cons, hk]
        exact hbefore

/-- Balanced lexemes change a stack only by keys noted on top of it. -/
theorem Notes.run_of_isBalanced (hstep : Notes step) (next : Option Lexeme) (c : Collection) (below : State)
    (h : IsBalanced xs) :
    ∃ keys, run step (c :: below) xs next = ⟨c.isMapping, c.keys ++ keys⟩ :: below ∧
      ∀ key ∈ keys, HasKey 0 xs next key := by
  obtain ⟨above, keys, hrun, hlength, hkeys⟩ := hstep.run_above next [] c below h
  rw [List.length_eq_zero_iff.1 hlength] at hrun
  exact ⟨keys, hrun, hkeys⟩

theorem length_add (s : State) (key : String) : (s.add key).length = s.length := by
  cases s <;> rfl

theorem Notes.length_step (hstep : Notes step) {s : State} (h : depthAt? s.length x = some n) :
    (step s x next).length = n := by
  have hfollow : (s.follow x).length = n := by
    unfold depthAt? at h
    split at h
    · next hstart =>
      rw [follow_start hstart]
      exact Option.some.inj h
    · next hstart =>
      split at h
      · next hend =>
        split at h
        · cases h
        · rw [follow_end hend, List.length_tail]
          exact Option.some.inj h
      · next hend =>
        rw [follow_other (by simpa using hstart) (by simpa using hend)]
        exact Option.some.inj h
  rcases hstep s x next with heq | ⟨y, value, keys, -, heq⟩
  · rw [heq, hfollow]
  · rw [heq, length_add, hfollow]

theorem Notes.length_run (hstep : Notes step) {s : State} (h : depthAfter? s.length xs = some n) :
    (run step s xs next).length = n := by
  induction xs generalizing s with
  | nil => exact Option.some.inj h
  | cons x xs ih =>
    rw [depthAfter?_cons, Option.bind_eq_some_iff] at h
    obtain ⟨k, hk, h⟩ := h
    exact ih (by rw [hstep.length_step hk]; exact h)

/-- Either nothing is open after some lexemes, or they leave off in a collection. -/
theorem Notes.run_eq_nil_or_leavesOffIn (hstep : Notes step) (xs : List Lexeme) :
    (∀ next, run step [] xs next = []) ∨ ∃ opener inside, LeavesOffIn xs opener inside := by
  -- The last lexeme may end a collection, so what counts is the one around it, which started earlier.
  induction h : xs.length using Nat.strong_induction_on generalizing xs with
  | _ k ih =>
    rcases List.eq_nil_or_concat xs with rfl | ⟨init, x, rfl⟩
    · exact .inl fun _ => rfl
    rw [List.concat_eq_append, List.length_append] at h
    have hinit := ih init.length (by rw [← h]; exact Nat.lt_succ_self _) init rfl
    rw [List.concat_eq_append]
    cases hstart : isCollectionStart x with
    | true => exact .inr ⟨x, [], hstart, isBalanced_nil, init, rfl⟩
    | false =>
      rcases hinit with hnil | ⟨opener, inside, hopener, hinside, outer, rfl⟩
      · refine .inl fun next => ?_
        rw [run_append, hnil]
        exact hstep.step_nil hstart _
      · cases hend : x.kind.isCollectionEnd with
        | false => exact .inr ⟨opener, inside ++ [x], hopener, hinside.concat hstart hend, outer, by simp⟩
        | true =>
          have hbalanced := IsBalanced.collection hopener hinside hend
          rw [List.append_assoc]
          rcases ih outer.length (by simp at h; omega) outer rfl with
            hnil | ⟨opener', inside', hopener', hinside', outer', rfl⟩
          · refine .inl fun next => List.length_eq_zero_iff.1 ?_
            rw [run_append, hnil]
            exact hstep.length_run hbalanced
          · have hinside' := hinside'.append hbalanced
            exact .inr ⟨opener', inside' ++ (opener :: inside ++ [x]), hopener', hinside', outer', by simp⟩

/-- What is on top of the stack is the collection in which the lexemes leave off, with the keys that have
been noted for it. -/
theorem Notes.run_of_leavesOffIn (hstep : Notes step) (h : LeavesOffIn xs opener inside) (next : Option Lexeme) :
    ∃ below keys, run step [] xs next = run step (⟨opener.kind.isMappingStart, []⟩ :: below) inside next ∧
      run step [] xs next = ⟨opener.kind.isMappingStart, keys⟩ :: below ∧ ∀ key ∈ keys, HasKey 0 inside next key := by
  obtain ⟨hopener, hinside, outer, rfl⟩ := h
  have hkind : opener.kind ≠ .key := by
    intro hkey
    rw [isCollectionStart, hkey] at hopener
    cases hopener
  rw [run_append, run, hstep.step_eq_follow hkind, follow_start hopener]
  obtain ⟨keys, hrun, hkeys⟩ := hstep.run_of_isBalanced next ⟨opener.kind.isMappingStart, []⟩ _ hinside
  exact ⟨_, keys, rfl, hrun, hkeys⟩

end YamlStyle.Rule.Keys
