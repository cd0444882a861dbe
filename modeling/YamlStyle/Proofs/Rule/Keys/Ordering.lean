import YamlStyle.Proofs.Journal
import YamlStyle.Proofs.Lexeme.Reckoning
import YamlStyle.Proofs.Rule.Indentation.Block
import YamlStyle.Proofs.Rule.Keys.Duplicates

/-!
# Keys in order

The rule for the order of keys notes a key only if it comes after all keys that are noted for its mapping,
so those are in order (`State.IsNoted.run`). Keys that it reports are left out, and nothing is lost by that,
since each of them comes before one that is noted (`exists_noted_of_hasKey`). So a key is reported just when
some earlier key of its mapping comes after it, be that one reported or not (`steps_ordered`). A key with a
NUL character has no place in the order: the rule fails where such a key is to be compared.
-/

namespace YamlStyle.Rule.KeyOrdering

open Keys
open Indentation (mark plain)
open KeyDuplicates (HasScalarKey hasScalarKey_iff)

/-- What the rule keeps and finds, lexeme by lexeme, up to the first one on which it fails. -/
def steps (o : Options) (s : State) : List Window → List (Except Failure (State × List Finding))
  | [] => []
  | w :: ws =>
    match (check o w s).outcome with
    | .ok r => .ok r :: steps o r.1 ws
    | .error e => [.error e]

/-- The numbers of the characters of a key, by which keys are ordered. -/
def codes (key : String) : List Nat := key.toList.map Text.codeOf

def HasNul (key : String) : Prop := '\x00' ∈ key.toList

instance (key : String) : Decidable (HasNul key) := inferInstanceAs (Decidable (_ ∈ _))

/-- Whether one of the patterns for keys to be ignored matches a key. -/
def IsIgnored (o : Options) (key : String) : Prop :=
  ∃ pattern ∈ o.ignored, ∃ p, Regex.Pattern.ofText pattern.toList = .ok p ∧ p.isIn key.toList = true

/-- Whether `x` marks the scalar `y` as a key that is not ignored. -/
structure IsKey (o : Options) (x y : Lexeme) (value : String) : Prop where
  marked : x.kind = .key
  scalar : y.kind = .scalar
  hasValue : y.value = some value
  counts : ¬IsIgnored o value

/-- Whether some lexemes leave off in a mapping that has this scalar for a key, and the key is not ignored. -/
def HasEarlierKey (o : Options) (before : List Lexeme) (value : String) : Prop :=
  ∃ opener inside, LeavesOffIn before opener inside ∧ opener.kind.isMappingStart = true ∧
    HasScalarKey inside value ∧ ¬IsIgnored o value

/-- Whether the scalar `y` is a key before which a key stands that comes after it. -/
def IsOutOfOrder (o : Options) (before : List Lexeme) (x y : Lexeme) (value : String) : Prop :=
  IsKey o x y value ∧ ∃ earlier, HasEarlierKey o before earlier ∧ codes value < codes earlier

/-- Whether the lexeme after `x` is a key that cannot be compared with some key before it. -/
def IsIncomparable (o : Options) (before : List Lexeme) (x : Lexeme) (next : Option Lexeme) : Prop :=
  ∃ y value, next = some y ∧ IsKey o x y value ∧
    ∃ earlier, HasEarlierKey o before earlier ∧ (HasNul value ∨ HasNul earlier)

/-- Whether all keys that some lexemes mark can be compared with those before them. -/
def AreComparable (o : Options) (xs : List Lexeme) (next : Option Lexeme) : Prop :=
  ∀ before x after, xs = before ++ x :: after → ¬IsIncomparable o before x (after.head?.or next)

/-- Whether a key may be noted after another one. -/
def Precedes (a b : String) : Prop := ¬HasNul a ∧ ¬HasNul b ∧ codes a ≤ codes b

/-- Whether keys are such as the rule notes. -/
structure AreNoted (o : Options) (keys : List String) : Prop where
  sorted : keys.Pairwise Precedes
  count : ∀ key ∈ keys, ¬IsIgnored o key

def State.IsNoted (o : Options) (s : State) : Prop := ∀ c ∈ s, AreNoted o c.keys

variable {o : Options} {w : Window} {s below : State} {x y opener : Lexeme} {xs before after inside : List Lexeme}
  {next : Option Lexeme} {keys : List String} {key value : String}

/-! ## Comparing -/

theorem outcome_searchAny {t : Text} {patterns : List String}
    (h : ∀ p ∈ patterns, ∃ r, Regex.Pattern.ofText p.toList = .ok r) :
    ∃ found, (searchAny t patterns).outcome = .ok found ∧ (found = true ↔
      ∃ p ∈ patterns, ∃ r, Regex.Pattern.ofText p.toList = .ok r ∧ r.isIn t = true) := by
  induction patterns with
  | nil => exact ⟨false, rfl, nofun, nofun⟩
  | cons p ps ih =>
    obtain ⟨r, hr⟩ := h p (.head _)
    obtain ⟨found, hfound, hiff⟩ := ih fun q hq => h q (.tail _ hq)
    have hsearch : (search t p).outcome = .ok (r.isIn t) := by
      rw [search, hr]
      rfl
    rw [searchAny, Logged.outcome_bind, hsearch]
    by_cases hin : r.isIn t = true
    · refine ⟨true, ?_, fun _ => ⟨p, .head _, r, hr, hin⟩, fun _ => rfl⟩
      rw [hin]
      rfl
    · refine ⟨found, ?_, hiff.trans ⟨?_, ?_⟩⟩
      · rw [Bool.eq_false_iff.2 hin]
        exact hfound
      · rintro ⟨q, hq, hmatch⟩
        exact ⟨q, .tail _ hq, hmatch⟩
      · rintro ⟨q, hq, r', hr', hin'⟩
        rcases List.mem_cons.1 hq with rfl | hq
        · cases hr.symm.trans hr'
          exact absurd hin' hin
        · exact ⟨q, hq, r', hr', hin'⟩

theorem outcome_isLess (a b : String) : (isLess a b).outcome =
    if HasNul a ∨ HasNul b then .error .unorderedKey else .ok (decide (codes a < codes b)) := by
  have hnul : (a.toList.contains '\x00' || b.toList.contains '\x00') = true ↔ HasNul a ∨ HasNul b := by
    rw [Bool.or_eq_true, List.contains_iff_mem, List.contains_iff_mem, HasNul, HasNul]
  unfold isLess
  by_cases h : HasNul a ∨ HasNul b
  · rw [if_pos (hnul.2 h), if_pos h]
    rfl
  · rw [if_neg fun h' => h (hnul.1 h'), if_neg h]
    rfl

theorem outcome_isLessThanAny_of_comparable (h : ∀ other ∈ keys, ¬HasNul key ∧ ¬HasNul other) :
    ∃ less, (isLessThanAny key keys).outcome = .ok less ∧ (less = true ↔ ∃ other ∈ keys, codes key < codes other) := by
  induction keys with
  | nil => exact ⟨false, rfl, nofun, nofun⟩
  | cons k ks ih =>
    obtain ⟨less, hless, hiff⟩ := ih fun other hother => h other (.tail _ hother)
    have hk : (isLess key k).outcome = .ok (decide (codes key < codes k)) := by
      rw [outcome_isLess, if_neg (not_or.2 (h k (.head _)))]
    rw [isLessThanAny, Logged.outcome_bind, hk]
    by_cases hlt : codes key < codes k
    · refine ⟨true, ?_, fun _ => ⟨k, .head _, hlt⟩, fun _ => rfl⟩
      rw [decide_eq_true hlt]
      rfl
    · refine ⟨less, ?_, ?_⟩
      · rw [decide_eq_false hlt]
        exact hless
      · rw [hiff, List.exists_mem_cons_iff]
        exact (or_iff_right hlt).symm

/-- The first key that is noted is the only one that may have a NUL character, so it is met at once. -/
theorem outcome_isLessThanAny_of_incomparable (hsorted : keys.Pairwise Precedes)
    (h : ∃ other ∈ keys, HasNul key ∨ HasNul other) : (isLessThanAny key keys).outcome = .error .unorderedKey := by
  obtain ⟨other, hmem, hnul⟩ := h
  cases keys with
  | nil => cases hmem
  | cons k ks =>
    have hfirst : HasNul key ∨ HasNul k := by
      rcases List.mem_cons.1 hmem with rfl | hmem
      · exact hnul
      · exact .inl (hnul.resolve_right (List.rel_of_pairwise_cons hsorted hmem).2.1)
    rw [isLessThanAny, Logged.outcome_bind, outcome_isLess, if_pos hfirst]
    rfl

/-! ## Steps -/

/-- What a lexeme makes of the open collections. -/
def step (o : Options) (s : State) (x : Lexeme) (next : Option Lexeme) : State :=
  match (check o ⟨none, x, next, none⟩ s).outcome with
  | .ok r => r.1
  | .error _ => s.follow x

/-- How a key is reported. -/
def misplaced (y : Lexeme) (value : String) : Finding := .atStart y s!"wrong ordering of key \"{value}\" in mapping"

/-- What the rule makes of a key when `s` are the open collections and `keys` are noted for the innermost. -/
inductive Judges (o : Options) (s : State) (y : Lexeme) (value : String) (keys : List String) :
    Except Failure (State × List Finding) → Prop
  | ignored (h : IsIgnored o value) : Judges o s y value keys (.ok (s, []))
  | incomparable (h : ¬IsIgnored o value) (hnul : ∃ other ∈ keys, HasNul value ∨ HasNul other) :
      Judges o s y value keys (.error .unorderedKey)
  | misplaced (h : ¬IsIgnored o value) (hnul : ∀ other ∈ keys, ¬HasNul value ∧ ¬HasNul other)
      (hless : ∃ other ∈ keys, codes value < codes other) : Judges o s y value keys (.ok (s, [misplaced y value]))
  | noted (h : ¬IsIgnored o value) (hprecedes : ∀ other ∈ keys, Precedes other value) :
      Judges o s y value keys (.ok (s.add value, []))

theorem outcome_check_of_key?_eq_none (h : key? w (s.follow w.curr) = none) :
    (check o w s).outcome = .ok (s.follow w.curr, []) := by
  unfold check
  dsimp only
  rw [h]
  rfl

theorem outcome_check_of_key?_eq_some (h : key? w (s.follow w.curr) = some (y, value, keys)) :
    (check o w s).outcome = do
      if ← (searchAny value.toList o.ignored).outcome then return (s.follow w.curr, [])
      else if ← (isLessThanAny value keys).outcome then return (s.follow w.curr, [misplaced y value])
      else return ((s.follow w.curr).add value, []) := by
  unfold check
  dsimp only
  rw [h]
  dsimp only
  rw [Logged.outcome_bind]
  congr 1
  funext ignored
  cases ignored with
  | true => rfl
  | false =>
    rw [if_neg Bool.false_ne_true, if_neg Bool.false_ne_true, Logged.outcome_bind]
    congr 1
    funext less
    cases less with
    | true => rfl
    | false => rfl

theorem judges_check (hpatterns : ∀ p ∈ o.ignored, ∃ r, Regex.Pattern.ofText p.toList = .ok r)
    (hsorted : keys.Pairwise Precedes) (h : key? w (s.follow w.curr) = some (y, value, keys)) :
    Judges o (s.follow w.curr) y value keys (check o w s).outcome := by
  obtain ⟨found, hfound, hignored⟩ := outcome_searchAny (t := value.toList) hpatterns
  rw [outcome_check_of_key?_eq_some h, hfound]
  cases found with
  | true => exact .ignored (hignored.1 rfl)
  | false =>
    have hcounts : ¬IsIgnored o value := fun hign => Bool.false_ne_true (hignored.2 hign)
    by_cases hnul : ∃ other ∈ keys, HasNul value ∨ HasNul other
    · have herror := outcome_isLessThanAny_of_incomparable hsorted hnul
      rw [herror]
      exact .incomparable hcounts hnul
    · have hnul : ∀ other ∈ keys, ¬HasNul value ∧ ¬HasNul other := by
        intro other hother
        exact not_or.1 fun h => hnul ⟨other, hother, h⟩
      obtain ⟨less, hless, hiff⟩ := outcome_isLessThanAny_of_comparable hnul
      rw [hless]
      cases less with
      | true => exact .misplaced hcounts hnul (hiff.1 rfl)
      | false =>
        refine .noted hcounts fun other hother => ⟨(hnul other hother).2, (hnul other hother).1, ?_⟩
        exact not_lt.1 fun hlt => Bool.false_ne_true (hiff.2 ⟨other, hother, hlt⟩)

theorem notes_step (o : Options) : Notes (step o) := by
  intro s x next
  unfold step
  cases h : key? ⟨none, x, next, none⟩ (s.follow x) with
  | none => exact .inl (by rw [outcome_check_of_key?_eq_none h])
  | some found =>
    obtain ⟨y, value, keys⟩ := found
    rw [outcome_check_of_key?_eq_some h]
    cases (searchAny value.toList o.ignored).outcome with
    | error e => exact .inl rfl
    | ok ignored =>
      cases ignored with
      | true => exact .inl rfl
      | false =>
        cases (isLessThanAny value keys).outcome with
        | error e => exact .inl rfl
        | ok less =>
          cases less with
          | true => exact .inl rfl
          | false => exact .inr ⟨y, value, keys, rfl, rfl⟩

theorem State.IsNoted.top {isMapping : Bool} (h : State.IsNoted o s) (hs : s = ⟨isMapping, keys⟩ :: below) :
    AreNoted o keys := by
  rw [hs] at h
  exact h _ (.head _)

theorem State.IsNoted.follow (h : State.IsNoted o s) (x : Lexeme) : State.IsNoted o (s.follow x) := by
  have hopen : ∀ isMapping, State.IsNoted o (⟨isMapping, []⟩ :: s) := by
    intro isMapping c hc
    rcases List.mem_cons.1 hc with rfl | hc
    · exact ⟨.nil, nofun⟩
    · exact h c hc
  unfold Keys.State.follow
  split
  · exact hopen true
  · split
    · exact hopen false
    · split
      · exact fun c hc => h c (List.mem_of_mem_tail hc)
      · exact h

/-- A key that is noted comes after those noted before. -/
theorem State.IsNoted.add {isMapping : Bool} (h : State.IsNoted o (⟨isMapping, keys⟩ :: below))
    (hcounts : ¬IsIgnored o value) (hprecedes : ∀ other ∈ keys, Precedes other value) :
    State.IsNoted o (⟨isMapping, keys ++ [value]⟩ :: below) := by
  intro c hc
  rcases List.mem_cons.1 hc with rfl | hc
  · have hkeys := h _ (.head _)
    refine ⟨List.pairwise_append.2 ⟨hkeys.sorted, List.pairwise_singleton _ _, ?_⟩, ?_⟩
    · intro other hother b hb
      rw [List.mem_singleton.1 hb]
      exact hprecedes other hother
    · intro key hkey
      rcases List.mem_append.1 hkey with hkey | hkey
      · exact hkeys.count key hkey
      · rw [List.mem_singleton.1 hkey]
        exact hcounts
  · exact h c (.tail _ hc)

section Valid

variable (hpatterns : ∀ p ∈ o.ignored, ∃ r, Regex.Pattern.ofText p.toList = .ok r)

include hpatterns

theorem State.IsNoted.step (h : State.IsNoted o s) (x : Lexeme) (next : Option Lexeme) :
    State.IsNoted o (KeyOrdering.step o s x next) := by
  have hfollow := h.follow x
  unfold KeyOrdering.step
  cases hkey : key? ⟨none, x, next, none⟩ (s.follow x) with
  | none =>
    rw [outcome_check_of_key?_eq_none hkey]
    exact hfollow
  | some found =>
    obtain ⟨y, value, keys⟩ := found
    obtain ⟨-, -, -, -, below, hs⟩ := key?_eq_some.1 hkey
    have hjudges := judges_check hpatterns (hfollow.top hs).sorted hkey
    revert hjudges
    generalize (check o ⟨none, x, next, none⟩ s).outcome = outcome
    intro hjudges
    cases hjudges with
    | ignored _ => exact hfollow
    | incomparable _ _ => exact hfollow
    | misplaced _ _ _ => exact hfollow
    | noted hcounts hprecedes =>
      dsimp only
      rw [hs] at hfollow ⊢
      exact hfollow.add hcounts hprecedes

theorem State.IsNoted.run (h : State.IsNoted o s) (xs : List Lexeme) (next : Option Lexeme) :
    State.IsNoted o (Keys.run (KeyOrdering.step o) s xs next) := by
  induction xs generalizing s with
  | nil => exact h
  | cons x xs ih => exact ih (h.step hpatterns x _)

/-! ## Runs -/

theorem isNoted_run_nil (xs : List Lexeme) (next : Option Lexeme) : State.IsNoted o (run (step o) [] xs next) := by
  have hnil : State.IsNoted o [] := by
    intro c hc
    cases hc
  exact hnil.run hpatterns xs next

/-- What is noted on top of the stack are earlier keys of the mapping. -/
theorem hasEarlierKey_of_mem (hx : x.kind = .key) (hrun : run (step o) [] before (some x) = ⟨true, keys⟩ :: below)
    (hmem : value ∈ keys) : HasEarlierKey o before value := by
  have hnotes := notes_step o
  have hcount := ((isNoted_run_nil hpatterns before (some x)).top hrun).count value hmem
  rcases hnotes.run_eq_nil_or_leavesOffIn before with hnil | ⟨opener, inside, hleaves⟩
  · rw [hnil] at hrun
    cases hrun
  · obtain ⟨below', keys', -, hrun', hkeys⟩ := hnotes.run_of_leavesOffIn hleaves (some x)
    rw [hrun] at hrun'
    obtain ⟨hhead, -⟩ := List.cons.inj hrun'
    obtain ⟨hmapping, rfl⟩ := Collection.mk.inj hhead
    exact ⟨opener, inside, hleaves, hmapping.symm, (hasScalarKey_iff hx).2 (hkeys value hmem), hcount⟩

/-- An earlier key of the mapping is noted, or it has been reported, and then a key is noted that comes
after it. -/
theorem exists_noted_of_hasEarlierKey (hclear : AreComparable o before (some x)) (hx : x.kind = .key)
    (h : HasEarlierKey o before value) :
    ∃ keys below, run (step o) [] before (some x) = ⟨true, keys⟩ :: below ∧
      (value ∈ keys ∨ ¬HasNul value ∧ ∃ other ∈ keys, codes value < codes other) := by
  have hnotes := notes_step o
  obtain ⟨opener, inside, ⟨hopener, hinside, outer, rfl⟩, hmapping, hkey, hcounts⟩ := h
  obtain ⟨earlier, k, later, rfl, hbalanced, hk, y, hnext, hscalar, hvalue⟩ := (hasScalarKey_iff hx).1 hkey
  -- The mapping up to the key, the key, and the rest of the mapping are gone through one after another.
  have hleaves : LeavesOffIn (outer ++ opener :: earlier) opener earlier := ⟨hopener, hbalanced, outer, rfl⟩
  obtain ⟨below, keys, -, hrun, -⟩ := hnotes.run_of_leavesOffIn hleaves (some k)
  rw [hmapping] at hrun
  have hfollow := follow_key hk (⟨true, keys⟩ :: below)
  have hfound : key? ⟨none, k, later.head?.or (some x), none⟩ (State.follow (⟨true, keys⟩ :: below) k) =
      some (y, value, keys) := key?_eq_some.2 ⟨hk, hnext, hscalar, hvalue, below, hfollow⟩
  have hstep : ∃ keys', step o (⟨true, keys⟩ :: below) k (later.head?.or (some x)) = ⟨true, keys'⟩ :: below ∧
      (value ∈ keys' ∨ ¬HasNul value ∧ ∃ other ∈ keys', codes value < codes other) := by
    have hsorted := ((isNoted_run_nil hpatterns (outer ++ opener :: earlier) (some k)).top hrun).sorted
    have hjudges := judges_check hpatterns hsorted hfound
    rw [hfollow] at hjudges
    unfold step
    revert hjudges
    generalize (check o ⟨none, k, later.head?.or (some x), none⟩ (⟨true, keys⟩ :: below)).outcome = outcome
    intro hjudges
    cases hjudges with
    | ignored hignored => exact absurd hignored hcounts
    | incomparable _ hnul =>
      obtain ⟨other, hother, hnul⟩ := hnul
      refine absurd ?_ (hclear (outer ++ opener :: earlier) k later (by simp))
      exact ⟨y, value, hnext, ⟨hk, hscalar, hvalue, hcounts⟩, other, hasEarlierKey_of_mem hpatterns hk hrun hother, hnul⟩
    | misplaced _ hnul hless =>
      obtain ⟨other, hother, hlt⟩ := hless
      exact ⟨keys, rfl, .inr ⟨(hnul other hother).1, other, hother, hlt⟩⟩
    | noted _ _ => exact ⟨keys ++ [value], rfl, .inl (List.mem_append_right keys (.head _))⟩
  obtain ⟨keys₁, hstep, hkept⟩ := hstep
  obtain ⟨keys₂, hlater, -⟩ := hnotes.run_of_isBalanced (some x) ⟨true, keys₁⟩ below
    (isBalanced_after_key hinside hbalanced hk)
  refine ⟨keys₁ ++ keys₂, below, ?_, ?_⟩
  · have hsplit : outer ++ opener :: (earlier ++ k :: later) = (outer ++ opener :: earlier) ++ k :: later := by simp
    rw [hsplit, run_append, List.head?_cons, Option.some_or, hrun, run, hstep, hlater]
  · rcases hkept with hmem | ⟨hnul, other, hother, hlt⟩
    · exact .inl (List.mem_append_left keys₂ hmem)
    · exact .inr ⟨hnul, other, List.mem_append_left keys₂ hother, hlt⟩

theorem noted_less_iff (hclear : AreComparable o before (some x)) (hx : x.kind = .key)
    (hrun : run (step o) [] before (some x) = ⟨true, keys⟩ :: below) (value : String) :
    (∃ other ∈ keys, codes value < codes other) ↔
      ∃ earlier, HasEarlierKey o before earlier ∧ codes value < codes earlier := by
  constructor
  · rintro ⟨other, hother, hlt⟩
    exact ⟨other, hasEarlierKey_of_mem hpatterns hx hrun hother, hlt⟩
  · rintro ⟨earlier, hearlier, hlt⟩
    obtain ⟨keys', below', hrun', hkept⟩ := exists_noted_of_hasEarlierKey hpatterns hclear hx hearlier
    cases hrun.symm.trans hrun'
    rcases hkept with hmem | ⟨-, other, hother, hlt'⟩
    · exact ⟨earlier, hmem, hlt⟩
    · exact ⟨other, hother, hlt.trans hlt'⟩

theorem noted_nul_iff (hclear : AreComparable o before (some x)) (hx : x.kind = .key)
    (hrun : run (step o) [] before (some x) = ⟨true, keys⟩ :: below) (value : String) :
    (∃ other ∈ keys, HasNul value ∨ HasNul other) ↔
      ∃ earlier, HasEarlierKey o before earlier ∧ (HasNul value ∨ HasNul earlier) := by
  constructor
  · rintro ⟨other, hother, hnul⟩
    exact ⟨other, hasEarlierKey_of_mem hpatterns hx hrun hother, hnul⟩
  · rintro ⟨earlier, hearlier, hnul⟩
    obtain ⟨keys', below', hrun', hkept⟩ := exists_noted_of_hasEarlierKey hpatterns hclear hx hearlier
    cases hrun.symm.trans hrun'
    rcases hkept with hmem | ⟨hearlier, other, hother, -⟩
    · exact ⟨earlier, hmem, hnul⟩
    · exact ⟨other, hother, .inl (hnul.resolve_right hearlier)⟩

/-- After lexemes whose keys can be compared the rule fails at a key just when it cannot be compared. -/
theorem outcome_check_run (hclear : AreComparable o before (some x)) (next : Option Lexeme) :
    let outcome := (check o ⟨none, x, next, none⟩ (run (step o) [] before (some x))).outcome
    (IsIncomparable o before x next → outcome = .error .unorderedKey) ∧
      (¬IsIncomparable o before x next → ∃ s findings, outcome = .ok (s, findings) ∧ findings.length ≤ 1 ∧
        ∀ f, f ∈ findings ↔ ∃ y value, next = some y ∧ IsOutOfOrder o before x y value ∧ f = misplaced y value) := by
  intro outcome
  have hnoted := isNoted_run_nil hpatterns before (some x)
  cases hkey : key? ⟨none, x, next, none⟩ ((run (step o) [] before (some x)).follow x) with
  | none =>
    -- Were there an earlier key, a mapping would be open and the lexeme a key of it.
    have hno : ∀ y value earlier, next = some y → IsKey o x y value → ¬HasEarlierKey o before earlier := by
      intro y value earlier hnext hisKey hearlier
      obtain ⟨keys, below, hrun, -⟩ := exists_noted_of_hasEarlierKey hpatterns hclear hisKey.marked hearlier
      have hfollow := (follow_key hisKey.marked _).trans hrun
      have hsome : key? ⟨none, x, next, none⟩ ((run (step o) [] before (some x)).follow x) = some (y, value, keys) :=
        key?_eq_some.2 ⟨hisKey.marked, hnext, hisKey.scalar, hisKey.hasValue, below, hfollow⟩
      cases hkey.symm.trans hsome
    refine ⟨?_, fun _ => ⟨_, [], outcome_check_of_key?_eq_none hkey, Nat.zero_le 1, fun f => ⟨nofun, ?_⟩⟩⟩
    · rintro ⟨y, value, hnext, hisKey, earlier, hearlier, -⟩
      exact absurd hearlier (hno y value earlier hnext hisKey)
    · rintro ⟨y, value, hnext, ⟨hisKey, earlier, hearlier, -⟩, -⟩
      exact absurd hearlier (hno y value earlier hnext hisKey)
  | some found =>
    obtain ⟨y, value, keys⟩ := found
    obtain ⟨hx, hnext, hscalar, hvalue, below, hrun⟩ := key?_eq_some.1 hkey
    have hjudges := judges_check hpatterns ((hnoted.follow x).top hrun).sorted hkey
    rw [follow_key hx] at hrun
    have hless := noted_less_iff hpatterns hclear hx hrun value
    have hnul := noted_nul_iff hpatterns hclear hx hrun value
    -- The key at hand is the only one that the lexeme can mark.
    have honly : ∀ {y' value'}, next = some y' → IsKey o x y' value' → y' = y ∧ value' = value := by
      intro y' value' hnext' hisKey
      cases hnext.symm.trans hnext'
      exact ⟨rfl, Option.some.inj (hisKey.hasValue.symm.trans hvalue)⟩
    have hmisplaced : ∀ f, (∃ y' value', next = some y' ∧ IsOutOfOrder o before x y' value' ∧ f = misplaced y' value') ↔
        ¬IsIgnored o value ∧ (∃ other ∈ keys, codes value < codes other) ∧ f = misplaced y value := by
      intro f
      rw [hless]
      constructor
      · rintro ⟨y', value', hnext', ⟨hisKey, hearlier⟩, rfl⟩
        obtain ⟨rfl, rfl⟩ := honly hnext' hisKey
        exact ⟨hisKey.counts, hearlier, rfl⟩
      · rintro ⟨hcounts, hearlier, rfl⟩
        exact ⟨y, value, hnext, ⟨⟨hx, hscalar, hvalue, hcounts⟩, hearlier⟩, rfl⟩
    have hincomparable : IsIncomparable o before x next ↔
        ¬IsIgnored o value ∧ ∃ other ∈ keys, HasNul value ∨ HasNul other := by
      rw [hnul]
      constructor
      · rintro ⟨y', value', hnext', hisKey, hearlier⟩
        obtain ⟨rfl, rfl⟩ := honly hnext' hisKey
        exact ⟨hisKey.counts, hearlier⟩
      · rintro ⟨hcounts, hearlier⟩
        exact ⟨y, value, hnext, ⟨hx, hscalar, hvalue, hcounts⟩, hearlier⟩
    simp only [hmisplaced, hincomparable]
    change Judges o _ y value keys outcome at hjudges
    clear_value outcome
    cases hjudges with
    | ignored h =>
      refine ⟨fun hinc => absurd h hinc.1, fun _ => ⟨_, [], rfl, Nat.zero_le 1, fun f => ⟨nofun, fun hf => ?_⟩⟩⟩
      exact absurd h hf.1
    | incomparable h hinc => exact ⟨fun _ => rfl, fun hnot => absurd ⟨h, hinc⟩ hnot⟩
    | misplaced h hcomparable hlt =>
      refine ⟨fun hinc => ?_, fun _ => ⟨_, _, rfl, Nat.le_refl 1, fun f => ?_⟩⟩
      · obtain ⟨-, other, hother, hnul⟩ := hinc
        exact absurd hnul (not_or.2 (hcomparable other hother))
      · rw [List.mem_singleton]
        exact ⟨fun hf => ⟨h, hlt, hf⟩, fun hf => hf.2.2⟩
    | noted h hprecedes =>
      refine ⟨fun hinc => ?_, fun _ => ⟨_, [], rfl, Nat.zero_le 1, fun f => ⟨nofun, fun hf => ?_⟩⟩⟩
      · obtain ⟨-, other, hother, hnul⟩ := hinc
        exact absurd hnul (not_or.2 ⟨(hprecedes other hother).2.1, (hprecedes other hother).1⟩)
      · obtain ⟨-, ⟨other, hother, hlt⟩, -⟩ := hf
        exact absurd hlt (not_lt.2 (hprecedes other hother).2.2)

end Valid

/-! ## Keys without NUL -/

theorem AreComparable.take (h : AreComparable o xs next) (hsplit : xs = before ++ x :: after) :
    AreComparable o before (some x) := by
  rintro earlier z later rfl
  have hrest := h earlier z (later ++ x :: after) (by rw [hsplit, List.append_assoc, List.cons_append])
  cases later with
  | nil => exact hrest
  | cons _ _ => exact hrest

theorem not_isIncomparable (h : ∀ z ∈ before ++ next.toList, ∀ value, z.value = some value → ¬HasNul value) :
    ¬IsIncomparable o before x next := by
  rintro ⟨y, value, rfl, hisKey, key, ⟨opener, inside, ⟨-, -, outer, rfl⟩, -, hkey, -⟩, hnul⟩
  obtain ⟨earlier, k, scalar, later, rfl, -, -, -, hvalue⟩ := hkey
  rcases hnul with hnul | hnul
  · exact h y (by simp) value hisKey.hasValue hnul
  · exact h scalar (by simp) key hvalue hnul

/-- Without NUL characters all keys can be compared. -/
theorem areComparable (h : ∀ z ∈ xs ++ next.toList, ∀ value, z.value = some value → ¬HasNul value) :
    AreComparable o xs next := by
  rintro before x after rfl
  have hnext : ∀ z ∈ (after.head?.or next).toList, z ∈ after ++ next.toList := by
    cases after <;> simp
  refine not_isIncomparable fun z hz => h z ?_
  rcases List.mem_append.1 hz with hz | hz
  · simp [hz]
  · rw [List.append_assoc, List.cons_append]
    exact List.mem_append_right before (.tail x (hnext z hz))

/-! ## All lexemes -/

theorem steps_slide (prev : Option Lexeme) (hok : ∀ earlier z later, before = earlier ++ z :: later →
      ∃ r, (check o ⟨none, z, later.head?.or (some x), none⟩ (run (step o) s earlier (some z))).outcome = .ok r) :
    (steps o s (Window.slide prev (before ++ x :: after)))[before.length]? =
      some (check o ⟨none, x, after.head?, none⟩ (run (step o) s before (some x))).outcome := by
  induction before generalizing s prev with
  | nil =>
    rw [List.nil_append, Window.slide, steps, ← List.head?_eq_getElem?]
    cases h : (check o ⟨none, x, after.head?, none⟩ s).outcome with
    | ok r =>
      have h' : (check o ⟨prev, x, after.head?, after[1]?⟩ s).outcome = .ok r := h
      rw [h']
      exact congrArg some h.symm
    | error e =>
      have h' : (check o ⟨prev, x, after.head?, after[1]?⟩ s).outcome = .error e := h
      rw [h']
      exact congrArg some h.symm
  | cons z before ih =>
    have hnext : (before ++ x :: after)[0]? = before.head?.or (some x) := by
      cases before <;> rfl
    obtain ⟨r, hr⟩ := hok [] z before rfl
    have hr : (check o ⟨none, z, before.head?.or (some x), none⟩ s).outcome = .ok r := hr
    have hcheck : (check o ⟨prev, z, (before ++ x :: after)[0]?, (before ++ x :: after)[1]?⟩ s).outcome = .ok r := by
      rw [hnext]
      exact hr
    have hstep : step o s z (before.head?.or (some x)) = r.1 := by rw [step, hr]
    rw [List.cons_append, Window.slide, steps, hcheck, List.length_cons, List.getElem?_cons_succ, run, hstep]
    refine ih (some z) fun earlier z' later hsplit => ?_
    obtain ⟨r', hr'⟩ := hok (z :: earlier) z' later (by rw [hsplit, List.cons_append])
    have hhead : earlier.head?.or (some z') = before.head?.or (some x) := by
      rw [hsplit]
      cases earlier <;> rfl
    rw [run, hhead, hstep] at hr'
    exact ⟨r', hr'⟩

/-- Take any lexemes up to `x` whose keys can be compared. If `x` marks a key that cannot be compared with one
before it in its mapping, the rule fails there. Else it reports the scalar right after `x`, and only that, just
when this is a key out of order, and the keys that are then noted for the open collections are in order. -/
theorem steps_ordered (o : Options) (hpatterns : ∀ p ∈ o.ignored, ∃ r, Regex.Pattern.ofText p.toList = .ok r)
    (before : List Lexeme) (x : Lexeme) (after : List Lexeme) (hclear : AreComparable o before (some x)) :
    let result := (steps o [] (Window.slide none (before ++ x :: after)))[before.length]?
    (IsIncomparable o before x after.head? → result = some (.error .unorderedKey)) ∧
      (¬IsIncomparable o before x after.head? → ∃ s findings, result = some (.ok (s, findings)) ∧
        findings.length ≤ 1 ∧
        (∀ f, f ∈ findings ↔ ∃ y value, after.head? = some y ∧ IsOutOfOrder o before x y value ∧
          f = .atStart y s!"wrong ordering of key \"{value}\" in mapping") ∧
        ∀ c ∈ s, c.keys.Pairwise fun a b => codes a ≤ codes b) := by
  intro result
  have hok : ∀ earlier z later, before = earlier ++ z :: later →
      ∃ r, (check o ⟨none, z, later.head?.or (some x), none⟩ (run (step o) [] earlier (some z))).outcome = .ok r := by
    intro earlier z later hsplit
    obtain ⟨s, findings, hr, -⟩ := (outcome_check_run hpatterns (hclear.take hsplit) _).2 (hclear earlier z later hsplit)
    exact ⟨(s, findings), hr⟩
  have hresult : result = some _ := steps_slide none hok
  obtain ⟨hfails, hjudges⟩ := outcome_check_run hpatterns hclear after.head?
  rw [hresult]
  refine ⟨fun h => congrArg some (hfails h), fun h => ?_⟩
  obtain ⟨s, findings, hr, hlength, hfindings⟩ := hjudges h
  refine ⟨s, findings, congrArg some hr, hlength, hfindings, fun c hc => ?_⟩
  have hs : step o (run (step o) [] before (some x)) x after.head? = s := by rw [step, hr]
  have hnoted := (isNoted_run_nil hpatterns before (some x)).step hpatterns x after.head?
  rw [hs] at hnoted
  exact (hnoted c hc).sorted.imp fun h => h.2.2

section Nested

/-- Keys of two mappings, one of them ignored, up to a key that comes after an ignored one. -/
def nestedKeys : List Lexeme := [
  mark .streamStart 0 0 0 0, mark .blockMappingStart 0 0 0 0,
  mark .key 0 0 0 0, plain 0 0 0 "b", mark .value 0 1 1 1,
  mark .flowMappingStart 0 3 3 1, mark .key 0 4 4 0, plain 0 4 4 "c", mark .value 0 5 5 1, plain 0 7 7 "1",
  mark .flowEntry 0 8 8 1, mark .key 0 10 10 0, plain 0 10 10 "a", mark .value 0 11 11 1, plain 0 13 13 "2",
  mark .flowMappingEnd 0 14 14 1,
  mark .key 1 0 16 0, plain 1 0 16 "x", mark .value 1 1 17 1, plain 1 3 19 "3"]

/-- The key at the end is before the first one; the one that is ignored does not count. -/
theorem steps_ordered_nested :
    let o : Options := ⟨["^x"]⟩
    let x := mark .key 2 0 21 0
    let after := [plain 2 0 21 "a", mark .value 2 1 22 1, plain 2 3 24 "4", mark .blockEnd 3 0 26 0,
      mark .streamEnd 3 0 26 0]
    (Lexeme.ofText "b: \x7bc: 1, a: 2\x7d\nx: 3\na: 4\n".toList).outcome = .ok (nestedKeys ++ x :: after) ∧
      (∀ p ∈ o.ignored, ∃ r, Regex.Pattern.ofText p.toList = .ok r) ∧ AreComparable o nestedKeys (some x) ∧
      ¬IsIncomparable o nestedKeys x after.head? ∧
      ∃ s findings, (steps o [] (Window.slide none (nestedKeys ++ x :: after)))[nestedKeys.length]? =
          some (.ok (s, findings)) ∧
        .atStart (plain 2 0 21 "a") "wrong ordering of key \"a\" in mapping" ∈ findings := by
  intro o x after
  obtain ⟨r, hr, hmatches⟩ : ∃ r, Regex.Pattern.ofText "^x".toList = .ok r ∧
      (r.isIn "a".toList, r.isIn "b".toList) = (false, false) := exists_of_toOption (by decide +kernel)
  have hpatterns : ∀ p ∈ o.ignored, ∃ r, Regex.Pattern.ofText p.toList = .ok r := by
    intro p hp
    rw [List.mem_singleton.1 hp]
    exact ⟨r, hr⟩
  have hcounts : ∀ value : String, r.isIn value.toList = false → ¬IsIgnored o value := by
    rintro value hno ⟨p, hp, r', hr', hmatch⟩
    rw [List.mem_singleton.1 hp, hr] at hr'
    obtain rfl := Except.ok.inj hr'
    rw [hno] at hmatch
    cases hmatch
  have hclear : AreComparable o nestedKeys (some x) := areComparable (by decide)
  have hcomparable : ¬IsIncomparable o nestedKeys x after.head? := not_isIncomparable (by decide)
  obtain ⟨s, findings, hresult, -, hfindings, -⟩ := (steps_ordered o hpatterns nestedKeys x after hclear).2 hcomparable
  refine ⟨?_, hpatterns, hclear, hcomparable, s, findings, hresult, ?_⟩
  · rw [Lexeme.outcome_ofText_eq_reckoned]
    decide +kernel
  · have hearlier : HasEarlierKey o nestedKeys "b" :=
      ⟨_, nestedKeys.drop 2, ⟨rfl, rfl, [mark .streamStart 0 0 0 0], rfl⟩, rfl, ⟨[], _, _, _, rfl, rfl, rfl, rfl, rfl⟩,
        hcounts "b" (congrArg Prod.snd hmatches)⟩
    have hkey : IsKey o x (plain 2 0 21 "a") "a" := ⟨rfl, rfl, rfl, hcounts "a" (congrArg Prod.fst hmatches)⟩
    exact (hfindings _).2 ⟨_, "a", rfl, ⟨hkey, "b", hearlier, by decide⟩, rfl⟩

end Nested

section Nul

/-- A key with a NUL character and its value. -/
def nulKey : List Lexeme := [
  mark .streamStart 0 0 0 0, mark .blockMappingStart 0 0 0 0, mark .key 0 0 0 0,
  ⟨.scalar, ⟨0, 0, 0⟩, ⟨0, 4, 4⟩, some "\x00", some .double⟩, mark .value 0 4 4 1, plain 0 6 6 "1"]

theorem ofText_nulKey : (Lexeme.ofText "\"\\0\": 1\na: 2\n".toList).outcome = .ok (nulKey ++
    [mark .key 1 0 8 0, plain 1 0 8 "a", mark .value 1 1 9 1, plain 1 3 11 "2", mark .blockEnd 2 0 13 0,
      mark .streamEnd 2 0 13 0]) := by
  rw [Lexeme.outcome_ofText_eq_reckoned]
  decide +kernel

/-- The next key comes after the one with a NUL character, and the rule fails to see that. -/
theorem not_ordered_of_nul :
    ¬∀ (o : Options) (t : Text) before x after, (∀ p ∈ o.ignored, ∃ r, Regex.Pattern.ofText p.toList = .ok r) →
      (Lexeme.ofText t).outcome = .ok (before ++ x :: after) →
      ∃ s findings, (steps o [] (Window.slide none (before ++ x :: after)))[before.length]? = some (.ok (s, findings)) ∧
        ∀ f, f ∈ findings ↔ ∃ y value, after.head? = some y ∧ IsOutOfOrder o before x y value ∧
          f = .atStart y s!"wrong ordering of key \"{value}\" in mapping" := by
  intro h
  obtain ⟨s, findings, hresult, -⟩ := h ⟨[]⟩ _ nulKey _ _ (by simp) ofText_nulKey
  cases hresult

end Nul

end YamlStyle.Rule.KeyOrdering
