import Mathlib.Computability.Language
import YamlStyle.Regex.Match

/-!
# The ways to match

A pattern leads from a place to other places, the preferred one first. The matcher of a pattern goes through
these ways in their order until what is to match after it does (`matcher_eq`). A pattern without groups, looks and
boundaries reads the texts of a language (`Reads`), and of these a greedy repetition prefers the longest
(`head?_waysAt_many`).
-/

namespace YamlStyle.Regex

/-- The places where matches of a pattern that start at a place stop, the preferred one first. -/
abbrev Ways := Place → List Place

namespace Ways

def nothing : Ways := fun p => [p]

/-- One character that satisfies `p`. -/
def one (t : Subject) (isWanted : Char → Bool) : Ways := fun p =>
  match t[p.offset]? with
  | some c => if isWanted c then [{ p with offset := p.offset + 1 }] else []
  | none => []

/-- Only the preferred way. -/
def first (w : Ways) : Ways := fun p => (w p).head?.toList

def times (w : Ways) : Nat → Ways
  | 0 => nothing
  | n + 1 => fun p => (w p).flatMap (times w n)

def atMost (w : Ways) (isLazy : Bool) : Nat → Ways
  | 0 => nothing
  | n + 1 => fun p =>
    let more := (w p).flatMap fun q => if q.offset == p.offset then [q] else atMost w isLazy n q
    if isLazy then p :: more else more ++ [p]

/-- Goes through the ways until one of them can go on. -/
def matcher (w : Ways) : Matcher := fun p k => (w p).findSome? k

theorem findSome?_flatMap {α β γ : Type} (xs : List α) (f : α → List β) (g : β → Option γ) :
    (xs.flatMap f).findSome? g = xs.findSome? fun x => (f x).findSome? g := by
  induction xs with
  | nil => rfl
  | cons x xs ih =>
    rw [List.flatMap_cons, List.findSome?_append, ih, List.findSome?_cons]
    cases (f x).findSome? g <;> rfl

theorem matcher_flatMap (v : Ways) (w : Place → Ways) :
    matcher (fun p => (v p).flatMap (w p)) = fun p k => v.matcher p fun q => (w p q).findSome? k :=
  funext fun _ => funext fun _ => findSome?_flatMap _ _ _

theorem matcher_append (v w : Ways) :
    matcher (fun p => v p ++ w p) = fun p k => v.matcher p k <|> w.matcher p k := by
  funext p k
  rw [matcher, List.findSome?_append, matcher, matcher]
  cases (v p).findSome? k <;> rfl

theorem matcher_nothing : nothing.matcher = Matcher.nothing :=
  funext fun _ => funext fun _ => List.findSome?_singleton

theorem matcher_one (t : Subject) (isWanted : Char → Bool) : (one t isWanted).matcher = Matcher.one t isWanted := by
  funext p k
  unfold matcher one Matcher.one
  cases t[p.offset]? with
  | none => rfl
  | some c =>
    dsimp only
    split
    · exact List.findSome?_singleton
    · rfl

theorem matcher_first (w : Ways) : w.first.matcher = Matcher.first w.matcher := by
  funext p k
  rw [Matcher.first, matcher, matcher, first]
  cases w p with
  | nil => rfl
  | cons q qs =>
    rw [List.head?_cons, Option.toList_some, List.findSome?_singleton, List.findSome?_cons]
    rfl

theorem matcher_times (w : Ways) (n : Nat) : (w.times n).matcher = Matcher.times w.matcher n := by
  induction n with
  | zero => exact matcher_nothing
  | succ n ih =>
    rw [times, matcher_flatMap, Matcher.times, ← ih]
    rfl

theorem matcher_atMost (w : Ways) (isLazy : Bool) (n : Nat) :
    (w.atMost isLazy n).matcher = Matcher.atMost w.matcher isLazy n := by
  induction n with
  | zero => exact matcher_nothing
  | succ n ih =>
    let more : Ways := fun p => (w p).flatMap fun q => if q.offset == p.offset then [q] else atMost w isLazy n q
    have hmore : more.matcher =
        fun p k => w.matcher p fun q => if q.offset == p.offset then k q else Matcher.atMost w.matcher isLazy n q k := by
      rw [matcher_flatMap w fun p q => if q.offset == p.offset then [q] else atMost w isLazy n q, ← ih]
      funext p k
      congr 1
      funext q
      split
      · exact List.findSome?_singleton
      · rfl
    cases isLazy with
    | true =>
      refine (matcher_append nothing more).trans ?_
      rw [hmore, matcher_nothing]
      rfl
    | false =>
      refine (matcher_append more nothing).trans ?_
      rw [hmore, matcher_nothing]
      rfl

end Ways

/-- The ways of a pattern. -/
def ways (t : Subject) (flags : Flags) : Regex → Ways
  | empty => .nothing
  | char c negated => .one t fun d => negated != isSameChar flags.folding c d
  | any => .one t fun c => flags.dotAll || c != '\n'
  | oneOf s => .one t (s.contains flags (s.isFolded flags))
  | boundary b => fun p => if t.isAt flags b p.offset then [p] else []
  | seq a b => fun p => (a.ways t flags p).flatMap (b.ways t flags)
  | alt a b => fun p => a.ways t flags p ++ b.ways t flags p
  | repetition least most greed r =>
    let w := r.ways t flags
    let w := if greed == .possessive then w.first else w
    let all : Ways := fun p =>
      (w.times least p).flatMap fun p => w.atMost (greed == .lazy) (furtherTries least most (t.size - p.offset)) p
    if greed == .possessive then all.first else all
  | group number r => fun p => (r.ways t flags (p.enter number)).map (·.leave number)
  | part scope r => r.ways t (scope.apply flags)
  | atomic r => (r.ways t flags).first
  | same number _ => fun p =>
    match p.bounds? number with
    | some (start, stop) =>
      if t.agree flags.folding start p.offset (stop - start) then [{ p with offset := p.offset + (stop - start) }] else []
    | none => []
  | ifGroup number matched missing => fun p =>
    if (p.bounds? number).isSome then matched.ways t flags p else missing.ways t flags p
  | look behind negated r => fun p =>
    let back := if behind then r.width.least else 0
    let found := if back ≤ p.offset then (r.ways t flags { p with offset := p.offset - back }).head? else none
    match negated, found with
    | false, some q => [{ p with spans := q.spans }]
    | true, none => [p]
    | _, _ => []

theorem ways_char (t : Subject) (c : Char) : (char c false).ways t .none = .one t (· == c) := by
  have hsame : (fun d => false != isSameChar Flags.none.folding c d) = (· == c) := by
    funext d
    exact Bool.false_bne (d == c)
  exact congrArg (Ways.one t) hsame

theorem ways_many (t : Subject) (n : Nat) (r : Regex) (p : Place) :
    (many n r).ways t .none p =
      ((r.ways t .none).times n p).flatMap fun q => (r.ways t .none).atMost false (t.size - q.offset + 1) q := rfl

/-- The matcher of a pattern goes through the ways of it. -/
theorem matcher_eq (t : Subject) (flags : Flags) (r : Regex) : r.matcher t flags = (r.ways t flags).matcher := by
  induction r generalizing flags with
  | empty => exact Ways.matcher_nothing.symm
  | char c negated => exact (Ways.matcher_one _ _).symm
  | any => exact (Ways.matcher_one _ _).symm
  | oneOf s => exact (Ways.matcher_one _ _).symm
  | boundary b =>
    funext p k
    unfold matcher Ways.matcher ways
    split
    · exact List.findSome?_singleton.symm
    · rfl
  | seq a b iha ihb =>
    rw [matcher, ways, Ways.matcher_flatMap, iha, ihb]
    rfl
  | alt a b iha ihb => rw [matcher, ways, Ways.matcher_append, iha, ihb]
  | repetition least most greed r ih =>
    have hall (w : Ways) (isLazy : Bool) :
        Ways.matcher (fun p => (w.times least p).flatMap fun q =>
          w.atMost isLazy (furtherTries least most (t.size - q.offset)) q) =
        fun p k => Matcher.times w.matcher least p fun q =>
          Matcher.atMost w.matcher isLazy (furtherTries least most (t.size - q.offset)) q k := by
      rw [Ways.matcher_flatMap, Ways.matcher_times]
      funext p k
      congr 1
      funext q
      rw [← Ways.matcher_atMost]
      rfl
    rw [matcher, ways, ih]
    cases greed with
    | greedy => exact (hall _ _).symm
    | lazy => exact (hall _ _).symm
    | possessive =>
      refine Eq.trans ?_ (Ways.matcher_first _).symm
      rw [← Ways.matcher_first]
      exact congrArg Matcher.first (hall _ _).symm
  | group number r ih =>
    funext p k
    rw [matcher, Ways.matcher, ways, List.findSome?_map, ih]
    rfl
  | part scope r ih => exact ih _
  | atomic r ih => rw [matcher, ways, Ways.matcher_first, ih]
  | same number width =>
    funext p k
    unfold matcher Ways.matcher ways
    cases p.bounds? number with
    | none => rfl
    | some bounds =>
      dsimp only
      split
      · exact List.findSome?_singleton.symm
      · rfl
  | ifGroup number a b iha ihb =>
    funext p k
    rw [matcher, Ways.matcher, ways, iha, ihb]
    dsimp only
    split <;> rfl
  | look behind negated r ih =>
    funext p k
    have hhead (p : Place) : (r.ways t flags).matcher p some = (r.ways t flags p).head? := by
      rw [Ways.matcher]
      cases r.ways t flags p <;> rfl
    unfold matcher Ways.matcher ways
    dsimp only
    rw [ih, hhead]
    generalize (if (if behind = true then r.width.least else 0) ≤ p.offset then _ else none : Option Place) = found
    cases negated <;> cases found <;> first | rfl | exact List.findSome?_singleton.symm

/-! ## Languages -/

section

open scoped Computability

/-- The texts of one wanted character. -/
def oneChar (isWanted : Char → Bool) : Language Char := {u | ∃ c, isWanted c = true ∧ u = [c]}

theorem mem_kstar_oneChar {isWanted : Char → Bool} {u : Text} :
    u ∈ (oneChar isWanted)∗ ↔ ∀ c ∈ u, isWanted c = true := by
  rw [Language.mem_kstar]
  constructor
  · rintro ⟨us, rfl, hus⟩ c hc
    obtain ⟨x, hx, hc⟩ := List.mem_flatten.1 hc
    obtain ⟨d, hd, rfl⟩ := hus x hx
    rwa [List.mem_singleton.1 hc]
  · intro h
    refine ⟨u.map fun c => [c], ?_, ?_⟩
    · rw [← List.flatMap_def, List.flatMap_singleton']
    · intro x hx
      obtain ⟨c, hc, rfl⟩ := List.mem_map.1 hx
      exact ⟨c, h c hc, rfl⟩

/-- The ways lead past the texts of a language and leave the groups as they are. -/
def Ways.Reads (t : Text) (w : Ways) (L : Language Char) : Prop :=
  ∀ before rest spans q, t = before ++ rest →
    (q ∈ w ⟨before.length, spans⟩ ↔ ∃ u v, rest = u ++ v ∧ u ∈ L ∧ q = ⟨(before ++ u).length, spans⟩)

namespace Ways

variable {t : Text} {v w : Ways} {L M : Language Char}

theorem reads_nothing (t : Text) : nothing.Reads t 1 := by
  intro before rest spans q ht
  rw [nothing, List.mem_singleton]
  constructor
  · rintro rfl
    exact ⟨[], rest, rfl, rfl, by rw [List.append_nil]⟩
  · rintro ⟨u, v, -, hu, rfl⟩
    rw [(Language.mem_one u).1 hu, List.append_nil]

theorem reads_one (t : Text) (isWanted : Char → Bool) : (one t.toArray isWanted).Reads t (oneChar isWanted) := by
  intro before rest spans q ht
  have hchar : t.toArray[before.length]? = rest.head? := by
    rw [List.getElem?_toArray, ht, List.getElem?_append_right (Nat.le_refl _), Nat.sub_self, List.head?_eq_getElem?]
  rw [one]
  dsimp only
  rw [hchar]
  cases rest with
  | nil =>
    refine iff_of_false List.not_mem_nil ?_
    rintro ⟨u, v, huv, ⟨c, -, rfl⟩, -⟩
    cases huv
  | cons c rest =>
    dsimp only [List.head?_cons]
    constructor
    · intro hq
      split at hq
      · next hc => exact ⟨[c], rest, rfl, ⟨c, hc, rfl⟩, by rw [List.mem_singleton.1 hq, List.length_append]; rfl⟩
      · cases hq
    · rintro ⟨u, v, huv, ⟨d, hd, rfl⟩, rfl⟩
      obtain ⟨rfl, -⟩ := List.cons.inj huv
      rw [if_pos hd, List.mem_singleton, List.length_append]
      rfl

/-- Past one text and then past another. -/
theorem Reads.flatMap (hv : v.Reads t L) (hw : w.Reads t M) : Reads t (fun p => (v p).flatMap w) (L * M) := by
  intro before rest spans q ht
  rw [List.mem_flatMap]
  constructor
  · rintro ⟨m, hm, hq⟩
    obtain ⟨x, r, rfl, hx, rfl⟩ := (hv _ _ _ _ ht).1 hm
    obtain ⟨y, r', rfl, hy, rfl⟩ := (hw _ _ _ _ (by rw [ht, List.append_assoc])).1 hq
    exact ⟨x ++ y, r', (List.append_assoc ..).symm, Language.append_mem_mul hx hy, by rw [List.append_assoc]⟩
  · rintro ⟨u, r, rfl, hu, rfl⟩
    obtain ⟨x, hx, y, hy, rfl⟩ := Language.mem_mul.1 hu
    refine ⟨_, (hv _ _ spans _ ht).2 ⟨x, y ++ r, List.append_assoc .., hx, rfl⟩, ?_⟩
    refine (hw _ (y ++ r) _ _ ?_).2 ⟨y, r, rfl, hy, by rw [List.append_assoc]⟩
    rw [ht, List.append_assoc, List.append_assoc]

theorem Reads.times (hw : w.Reads t L) (n : Nat) : (w.times n).Reads t (L ^ n) := by
  induction n with
  | zero => exact reads_nothing t
  | succ n ih =>
    rw [pow_succ']
    exact hw.flatMap ih

theorem times_one (w : Ways) (p : Place) : w.times 1 p = w p := List.flatMap_singleton' _

theorem atMost_succ (w : Ways) (n : Nat) (p : Place) :
    w.atMost false (n + 1) p =
      ((w p).flatMap fun q => if q.offset == p.offset then [q] else w.atMost false n q) ++ [p] := rfl

/-- A text that nothing is to be left of is read at most as often as it has characters. -/
theorem Reads.atMost (hw : w.Reads t L) {before rest : Text} {spans : List Span} {q : Place} {n : Nat}
    (ht : t = before ++ rest) (hn : rest.length < n) :
    q ∈ w.atMost false n ⟨before.length, spans⟩ ↔ ∃ u v, rest = u ++ v ∧ u ∈ L∗ ∧ q = ⟨(before ++ u).length, spans⟩ := by
  induction n generalizing before rest with
  | zero => omega
  | succ n ih =>
    rw [atMost_succ, List.mem_append, List.mem_flatMap, List.mem_singleton]
    constructor
    · rintro (⟨m, hm, hq⟩ | rfl)
      · obtain ⟨x, r, rfl, hx, rfl⟩ := (hw _ _ _ _ ht).1 hm
        have hxstar : x ∈ L∗ := Language.mem_kstar.2 ⟨[x], by simp, by simpa using hx⟩
        split at hq
        · exact ⟨x, r, rfl, hxstar, List.mem_singleton.1 hq⟩
        · next hne =>
          have hlength : r.length < n := by
            simp only [List.length_append, beq_iff_eq, Nat.add_eq_left] at hne hn
            omega
          obtain ⟨y, r', rfl, hy, rfl⟩ := (ih (by rw [ht, List.append_assoc]) hlength).1 hq
          refine ⟨x ++ y, r', (List.append_assoc ..).symm, ?_, by rw [List.append_assoc]⟩
          rw [← Language.one_add_self_mul_kstar_eq_kstar]
          exact .inr (Language.append_mem_mul hx hy)
      · exact ⟨[], rest, rfl, Language.nil_mem_kstar L, by rw [List.append_nil]⟩
    · rintro ⟨u, r, rfl, hu, rfl⟩
      obtain ⟨us, rfl, hus⟩ := Language.mem_kstar_iff_exists_nonempty.1 hu
      cases us with
      | nil => exact .inr (by simp)
      | cons x us =>
        obtain ⟨⟨hx, hne⟩, hus⟩ := List.forall_mem_cons.1 hus
        have hxpos := List.length_pos_iff.2 hne
        rw [List.flatten_cons, List.append_assoc] at ht hn
        refine .inl ⟨_, (hw _ _ spans _ ht).2 ⟨x, us.flatten ++ r, rfl, hx, rfl⟩, ?_⟩
        have hoffset : ((before ++ x).length == before.length) = false := by
          rw [beq_eq_false_iff_ne, List.length_append]
          omega
        have hrest : t = before ++ x ++ (us.flatten ++ r) := by rw [ht, List.append_assoc]
        have hlength : (us.flatten ++ r).length < n := by
          rw [List.length_append] at hn
          omega
        have hstar : us.flatten ∈ L∗ := Language.mem_kstar.2 ⟨us, rfl, fun y hy => (hus y hy).1⟩
        rw [hoffset, if_neg Bool.false_ne_true]
        exact (ih hrest hlength).2 ⟨us.flatten, r, rfl, hstar, by rw [List.flatten_cons, List.append_assoc]⟩

end Ways

/-- The ways of a pattern between what comes before it in a text and what is left. -/
def waysAt (r : Regex) (before rest : Text) (spans : List Span) : List Place :=
  r.ways (before ++ rest).toArray .none ⟨before.length, spans⟩

/-- A pattern reads the texts of a language. -/
def Reads (r : Regex) (L : Language Char) : Prop := ∀ t : Text, (r.ways t.toArray .none).Reads t L

variable {r a b : Regex} {L M : Language Char} {before rest : Text} {spans : List Span} {q : Place}

theorem Reads.mem_waysAt (h : r.Reads L) :
    q ∈ waysAt r before rest spans ↔ ∃ u v, rest = u ++ v ∧ u ∈ L ∧ q = ⟨(before ++ u).length, spans⟩ :=
  h _ before rest spans q rfl

theorem reads_oneOf (s : CharSet) : (Regex.oneOf s).Reads (oneChar (s.contains .none (s.isFolded .none))) :=
  fun t => Ways.reads_one t _

theorem reads_char (c : Char) : (Regex.char c false).Reads (oneChar (· == c)) := by
  intro t
  rw [ways_char]
  exact Ways.reads_one t _

theorem Reads.seq (ha : a.Reads L) (hb : b.Reads M) : (Regex.seq a b).Reads (L * M) := fun t => (ha t).flatMap (hb t)

theorem Reads.part (h : r.Reads L) : (Regex.part .same r).Reads L := h

theorem Reads.many (h : r.Reads L) (n : Nat) : (Regex.many n r).Reads (L ^ n * L∗) := by
  intro t before rest spans q ht
  have hsize (u v : Text) (huv : rest = u ++ v) :
      t.toArray.size - (before ++ u).length + 1 = v.length + 1 := by
    rw [List.size_toArray, ht, huv, ← List.append_assoc, List.length_append, Nat.add_sub_cancel_left]
  rw [ways_many, List.mem_flatMap]
  constructor
  · rintro ⟨m, hm, hq⟩
    obtain ⟨x, y, hxy, hx, rfl⟩ := ((h t).times n _ _ _ _ ht).1 hm
    rw [hsize x y hxy] at hq
    obtain ⟨z, v, rfl, hz, rfl⟩ := ((h t).atMost (by rw [ht, hxy, List.append_assoc]) (Nat.lt_succ_self _)).1 hq
    exact ⟨x ++ z, v, by rw [hxy, List.append_assoc], Language.append_mem_mul hx hz, by rw [List.append_assoc]⟩
  · rintro ⟨u, v, rfl, hu, rfl⟩
    obtain ⟨x, hx, z, hz, rfl⟩ := Language.mem_mul.1 hu
    refine ⟨_, ((h t).times n _ _ spans _ ht).2 ⟨x, z ++ v, List.append_assoc .., hx, rfl⟩, ?_⟩
    rw [hsize x (z ++ v) (List.append_assoc ..)]
    exact ((h t).atMost (by rw [ht, List.append_assoc, List.append_assoc]) (Nat.lt_succ_self _)).2
      ⟨z, v, rfl, hz, by rw [List.append_assoc]⟩

theorem Reads.literal (h : r.Reads L) (x : Text) : (Regex.literal x r).Reads ({x} * L) := by
  induction x with
  | nil =>
    have hone : ({[]} : Language Char) = 1 := rfl
    rwa [hone, one_mul]
  | cons c x ih =>
    have hcons : ({c :: x} : Language Char) * L = oneChar (· == c) * ({x} * L) := by
      rw [← mul_assoc]
      congr 1
      ext u
      rw [Language.mem_mul]
      constructor
      · rintro rfl
        exact ⟨[c], ⟨c, beq_self_eq_true c, rfl⟩, x, rfl, rfl⟩
      · rintro ⟨_, ⟨d, hd, rfl⟩, _, rfl, rfl⟩
        rw [eq_of_beq hd]
        rfl
    rw [hcons]
    exact (reads_char c).seq ih

/-! ## Ways after what has been read -/

theorem at?_eq (r : Regex) (before rest : Text) :
    Pattern.at? ⟨.none, r⟩ (before ++ rest).toArray before.length = (waysAt r before rest []).head? := by
  rw [Pattern.at?, matcher_eq, Ways.matcher, waysAt]
  cases r.ways (before ++ rest).toArray .none ⟨before.length, []⟩ <;> rfl

theorem waysAt_seq (a b : Regex) (before rest : Text) (spans : List Span) :
    waysAt (.seq a b) before rest spans =
      (waysAt a before rest spans).flatMap (b.ways (before ++ rest).toArray .none) := rfl

theorem mem_waysAt_seq (ha : a.Reads L) :
    q ∈ waysAt (.seq a b) before rest spans ↔ ∃ u v, rest = u ++ v ∧ u ∈ L ∧ q ∈ waysAt b (before ++ u) v spans := by
  rw [waysAt_seq, List.mem_flatMap]
  constructor
  · rintro ⟨m, hm, hq⟩
    obtain ⟨u, v, rfl, hu, rfl⟩ := ha.mem_waysAt.1 hm
    rw [← List.append_assoc] at hq
    exact ⟨u, v, rfl, hu, hq⟩
  · rintro ⟨u, v, rfl, hu, hq⟩
    rw [waysAt, List.append_assoc] at hq
    exact ⟨_, ha.mem_waysAt.2 ⟨u, v, rfl, hu, rfl⟩, hq⟩

theorem mem_waysAt_literal (x : Text) (r : Regex) :
    q ∈ waysAt (literal x r) before rest spans ↔ ∃ v, rest = x ++ v ∧ q ∈ waysAt r (before ++ x) v spans := by
  induction x generalizing before rest with
  | nil =>
    rw [List.append_nil]
    exact ⟨fun h => ⟨rest, rfl, h⟩, fun ⟨_, hv, h⟩ => hv ▸ h⟩
  | cons c x ih =>
    refine (mem_waysAt_seq (reads_char c)).trans ?_
    constructor
    · rintro ⟨_, _, rfl, ⟨d, hd, rfl⟩, hrest⟩
      obtain rfl : d = c := eq_of_beq hd
      obtain ⟨v, rfl, hq⟩ := ih.1 hrest
      rw [List.append_assoc] at hq
      exact ⟨v, rfl, hq⟩
    · rintro ⟨v, rfl, hq⟩
      rw [List.append_cons] at hq
      exact ⟨[c], x ++ v, rfl, ⟨c, beq_self_eq_true c, rfl⟩, ih.2 ⟨v, rfl, hq⟩⟩

theorem one_append {t : Text} {isWanted : Char → Bool} {c : Char} (hc : isWanted c = true)
    (ht : t = before ++ c :: rest) :
    Ways.one t.toArray isWanted ⟨before.length, spans⟩ = [⟨(before ++ [c]).length, spans⟩] := by
  have hchar : t.toArray[before.length]? = some c := by
    rw [List.getElem?_toArray, ht, List.getElem?_append_right (Nat.le_refl _), Nat.sub_self]
    rfl
  rw [Ways.one]
  dsimp only
  rw [hchar, List.length_append]
  exact if_pos hc

theorem waysAt_literal_append (x : Text) (r : Regex) (before rest : Text) (spans : List Span) :
    waysAt (literal x r) before (x ++ rest) spans = waysAt r (before ++ x) rest spans := by
  induction x generalizing before with
  | nil => rw [List.nil_append, List.append_nil]; rfl
  | cons c x ih =>
    have hliteral : literal (c :: x) r = .seq (.char c false) (literal x r) := rfl
    have hfirst : waysAt (Regex.char c false) before (c :: x ++ rest) spans = [⟨(before ++ [c]).length, spans⟩] := by
      rw [waysAt, ways_char]
      exact one_append (beq_self_eq_true c) rfl
    have htext : before ++ (c :: x ++ rest) = before ++ [c] ++ (x ++ rest) := by simp
    rw [hliteral, waysAt_seq, hfirst, List.flatMap_singleton, htext, List.append_cons before c x, ← ih]
    rfl

/-! ## Groups and boundaries -/

theorem waysAt_group (n : Nat) (r : Regex) (before rest : Text) :
    waysAt (.group n r) before rest [] = (waysAt r before rest [⟨n, before.length, none⟩]).map (·.leave n) := rfl

theorem leave_singleton (n start stop : Nat) :
    Place.leave n ⟨stop, [⟨n, start, none⟩]⟩ = ⟨stop, [⟨n, start, some stop⟩]⟩ := by
  simp [Place.leave]

/-- What a group has matched is what is between where it has begun and ended. -/
theorem group?_singleton (n o : Nat) (before u rest : Text) :
    Place.group? ⟨o, [⟨n, before.length, some (before ++ u).length⟩]⟩ (before ++ u ++ rest) n = some u := by
  have hbounds : Place.bounds? ⟨o, [⟨n, before.length, some (before ++ u).length⟩]⟩ n =
      some (before.length, (before ++ u).length) := by
    simp [Place.bounds?, Place.span?]
  rw [Place.group?, hbounds, Option.map_some]
  dsimp only
  rw [Text.slice, List.append_assoc, List.drop_left, List.length_append, Nat.add_sub_cancel_left, List.take_left]

/-- A group notes where it begins and where it ends. -/
theorem mem_waysAt_seq_group (hr : r.Reads L) (n : Nat) :
    q ∈ waysAt (.seq (.group n r) b) before rest [] ↔
      ∃ u v, rest = u ++ v ∧ u ∈ L ∧ q ∈ waysAt b (before ++ u) v [⟨n, before.length, some (before ++ u).length⟩] := by
  rw [waysAt_seq, waysAt_group, List.mem_flatMap]
  constructor
  · rintro ⟨m, hm, hq⟩
    obtain ⟨p, hp, rfl⟩ := List.mem_map.1 hm
    obtain ⟨u, v, rfl, hu, rfl⟩ := hr.mem_waysAt.1 hp
    rw [leave_singleton, ← List.append_assoc] at hq
    exact ⟨u, v, rfl, hu, hq⟩
  · rintro ⟨u, v, rfl, hu, hq⟩
    rw [waysAt, List.append_assoc] at hq
    exact ⟨_, List.mem_map.2 ⟨_, hr.mem_waysAt.2 ⟨u, v, rfl, hu, rfl⟩, leave_singleton ..⟩, hq⟩

theorem waysAt_seq_start (b : Regex) (rest : Text) (spans : List Span) :
    waysAt (.seq (.boundary .start) b) [] rest spans = waysAt b [] rest spans := by
  have hstart : waysAt (.boundary .start) [] rest spans = [⟨0, spans⟩] := rfl
  rw [waysAt_seq, hstart, List.flatMap_singleton]
  rfl

theorem mem_waysAt_stop :
    q ∈ waysAt (.boundary .stop) before rest spans ↔ (rest = [] ∨ rest = ['\n']) ∧ q = ⟨before.length, spans⟩ := by
  have hchar : (before ++ rest).toArray[before.length]? = rest[0]? := by
    rw [List.getElem?_toArray, List.getElem?_append_right (Nat.le_refl _), Nat.sub_self]
  have hstop : Subject.isAt (before ++ rest).toArray .none .stop before.length = true ↔ rest = [] ∨ rest = ['\n'] := by
    rw [Subject.isAt, hchar, List.size_toArray, List.length_append]
    rcases rest with _ | ⟨c, _ | ⟨d, rest⟩⟩ <;> simp [Flags.none]
  have hways : waysAt (.boundary .stop) before rest spans =
      if Subject.isAt (before ++ rest).toArray .none .stop before.length then [⟨before.length, spans⟩] else [] := rfl
  rw [hways]
  split
  · next h => rw [List.mem_singleton, and_iff_right (hstop.1 h)]
  · next h => exact iff_of_false List.not_mem_nil fun hq => h (hstop.2 hq.1)

/-! ## Greedy repetitions -/

theorem head?_atMost_one {t : Text} {isWanted : Char → Bool} {u : Text} {n : Nat}
    (hu : ∀ c ∈ u, isWanted c = true) (hrest : ∀ c ∈ rest.head?, isWanted c = false) (hn : u.length ≤ n)
    (ht : t = before ++ (u ++ rest)) :
    ((Ways.one t.toArray isWanted).atMost false n ⟨before.length, spans⟩).head? =
      some ⟨(before ++ u).length, spans⟩ := by
  induction u generalizing before n with
  | nil =>
    rw [List.append_nil]
    cases n with
    | zero => rfl
    | succ n =>
      have hnone : Ways.one t.toArray isWanted ⟨before.length, spans⟩ = [] := by
        rw [List.eq_nil_iff_forall_not_mem]
        intro q hq
        obtain ⟨_, v, hv, ⟨c, hc, rfl⟩, -⟩ := (Ways.reads_one t isWanted before rest spans q ht).1 hq
        rw [hrest c (by rw [hv]; rfl)] at hc
        cases hc
      rw [Ways.atMost_succ, hnone]
      rfl
  | cons c u ih =>
    obtain ⟨hc, hu⟩ := List.forall_mem_cons.1 hu
    cases n with
    | zero => cases hn
    | succ n =>
      have htext : t = before ++ [c] ++ (u ++ rest) := by rw [ht]; simp
      have hne : ((before ++ [c]).length == before.length) = false := by simp
      rw [Ways.atMost_succ, one_append hc ht, List.flatMap_singleton, hne, if_neg Bool.false_ne_true, List.head?_append,
        ih hu (Nat.le_of_succ_le_succ hn) htext, List.append_assoc]
      rfl

/-- A greedy repetition prefers to go on up to what it does not read. -/
theorem head?_waysAt_many (s : CharSet) {u : Text} (hu : ∀ c ∈ u, s.contains .none (s.isFolded .none) c = true)
    (hne : u ≠ []) (hrest : ∀ c ∈ rest.head?, s.contains .none (s.isFolded .none) c = false) :
    (waysAt (Regex.many 1 (.oneOf s)) before (u ++ rest) spans).head? = some ⟨(before ++ u).length, spans⟩ := by
  obtain ⟨c, u, rfl⟩ := List.exists_cons_of_ne_nil hne
  obtain ⟨hc, hu⟩ := List.forall_mem_cons.1 hu
  have htext : before ++ (c :: u ++ rest) = before ++ [c] ++ (u ++ rest) := by simp
  have hone : Ways.one (before ++ (c :: u ++ rest)).toArray (s.contains .none (s.isFolded .none))
      ⟨before.length, spans⟩ = [⟨(before ++ [c]).length, spans⟩] := one_append hc rfl
  have hways (t : Subject) : (Regex.oneOf s).ways t .none = .one t (s.contains .none (s.isFolded .none)) := rfl
  rw [waysAt, ways_many, Ways.times_one, hways, hone, List.flatMap_singleton, head?_atMost_one hu hrest ?_ htext,
    List.append_assoc]
  · rfl
  · simp
    omega

end

end YamlStyle.Regex
