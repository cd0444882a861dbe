import YamlStyle.Proofs.Text.LineFeeds
import YamlStyle.Proofs.Tree.Growth

/-!
# Reading is resumed further on

Where no token can be read the tree of a text goes on from the next line. Each time that line starts after
all that has been read before, so a text is read in as many parts as it has lines at most, and no part
reads again what an earlier one has read (`build_resumes`).
-/

namespace YamlStyle.Tree

variable {t : Text} {offset next : Nat} {b : Builder} {halts : List Halt}

/-- The tokens of a text from an offset on. -/
def scan (t : Text) (offset : Nat) : Yaml.TokenStream := Yaml.TokenStream.ofText (t.drop offset)

/-- Where reading is resumed that failed after it had started at an offset. -/
def resume? (t : Text) (offset : Nat) : Option Nat :=
  ((scan t offset).failure.filter isRecoverable).bind fun failure =>
    nextLine? t (reached offset (scan t offset).tokens failure)

/-! ## The next line -/

theorem eq_of_nextLine? (h : nextLine? t offset = some next) :
    offset < next ∧ next < t.length ∧ t[next - 1]? = some '\n' := by
  unfold nextLine? at h
  split at h
  · next i hi =>
    split at h
    · next hlt =>
      obtain ⟨k, hk, rfl⟩ := Option.map_eq_some_iff.1 hi
      obtain rfl := Option.some.inj h
      obtain ⟨hlength, hfeed, -⟩ := List.findIdx?_eq_some_iff_getElem.1 hk
      refine ⟨by omega, hlt, ?_⟩
      rw [Nat.add_sub_cancel, ← List.getElem?_drop, List.getElem?_eq_getElem hlength, eq_of_beq hfeed]
    · cases h
  · cases h

theorem le_foldl_max (n : Nat) (ns : List Nat) : n ≤ ns.foldl max n ∧ ∀ k ∈ ns, k ≤ ns.foldl max n := by
  induction ns generalizing n with
  | nil => exact ⟨Nat.le_refl n, nofun⟩
  | cons m ns ih =>
    obtain ⟨hmax, hall⟩ := ih (max n m)
    rw [List.foldl_cons]
    exact ⟨by omega, List.forall_mem_cons.2 ⟨by omega, hall⟩⟩

/-- A scan comes past where it started and past all its tokens. -/
theorem le_reached (offset : Nat) (tokens : List Yaml.Released) (failure : Yaml.Failure) :
    offset ≤ reached offset tokens failure ∧
      ∀ r ∈ tokens, offset + r.token.stop.offset ≤ reached offset tokens failure := by
  obtain ⟨hoffset, hends⟩ := le_foldl_max offset (tokens.map (offset + ·.token.stop.offset))
  exact ⟨hoffset.trans (Nat.le_max_left _ _), fun r hr => (hends _ (List.mem_map_of_mem hr)).trans (Nat.le_max_left _ _)⟩

/-- A place where reading is resumed that started at an offset: after that offset, in the text, at the start
of a line, and past all tokens read. -/
structure Follows (t : Text) (offset next : Nat) : Prop where
  lt : offset < next
  lt_length : next < t.length
  afterFeed : t[next - 1]? = some '\n'
  stops_le : ∀ r ∈ (scan t offset).tokens, offset + r.token.stop.offset ≤ next

theorem Follows.trans {later : Nat} (h : Follows t offset next) (h' : Follows t next later) : Follows t offset later :=
  ⟨h.lt.trans h'.lt, h'.lt_length, h'.afterFeed, fun r hr => (h.stops_le r hr).trans (Nat.le_of_lt h'.lt)⟩

theorem follows_of_resume? (h : resume? t offset = some next) : Follows t offset next := by
  obtain ⟨failure, -, h⟩ := Option.bind_eq_some_iff.1 h
  obtain ⟨hlt, hlength, hfeed⟩ := eq_of_nextLine? h
  obtain ⟨hoffset, hstops⟩ := le_reached offset (scan t offset).tokens failure
  exact ⟨by omega, hlength, hfeed, fun r hr => (hstops r hr).trans (by omega)⟩

/-! ## Where reading starts -/

/-- The offsets at which reading starts, from `offset` on. -/
def starts (t : Text) (offset : Nat) : List Nat :=
  offset :: match _h : resume? t offset with
    | some next => starts t next
    | none => []
termination_by t.length - offset
decreasing_by
  obtain ⟨hlt, hlength, -, -⟩ := follows_of_resume? _h
  omega

theorem starts_of_resume (h : resume? t offset = some next) : starts t offset = offset :: starts t next := by
  rw [starts]
  split
  · next next' h' =>
    rw [h] at h'
    rw [Option.some.inj h']
  · next h' =>
    rw [h] at h'
    cases h'

theorem starts_of_not_resume (h : resume? t offset = none) : starts t offset = [offset] := by
  rw [starts]
  split
  · next next' h' =>
    rw [h] at h'
    cases h'
  · rfl

/-- Induction on the parts that are read from an offset on. -/
theorem starts_induction {motive : Nat → Prop} (stop : ∀ offset, resume? t offset = none → motive offset)
    (resume : ∀ offset next, resume? t offset = some next → motive next → motive offset) (offset : Nat) :
    motive offset := by
  induction hk : t.length - offset using Nat.strong_induction_on generalizing offset with
  | _ k ih =>
    cases h : resume? t offset with
    | none => exact stop offset h
    | some next =>
      obtain ⟨hlt, hlength, -, -⟩ := follows_of_resume? h
      exact resume offset next h (ih _ (by omega) next rfl)

/-- Reading starts at the offset asked for, and then at places that follow all earlier ones. -/
theorem pairwise_starts (t : Text) (offset : Nat) : (starts t offset).Pairwise (Follows t) := by
  induction offset using starts_induction (t := t) with
  | stop offset h =>
    rw [starts_of_not_resume h]
    exact List.pairwise_singleton _ _
  | resume offset next h ih =>
    rw [starts_of_resume h]
    refine List.pairwise_cons.2 ⟨fun k hk => ?_, ih⟩
    have hnext := follows_of_resume? h
    rw [starts] at hk ih
    rcases List.mem_cons.1 hk with rfl | hk
    · exact hnext
    · exact hnext.trans ((List.pairwise_cons.1 ih).1 k hk)

/-- The line of each place where reading is resumed is after that of the place before. -/
theorem Follows.count_lt (h : Follows t offset next) : (t.take offset).count '\n' < (t.take next).count '\n' := by
  have hnext : t.take next = t.take (next - 1) ++ ['\n'] := by
    have hpred : next - 1 + 1 = next := by have := h.lt; omega
    rw [← hpred, List.take_add_one, Nat.add_sub_cancel, h.afterFeed]
    rfl
  have hle := Text.count_take_le (t := t) (show offset ≤ next - 1 by have := h.lt; omega)
  rw [hnext, List.count_append, List.count_singleton_self]
  omega

/-- Reading is resumed at most once a line. -/
theorem length_starts_le (t : Text) (offset : Nat) :
    (t.take offset).count '\n' + (starts t offset).tail.length ≤ t.count '\n' := by
  induction offset using starts_induction (t := t) with
  | stop offset h =>
    rw [starts_of_not_resume h]
    exact (List.take_sublist _ _).count_le _
  | resume offset next h ih =>
    have hlt := (follows_of_resume? h).count_lt
    have htail : (starts t next).length = (starts t next).tail.length + 1 := by
      rw [starts]
      rfl
    rw [starts_of_resume h, List.tail_cons, htail]
    omega

/-! ## What is read -/

/-- Grows a tree by the part of a text that is read from an offset on. -/
def growFrom (t : Text) (b : Builder) (offset : Nat) : Builder := (feedAll t offset b (scan t offset).tokens).closeAll

/-- The halt at which the part of a text ends that is read from an offset on, if it ends at a fault. -/
def halt? (t : Text) (offset : Nat) : Option Halt := (scan t offset).failure.map (Halt.mk offset)

/-- The lexical units of the part of a text that is read from an offset on. -/
def unitsFrom (t : Text) (offset : Nat) : List LexicalUnit :=
  (scan t offset).tokens.filterMap fun r => (Act.feed offset r.token).unit? t

/-- Whether a unit stands at a place of the text. -/
def LexicalUnit.Covers (u : LexicalUnit) (place : Nat) : Prop :=
  u.offset ≤ place ∧ place < u.offset + u.source.length

def LexicalUnit.Overlaps (u v : LexicalUnit) : Prop := ∃ place, u.Covers place ∧ v.Covers place

/-- Whether scans from some offsets fail only so that reading can go on. -/
def IsResumable (t : Text) (offsets : List Nat) : Prop :=
  ∀ k ∈ offsets, ∀ failure, (scan t k).failure = some failure → isRecoverable failure = true

theorem grow_of_resume (b : Builder) (halts : List Halt) (h : resume? t offset = some next) :
    ∃ failure, halt? t offset = some ⟨offset, failure⟩ ∧
      grow t offset b halts = grow t next (growFrom t b offset) (⟨offset, failure⟩ :: halts) := by
  have hfollows := follows_of_resume? h
  obtain ⟨failure, hfailure, hnext⟩ := Option.bind_eq_some_iff.1 h
  obtain ⟨hfailure, hrecoverable⟩ := Option.filter_eq_some_iff.1 hfailure
  refine ⟨failure, by rw [halt?, hfailure]; rfl, ?_⟩
  rw [grow]
  rw [scan] at hfailure hnext
  simp only [hfailure, hrecoverable, hnext, if_true]
  rw [dif_pos ⟨hfollows.lt, hfollows.lt_length⟩]
  rfl

theorem grow_of_not_resume (h : resume? t offset = none) (hresumable : IsResumable t [offset]) :
    grow t offset b halts = ⟨.ok (growFrom t b offset).root, halts.reverse ++ (halt? t offset).toList⟩ := by
  rw [grow]
  cases hfailure : (scan t offset).failure with
  | none =>
    rw [halt?, hfailure]
    rw [scan] at hfailure
    simp only [hfailure]
    exact congrArg _ (List.append_nil _).symm
  | some failure =>
    have hrecoverable := hresumable offset (.head _) failure hfailure
    rw [resume?, hfailure, Option.filter_some, if_pos hrecoverable, Option.bind_some] at h
    rw [halt?, hfailure]
    rw [scan] at hfailure h
    simp only [hfailure, hrecoverable, h, if_true]
    exact congrArg _ (List.reverse_cons ..)

/-- The tree of a text is grown by one part after another, and all halts are told. -/
theorem grow_eq (h : IsResumable t (starts t offset)) : grow t offset b halts =
    ⟨.ok ((starts t offset).foldl (growFrom t) b).root, halts.reverse ++ (starts t offset).filterMap (halt? t)⟩ := by
  induction offset using starts_induction (t := t) generalizing b halts with
  | stop offset hstop =>
    rw [starts_of_not_resume hstop] at h ⊢
    rw [grow_of_not_resume hstop h]
    cases hhalt : halt? t offset <;> simp [hhalt]
  | resume offset next hnext ih =>
    rw [starts_of_resume hnext] at h ⊢
    obtain ⟨failure, hhalt, hgrow⟩ := grow_of_resume b halts hnext
    rw [hgrow, ih fun k hk => h k (.tail _ hk), List.filterMap_cons_some hhalt, List.foldl_cons, List.reverse_cons,
      List.append_assoc]
    rfl

theorem grows_growFrom (hb : b.Sound) (offset : Nat) : Builder.Grows b (growFrom t b offset) (unitsFrom t offset) := by
  have hfeeds := grows_acts t hb ((scan t offset).tokens.map fun r : Yaml.Released => Act.feed offset r.token)
  rw [List.filterMap_map, ← feedAll_eq_foldl] at hfeeds
  have hclose := hfeeds.trans (Builder.grows_closeAll hfeeds.sound)
  rwa [List.append_nil] at hclose

theorem grows_starts (hb : b.Sound) (offsets : List Nat) :
    Builder.Grows b (offsets.foldl (growFrom t) b) (offsets.flatMap (unitsFrom t)) := by
  induction offsets generalizing b with
  | nil => exact .refl hb
  | cons offset offsets ih =>
    have hfirst := grows_growFrom (t := t) hb offset
    exact hfirst.trans (ih hfirst.sound)

/-- A unit stands where its token does. -/
theorem covers_of_mem_unitsFrom {u : LexicalUnit} (hu : u ∈ unitsFrom t offset) {place : Nat} (h : u.Covers place) :
    offset ≤ place ∧ ∃ r ∈ (scan t offset).tokens, place < offset + r.token.stop.offset := by
  obtain ⟨r, hr, hunit⟩ := List.mem_filterMap.1 hu
  obtain ⟨kind, -, rfl⟩ := Option.map_eq_some_iff.1 hunit
  obtain ⟨hstart, hstop⟩ := h
  dsimp only at hstart hstop
  refine ⟨by omega, r, hr, ?_⟩
  split at hstop
  · rw [String.length_empty] at hstop
    omega
  · rw [String.length_ofList, Text.slice, List.length_take] at hstop
    omega

/-- No part of a text has a unit where an earlier part has one. -/
theorem Follows.not_overlaps (h : Follows t offset next) {u v : LexicalUnit} (hu : u ∈ unitsFrom t offset)
    (hv : v ∈ unitsFrom t next) : ¬u.Overlaps v := by
  rintro ⟨place, hcu, hcv⟩
  obtain ⟨-, r, hr, hlt⟩ := covers_of_mem_unitsFrom hu hcu
  have hle := (covers_of_mem_unitsFrom hv hcv).1
  have := h.stops_le r hr
  omega

/-! ## Main theorem -/

/-- Where scans of a text fail only so that reading can go on, its tree is built of parts. Each starts in
the text, after a line feed, after the start of all earlier parts and not before the end of any of their
tokens. There are no more than lines, and no two of them have units at one place. -/
theorem build_resumes (t : Text) (h : IsResumable t (starts t 0)) :
    build t = ⟨.ok ((starts t 0).foldl (growFrom t) (.start t.length)).root, (starts t 0).filterMap (halt? t)⟩ ∧
      ((starts t 0).foldl (growFrom t) (.start t.length)).root.units.Perm ((starts t 0).flatMap (unitsFrom t)) ∧
      (starts t 0).Pairwise (Follows t) ∧
      (starts t 0).tail.length ≤ t.count '\n' ∧
      (starts t 0).Pairwise fun j k => ∀ u ∈ unitsFrom t j, ∀ v ∈ unitsFrom t k, ¬u.Overlaps v := by
  have hpairwise := pairwise_starts t 0
  refine ⟨grow_eq h, (grows_starts (sound_start t.length) _).units, hpairwise, ?_, ?_⟩
  · exact (Nat.le_add_left _ _).trans (length_starts_le t 0)
  · exact hpairwise.imp fun hfollows _ hu _ hv => Follows.not_overlaps hfollows hu hv

/-- Two lines that cannot be read to their ends, and one that can. -/
def twoFaults : Text := "a: @\nb: @\nc: 1\n".toList

theorem starts_twoFaults : starts twoFaults 0 = [0, 5, 10] := by
  have hfirst : resume? twoFaults 0 = some 5 := by decide +kernel
  have hsecond : resume? twoFaults 5 = some 10 := by decide +kernel
  have hthird : resume? twoFaults 10 = none := by decide +kernel
  rw [starts_of_resume hfirst, starts_of_resume hsecond, starts_of_not_resume hthird]

theorem isResumable_twoFaults : IsResumable twoFaults (starts twoFaults 0) := by
  have hall : [0, 5, 10].all (fun k => (scan twoFaults k).failure.all isRecoverable) = true := by decide +kernel
  rw [starts_twoFaults]
  intro k hk failure hfailure
  have hscan := List.all_eq_true.1 hall k hk
  rw [hfailure] at hscan
  exact hscan

/-- Reading is resumed twice, at the second line and at the third. -/
theorem build_resumes_twoFaults : IsResumable twoFaults (starts twoFaults 0) ∧ starts twoFaults 0 = [0, 5, 10] ∧
    Follows twoFaults 5 10 ∧ [5, 10].length ≤ twoFaults.count '\n' ∧
    (build twoFaults).root = .ok ([0, 5, 10].foldl (growFrom twoFaults) (.start twoFaults.length)).root := by
  obtain ⟨hbuild, -, hpairwise, hlength, -⟩ := build_resumes twoFaults isResumable_twoFaults
  rw [starts_twoFaults] at hbuild hpairwise hlength
  refine ⟨isResumable_twoFaults, starts_twoFaults, ?_, hlength, by rw [hbuild]⟩
  exact List.rel_of_pairwise_cons (List.Pairwise.of_cons hpairwise) (.head _)

end YamlStyle.Tree
