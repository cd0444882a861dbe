import YamlStyle.Proofs.Lexeme.Extents
import YamlStyle.Proofs.Stream.Pages

/-!
# The elements of a text are within it

Where the lexemes of a text are within it, so are the windows on them, the comments in the gaps between
them and the lines (`isIn_of_mem_ofLexemes`). A comment starts at a hash sign.
-/

namespace YamlStyle

variable {t : Text}

namespace Lexeme

theorem IsIn.start_le_length {x : Lexeme} (h : x.IsIn t) : x.start.offset ≤ t.length :=
  Nat.le_trans h.ordered h.bound

theorem IsIn.isPlace_start {x : Lexeme} (h : x.IsIn t) : t.IsPlace (x.start.line + 1) (x.start.column + 1) := by
  rw [h.start]
  exact Text.isPlace_mark h.start_le_length

/-- The column after a lexeme that ends on the line it starts on. -/
theorem IsIn.isPlace_stop {x : Lexeme} (h : x.IsIn t) (hline : x.stop.line = x.start.line) :
    t.IsPlace (x.start.line + 1) (x.stop.column + 1) := by
  rw [← hline, h.stop]
  exact Text.isPlace_mark h.bound

end Lexeme

/-- A window on lexemes of a text. -/
structure Window.IsIn (t : Text) (w : Window) : Prop where
  prev : ∀ x ∈ w.prev, x.IsIn t
  curr : w.curr.IsIn t
  next : ∀ x ∈ w.next, x.IsIn t

theorem Window.isIn_of_mem_slide {prev : Option Lexeme} {xs : List Lexeme} (hprev : ∀ x ∈ prev, x.IsIn t)
    (hxs : ∀ x ∈ xs, x.IsIn t) : ∀ w ∈ slide prev xs, w.IsIn t := by
  induction xs generalizing prev with
  | nil => exact List.forall_mem_nil _
  | cons x xs ih =>
    obtain ⟨hx, hrest⟩ := List.forall_mem_cons.1 hxs
    refine List.forall_mem_cons.2 ⟨⟨hprev, hx, fun y hy => hrest y (List.mem_of_getElem? hy)⟩, ih ?_ hrest⟩
    rintro y ⟨⟩
    exact hx

theorem Window.curr_mem_of_mem_slide {prev : Option Lexeme} {xs : List Lexeme} {w : Window} (h : w ∈ slide prev xs) :
    w.curr ∈ xs := by
  induction xs generalizing prev with
  | nil => cases h
  | cons x xs ih =>
    rcases List.mem_cons.1 h with rfl | h
    · exact .head _
    · exact .tail _ (ih h)

/-! ## Comments -/

namespace Comment

/-- The place of an offset, told as comments tell theirs. -/
def Place.ofOffset (t : Text) (o : Nat) : Place :=
  ⟨((LineIndex.ofText t).mark o).line + 1, ((LineIndex.ofText t).mark o).column + 1, o⟩

/-- The place of a hash sign in a text. -/
structure Place.IsIn (t : Text) (p : Place) : Prop where
  place : p = .ofOffset t p.offset
  hash : t[p.offset]? = some '#'

theorem Place.isPlace_ofOffset {o : Nat} (h : o ≤ t.length) : t.IsPlace (ofOffset t o).line (ofOffset t o).column :=
  Text.isPlace_mark h

theorem Place.IsIn.isPlace {p : Place} (h : p.IsIn t) : t.IsPlace p.line p.column := by
  have hplace := isPlace_ofOffset (Nat.le_of_lt (List.getElem?_eq_some_iff.1 h.hash).1)
  rwa [← h.place] at hplace

theorem Place.ofOffset_add {o k : Nat} (h : '\n' ∉ t.slice o (o + k)) :
    ofOffset t (o + k) = ⟨(ofOffset t o).line, (ofOffset t o).column + k, o + k⟩ := by
  rw [ofOffset, LineIndex.mark_add h, ofOffset, Nat.add_right_comm]

theorem Place.ofOffset_succ {o : Nat} (h : t[o]? = some '\n') :
    ofOffset t (o + 1) = ⟨(ofOffset t o).line + 1, 1, o + 1⟩ := by
  rw [ofOffset, LineIndex.mark_succ_of_lineFeed h, ofOffset]

/-- The first hash sign of its line between two offsets. -/
structure IsFirstHash (t : Text) (a b o : Nat) : Prop where
  le : a ≤ o
  lt : o < b
  hash : t[o]? = some '#'
  first : ∀ p, a ≤ p → p < o → ((LineIndex.ofText t).mark p).line = ((LineIndex.ofText t).mark o).line →
    t[p]? ≠ some '#'

theorem mem_placesIn_cons {p q : Place} {segment : Text} {segments : List Text} :
    q ∈ placesIn p (segment :: segments) ↔
      (∃ i, segment.findIdx? (· == '#') = some i ∧ q = ⟨p.line, p.column + i, p.offset + i⟩) ∨
        q ∈ placesIn ⟨p.line + 1, 1, p.offset + segment.length + 1⟩ segments := by
  rw [placesIn]
  cases segment.findIdx? (· == '#') with
  | none => simp
  | some i => simp

theorem getElem?_piece {o i : Nat} {piece : Text} (hpiece : piece <+: t.drop o) (hi : i < piece.length) :
    t[o + i]? = some piece[i] := by
  obtain ⟨rest, hrest⟩ := hpiece
  rw [← List.getElem?_drop, ← hrest, List.getElem?_append_left hi, List.getElem?_eq_getElem hi]

theorem not_mem_slice_piece {o i : Nat} {piece : Text} (hpiece : piece <+: t.drop o) (hline : '\n' ∉ piece)
    (hi : i ≤ piece.length) : '\n' ∉ t.slice o (o + i) := by
  have hslice : t.slice o (o + i) <+: piece := by
    rw [Text.slice, Nat.add_sub_cancel_left, List.prefix_iff_eq_take.1 hpiece]
    exact List.take_prefix_take_left hi
  exact fun hmem => hline (hslice.subset hmem)

/-- On a piece of one line the first hash sign is that of the piece. -/
theorem isFirstHash_iff_findIdx? {o i : Nat} {piece : Text} (hpiece : piece <+: t.drop o) (hline : '\n' ∉ piece) :
    IsFirstHash t o (o + piece.length) (o + i) ↔ piece.findIdx? (· == '#') = some i := by
  have hsame : ∀ k, k < piece.length → ((LineIndex.ofText t).mark (o + k)).line = ((LineIndex.ofText t).mark o).line :=
    fun k hk => LineIndex.line_mark_eq (Nat.le_add_right o k) (not_mem_slice_piece hpiece hline (Nat.le_of_lt hk))
  rw [List.findIdx?_eq_some_iff_getElem]
  constructor
  · intro h
    have hi : i < piece.length := by have := h.lt; omega
    have hhash := h.hash
    rw [getElem?_piece hpiece hi, Option.some.injEq] at hhash
    refine ⟨hi, beq_iff_eq.2 hhash, fun j hj => ?_⟩
    have hj' : j < piece.length := Nat.lt_trans hj hi
    have hnot := h.first (o + j) (Nat.le_add_right o j) (by omega) (by rw [hsame j hj', hsame i hi])
    rw [getElem?_piece hpiece hj'] at hnot
    simpa using hnot
  · rintro ⟨hi, hhash, hfirst⟩
    refine ⟨Nat.le_add_right o i, by omega, ?_, fun p hp hlt _ => ?_⟩
    · rw [getElem?_piece hpiece hi, eq_of_beq hhash]
    · obtain ⟨j, rfl⟩ := Nat.exists_eq_add_of_le hp
      have hj : j < i := by omega
      rw [getElem?_piece hpiece (Nat.lt_trans hj hi)]
      simpa using hfirst j hj

/-- The hash signs after a line feed have nothing to do with those before it. -/
theorem isFirstHash_lineFeed {a m b o : Nat} (hm : t[m]? = some '\n') (ha : a ≤ m) (hb : m < b) :
    IsFirstHash t a b o ↔ IsFirstHash t a m o ∨ IsFirstHash t (m + 1) b o := by
  have hbefore : ∀ {p q}, p ≤ m → m < q →
      ((LineIndex.ofText t).mark p).line ≠ ((LineIndex.ofText t).mark q).line := by
    intro p q hp hq
    have hlow := LineIndex.line_mark_mono t hp
    have hhigh := LineIndex.line_mark_mono t (Nat.succ_le_of_lt hq)
    rw [Nat.succ_eq_add_one, LineIndex.mark_succ_of_lineFeed hm] at hhigh
    dsimp only at hhigh
    omega
  constructor
  · intro h
    rcases Nat.lt_trichotomy o m with hlt | rfl | hgt
    · exact .inl ⟨h.le, hlt, h.hash, h.first⟩
    · have hhash := h.hash
      rw [hm] at hhash
      cases hhash
    · exact .inr ⟨hgt, h.lt, h.hash, fun p hp => h.first p (by omega)⟩
  · rintro (h | h)
    · exact ⟨h.le, Nat.lt_trans h.lt hb, h.hash, h.first⟩
    · refine ⟨by have := h.le; omega, h.lt, h.hash, fun p hp hlt hline => ?_⟩
      rcases Nat.lt_or_ge m p with hmp | hpm
      · exact h.first p hmp hlt hline
      · exact absurd hline (hbefore hpm h.le)

/-- The comment of a piece of one line is at its first hash sign. -/
theorem exists_findIdx?_iff {o : Nat} {piece : Text} (hpiece : piece <+: t.drop o) (hline : '\n' ∉ piece) {q : Place} :
    (∃ i, piece.findIdx? (· == '#') = some i ∧
        q = ⟨(Place.ofOffset t o).line, (Place.ofOffset t o).column + i, (Place.ofOffset t o).offset + i⟩) ↔
      q = .ofOffset t q.offset ∧ IsFirstHash t o (o + piece.length) q.offset := by
  have hplace : ∀ i < piece.length, Place.ofOffset t (o + i) = ⟨(Place.ofOffset t o).line, (Place.ofOffset t o).column + i, o + i⟩ :=
    fun i hi => Place.ofOffset_add (not_mem_slice_piece hpiece hline (Nat.le_of_lt hi))
  constructor
  · rintro ⟨i, hi, rfl⟩
    have hfirst := (isFirstHash_iff_findIdx? hpiece hline).2 hi
    have hlt : i < piece.length := by have := hfirst.lt; omega
    exact ⟨(hplace i hlt).symm, hfirst⟩
  · rintro ⟨hq, hfirst⟩
    obtain ⟨i, hi⟩ := Nat.exists_eq_add_of_le hfirst.le
    have hlt : i < piece.length := by have := hfirst.lt; omega
    rw [hi] at hq hfirst
    exact ⟨i, (isFirstHash_iff_findIdx? hpiece hline).1 hfirst, hq.trans (hplace i hlt)⟩

/-- The comments of a gap are at the first hash signs of its lines. -/
theorem mem_placesIn_iff {o : Nat} {gap : Text} (hgap : gap <+: t.drop o) {q : Place} :
    q ∈ placesIn (.ofOffset t o) (gap.splitOn '\n') ↔
      q = .ofOffset t q.offset ∧ IsFirstHash t o (o + gap.length) q.offset := by
  generalize hsegments : Text.splitOn '\n' gap = segments
  -- The induction is on the lines of the gap; what is left of it starts further on in the text.
  induction segments generalizing gap o with
  | nil => exact absurd hsegments (Text.splitOn_ne_nil '\n' gap)
  | cons segment segments ih =>
    rw [mem_placesIn_cons]
    rcases Text.splitOn_cases '\n' gap with ⟨hline, hsplit⟩ | ⟨piece, r, hline, rfl, hsplit⟩
    · cases hsplit.symm.trans hsegments
      rw [exists_findIdx?_iff hgap hline, placesIn, List.mem_nil_iff, or_false]
    · cases hsplit.symm.trans hsegments
      obtain ⟨rest, hrest⟩ := hgap
      have hsegment : segment <+: t.drop o := ⟨'\n' :: (r ++ rest), by rw [← hrest]; simp⟩
      have hdrop : t.drop (o + segment.length) = '\n' :: (r ++ rest) := by
        rw [← List.drop_drop, ← hrest, List.append_assoc, List.drop_left]
        rfl
      have hfeed : t[o + segment.length]? = some '\n' := by rw [← List.head?_drop, hdrop]; rfl
      have hr : r <+: t.drop (o + segment.length + 1) := ⟨rest, by rw [← List.tail_drop, hdrop]; rfl⟩
      have hslice := not_mem_slice_piece hsegment hline (Nat.le_refl _)
      have hplace := Place.ofOffset_succ hfeed
      rw [Place.ofOffset_add hslice] at hplace
      have hlength : o + (segment ++ '\n' :: r).length = o + segment.length + 1 + r.length := by
        rw [List.length_append, List.length_cons]
        omega
      have hcut := isFirstHash_lineFeed (b := o + segment.length + 1 + r.length) (o := q.offset) hfeed
        (Nat.le_add_right _ _) (by omega)
      rw [exists_findIdx?_iff hsegment hline, show (Place.ofOffset t o).offset = o from rfl, ← hplace, ih hr rfl,
        ← and_or_left, hlength, hcut]

/-- On each line of a gap the first hash sign is the place of a comment. -/
theorem isIn_of_mem_placesIn {o : Nat} {gap : Text} (hgap : gap <+: t.drop o) :
    ∀ q ∈ placesIn (.ofOffset t o) (Text.splitOn '\n' gap), q.IsIn t := by
  intro q hq
  obtain ⟨hplace, hfirst⟩ := (mem_placesIn_iff hgap).1 hq
  exact ⟨hplace, hfirst.hash⟩

/-- Comments between lexemes of a text are in the text. -/
theorem isIn_of_mem_between {x : Lexeme} (hx : x.IsIn t) {after : Option Lexeme} :
    ∀ c ∈ between t x after, c.toPlace.IsIn t := by
  intro c hc
  unfold between at hc
  split at hc
  · cases hc
  · next g hg =>
    have hplace : c.toPlace ∈ placesIn (.ofOffset t x.stop.offset) (Text.splitOn '\n' g) := by
      rw [Place.ofOffset, ← hx.stop, ← map_chain x after none (placesIn _ _)]
      exact List.mem_map_of_mem hc
    refine isIn_of_mem_placesIn ?_ _ hplace
    unfold gap at hg
    split at hg
    · cases hg
      exact List.prefix_rfl
    · split at hg
      · cases hg
      · cases hg
        exact List.take_prefix _ _

end Comment

/-! ## All elements -/

namespace Element

/-- An element that a text may have. -/
def IsIn (t : Text) : Element → Prop
  | lexeme w => w.IsIn t
  | comment c => c.toPlace.IsIn t
  | line l => l.IsIn t

/-- The elements of a text are within it. -/
theorem isIn_of_mem_ofLexemes {xs : List Lexeme} (hxs : ∀ x ∈ xs, x.IsIn t) : ∀ e ∈ ofLexemes t xs, e.IsIn t := by
  intro e he
  rcases List.mem_merge.1 he with he | he
  · obtain ⟨w, hw, he⟩ := List.mem_flatMap.1 he
    have hw := Window.isIn_of_mem_slide (fun _ h => by cases h) hxs w hw
    rcases List.mem_cons.1 he with rfl | he
    · exact hw
    · obtain ⟨c, hc, rfl⟩ := List.mem_map.1 he
      exact Comment.isIn_of_mem_between hw.curr c hc
  · obtain ⟨l, hl, rfl⟩ := List.mem_map.1 he
    exact Line.isIn_of_mem_ofText hl

end Element

end YamlStyle
