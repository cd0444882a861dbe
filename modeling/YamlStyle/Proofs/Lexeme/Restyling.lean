import YamlStyle.Proofs.Lexeme.Complete
import YamlStyle.Proofs.Lexeme.Shown

/-!
# Lexemes at other offsets

The off-side rule asks which of two units comes first, and at which columns they stand. Pieces that stand in the same
order at the same columns give the same lexemes (`forall₂_run`), whatever their offsets are.
-/

namespace YamlStyle

/-- Offsets up to `fixed` stay, and those from `base` on move so that they go on from `base'`. -/
structure Move where
  fixed : Nat
  base : Nat
  base' : Nat
  lt_base : fixed < base
  lt_base' : fixed < base'

/-- Where an offset moves to. -/
inductive Move.Takes (m : Move) : Nat → Nat → Prop
  | before {o : Nat} (h : o ≤ m.fixed) : m.Takes o o
  | after (k : Nat) : m.Takes (m.base + k) (m.base' + k)

/-- The same lexeme, but that a scalar at the last offset that stays is plain. -/
structure Lexeme.IsLike (m : Move) (x x' : Lexeme) : Prop where
  kind : x'.kind = x.kind
  value : x'.value = x.value
  style : x'.style = if x.kind = .scalar ∧ x.start.offset = m.fixed then some .plain else x.style

/-- The same piece at another offset, but that a scalar at the last offset that stays is plain. -/
structure Piece.IsLike (m : Move) (ix ix' : LineIndex) (p p' : Piece) : Prop where
  kind : p'.kind = p.kind
  start : m.Takes p.start p'.start
  column : ix'.column p'.start = ix.column p.start
  wide : p.kind = .key → (p'.start < p'.stop ↔ p.start < p.stop)
  value : p'.value = p.value
  style : p'.style = if p.kind = .scalar ∧ p.start = m.fixed then some .plain else p.style

namespace Move

variable {m : Move} {a a' b b' : Nat}

theorem Takes.lt_iff (h : m.Takes a a') (h' : m.Takes b b') : a' < b' ↔ a < b := by
  have := m.lt_base
  have := m.lt_base'
  cases h <;> cases h' <;> omega

theorem Takes.eq_iff (h : m.Takes a a') (h' : m.Takes b b') : a' = b' ↔ a = b := by
  have := h.lt_iff h'
  have := h'.lt_iff h
  omega

end Move

namespace OffSide

/-- The same container at another offset. -/
structure Container.IsLike (m : Move) (c c' : Container) : Prop where
  kind : c'.kind = c.kind
  indent : c'.indent = c.indent
  offset : m.Takes c.offset c'.offset

/-- The same is open. -/
structure State.IsLike (m : Move) (s s' : State) : Prop where
  containers : List.Forall₂ (Container.IsLike m) s.containers s'.containers
  flowDepth : s'.flowDepth = s.flowDepth
  last : Option.Rel m.Takes s.last s'.last

variable {m : Move} {ix ix' : LineIndex} {p p' : Piece} {s s' : State} {cs cs' : List Container}

theorem isLike_start (m : Move) : State.start.IsLike m .start := ⟨.nil, rfl, .none⟩

theorem isLike_lexeme (h : p.IsLike m ix ix' p') : (lexeme ix p).IsLike m (lexeme ix' p') := ⟨h.kind, h.value, h.style⟩

theorem isLike_blockEnds (m : Move) (ix ix' : LineIndex) (n offset offset' : Nat) :
    List.Forall₂ (Lexeme.IsLike m) (blockEnds ix n offset) (blockEnds ix' n offset') := by
  induction n with
  | zero => exact .nil
  | succ n ih => exact .cons ⟨rfl, rfl, rfl⟩ ih

theorem blockCount_eq (h : List.Forall₂ (Container.IsLike m) cs cs') : blockCount cs' = blockCount cs := by
  induction h with
  | nil => rfl
  | cons hc _ ih =>
    rw [blockCount, blockCount, List.filter_cons, List.filter_cons, hc.kind]
    split
    · rw [List.length_cons, List.length_cons]
      exact congrArg (· + 1) ih
    · exact ih

theorem endsBefore_eq (hp : p.IsLike m ix ix' p') (column : Nat) {c c' : Container} (hc : c.IsLike m c') :
    endsBefore p' column c' = endsBefore p column c := by
  rw [endsBefore, endsBefore, hc.indent, hc.kind, hp.kind, decide_eq_decide.2 (hc.offset.lt_iff hp.start)]

theorem forall₂_takeWhile (hp : p.IsLike m ix ix' p') (column : Nat) (h : List.Forall₂ (Container.IsLike m) cs cs') :
    List.Forall₂ (Container.IsLike m) (cs.takeWhile (endsBefore p column)) (cs'.takeWhile (endsBefore p' column)) := by
  induction h with
  | nil => exact .nil
  | cons hc _ ih =>
    rw [List.takeWhile_cons, List.takeWhile_cons, endsBefore_eq hp column hc]
    split
    · exact .cons hc ih
    · exact .nil

theorem isLike_leaveFlow (hs : s.IsLike m s') (hp : p.IsLike m ix ix' p') : (s.leaveFlow p).IsLike m (s'.leaveFlow p') := by
  rw [State.leaveFlow, State.leaveFlow, hp.kind]
  split
  · exact { hs with flowDepth := rfl }
  · exact hs

/-- As many blocks end before a piece, and what is open after them is the same. -/
theorem isLike_closeBefore (hs : s.IsLike m s') (hp : p.IsLike m ix ix' p') (column : Nat) :
    (s'.closeBefore p' column).1 = (s.closeBefore p column).1 ∧
      (s.closeBefore p column).2.IsLike m (s'.closeBefore p' column).2 := by
  have hlast : (s'.last == some p'.start) = (s.last == some p.start) := by
    obtain ⟨containers, depth, last⟩ := s
    obtain ⟨containers', depth', last'⟩ := s'
    cases hs.last with
    | none => rfl
    | some h => exact Bool.eq_iff_iff.2 (by simpa using h.eq_iff hp.start)
  have hclosed := forall₂_takeWhile hp column hs.containers
  rw [State.closeBefore, State.closeBefore, hs.flowDepth, hlast]
  split
  · exact ⟨rfl, hs⟩
  · refine ⟨blockCount_eq hclosed, ⟨?_, rfl, hs.last⟩⟩
    dsimp only
    rw [← hclosed.length_eq]
    exact List.forall₂_drop _ hs.containers

theorem isLike_push (hs : s.IsLike m s') (hp : p.IsLike m ix ix' p') (kind : ContainerKind) (column : Nat) :
    (s.push kind p column).IsLike m (s'.push kind p' column) :=
  { hs with containers := .cons ⟨rfl, rfl, hp.start⟩ hs.containers }

theorem continuesSequence_eq (h : List.Forall₂ (Container.IsLike m) cs cs') (column : Nat) :
    continuesSequence cs' column = continuesSequence cs column := by
  cases h with
  | nil => rfl
  | @cons c c' _ _ hc _ =>
    obtain ⟨kind, indent, offset⟩ := c
    obtain ⟨kind', indent', offset'⟩ := c'
    obtain ⟨rfl, rfl, -⟩ := hc
    rw [continuesSequence, continuesSequence, List.head?_cons, List.head?_cons]
    cases kind' <;> rfl

theorem isLike_openAfter (hs : s.IsLike m s') (hp : p.IsLike m ix ix' p') (column : Nat) :
    (s.openAfter p column).IsLike m (s'.openAfter p' column) := by
  rw [State.openAfter, State.openAfter, hp.kind, hs.flowDepth, continuesSequence_eq hs.containers]
  split
  · exact { hs with flowDepth := rfl }
  split
  · exact { hs with flowDepth := rfl }
  split
  · exact hs
  split
  · exact isLike_push hs hp _ _
  · exact isLike_push hs hp _ _
  · split
    · exact hs
    · exact isLike_push hs hp _ _
  · next hkey =>
    simp only [hp.wide hkey]
    split
    · exact isLike_push hs hp _ _
    · exact hs
  · exact hs

theorem isLike_step (hs : s.IsLike m s') (hp : p.IsLike m ix ix' p') :
    List.Forall₂ (Lexeme.IsLike m) (step ix s p).1 (step ix' s' p').1 ∧ (step ix s p).2.IsLike m (step ix' s' p').2 := by
  obtain ⟨hends, hopen⟩ := isLike_closeBefore (isLike_leaveFlow hs hp) hp (ix.column p.start)
  rw [step, step, hp.column]
  dsimp only
  rw [hends]
  refine ⟨List.rel_append (isLike_blockEnds m ix ix' _ _ _) (.cons (isLike_lexeme hp) .nil), ?_⟩
  exact { isLike_openAfter hopen hp (ix.column p.start) with last := .some hp.start }

/-- The lexemes of pieces at other offsets. -/
theorem forall₂_run {ps ps' : List Piece} (hs : s.IsLike m s') (h : List.Forall₂ (Piece.IsLike m ix ix') ps ps')
    (size size' : Nat) : List.Forall₂ (Lexeme.IsLike m) (run ix size s ps) (run ix' size' s' ps') := by
  induction h generalizing s s' with
  | nil =>
    rw [run, run, blockCount_eq hs.containers]
    exact isLike_blockEnds m ix ix' _ _ _
  | cons hp _ ih =>
    obtain ⟨hlexemes, hstate⟩ := isLike_step hs hp
    rw [run, run]
    exact List.rel_append hlexemes (ih hstate)

end OffSide

/-- The lexemes of trees with the same pieces at other offsets. -/
theorem Lexeme.forall₂_ofTree {m : Move} {t t' : Text} {root root' : Node}
    (h : List.Forall₂ (Piece.IsLike m (.ofText t) (.ofText t')) root.pieces root'.pieces) :
    List.Forall₂ (IsLike m) (ofTree t root) (ofTree t' root') :=
  .cons ⟨rfl, rfl, rfl⟩ (List.rel_append (OffSide.forall₂_run (OffSide.isLike_start m) h _ _) (.cons ⟨rfl, rfl, rfl⟩ .nil))

/-! ## Tokens at other offsets -/

namespace Tree

open Yaml (Token TokenKind ScalarStyle)

variable {m : Move} {t t' : Text} {x x' : Token} {p p' : Piece}

/-- The same token for what it shows. -/
structure SameShown (t t' : Text) (x x' : Token) : Prop where
  kind : x'.kind = x.kind
  source : x.kind.lexemeKind = .tag ∨ x.kind.lexemeKind = .directive →
    t'.slice x'.start.offset x'.stop.offset = t.slice x.start.offset x.stop.offset

theorem value_style_of_pieceOf? (h : SameShown t t' x x') (hp : pieceOf? t x = some p) (hp' : pieceOf? t' x' = some p') :
    p'.value = p.value ∧ p'.style = p.style := by
  obtain ⟨kind, start, stop⟩ := x
  obtain ⟨kind', start', stop'⟩ := x'
  obtain ⟨hkind, hsource⟩ := h
  obtain rfl : kind' = kind := hkind
  have hslice : ∀ {a b : Nat} {text : Text}, text.slice (0 + a) (0 + b) = text.slice a b := by
    intro a b text
    rw [Nat.zero_add, Nat.zero_add]
  cases kind' with
  | scalar text style => cases style <;> cases hp <;> cases hp' <;> exact ⟨rfl, rfl⟩
  | key =>
    by_cases hlt : start.offset < stop.offset <;> by_cases hlt' : start'.offset < stop'.offset <;>
      simp only [pieceOf?, Act.unit?, unitOf?, nodeKind?, hlt, hlt', if_true,
        if_false] at hp hp' <;> cases hp <;> cases hp' <;>
      exact ⟨rfl, rfl⟩
  | tag | directive =>
    cases hp
    cases hp'
    refine ⟨congrArg (fun text => some (String.ofList text)) ?_, rfl⟩
    rw [hslice, hslice]
    exact hsource (by simp [TokenKind.lexemeKind])
  | streamStart | streamEnd | blockEnd => cases hp
  | _ =>
    cases hp
    cases hp'
    exact ⟨rfl, rfl⟩

/-- How a piece shows a scalar. -/
structure ShowsScalar (t : Text) (x : Token) (value : String) (style : ScalarStyle) (p : Piece) : Prop where
  stop : p.stop = x.start.offset + (t.slice x.start.offset x.stop.offset).length
  value : p.value = some value
  plain : style = .plain → p.style = some .plain
  quoted : p.style.any (·.isQuoted) = true → style = .single ∨ style = .double

theorem showsScalar_of_pieceOf? {value : String} {style : ScalarStyle} (hx : x.kind = .scalar value style)
    (hp : pieceOf? t x = some p) : ShowsScalar t x value style p := by
  obtain ⟨kind, start, stop⟩ := x
  obtain rfl : kind = .scalar value style := hx
  have hstop : 0 + start.offset + (String.ofList (t.slice (0 + start.offset) (0 + stop.offset))).length =
      start.offset + (t.slice start.offset stop.offset).length := by
    rw [Nat.zero_add, Nat.zero_add, String.length_ofList]
  cases style <;> cases hp <;> exact ⟨hstop, rfl, by first | exact fun _ => rfl | exact nofun, by
    first | exact fun _ => .inl rfl | exact fun _ => .inr rfl | exact nofun⟩

/-- A token in another text: the same token at another offset, or the same scalar without its quotes. -/
structure Moves (m : Move) (t t' : Text) (x x' : Token) : Prop where
  start : x.kind.isShown = true → m.Takes x.start.offset x'.start.offset
  column : x.kind.isShown = true → x'.start.column = x.start.column
  same : SameShown t t' x x' ∧ (x.kind.lexemeKind = .scalar → x.start.offset ≠ m.fixed) ∨
    (∃ value style, x.kind = .scalar value style ∧ x'.kind = .scalar value .plain) ∧ x.start.offset = m.fixed
  wide : x.kind = .key → (x'.start.offset < x'.stop.offset ↔ x.start.offset < x.stop.offset)

/-- A token that shows starts where lines say, and a key stops in the text. -/
structure IsMarked (t : Text) (x : Token) : Prop where
  start : x.kind.isShown = true → x.start = (LineIndex.ofText t).mark x.start.offset
  bound : x.kind = .key → x.stop.offset ≤ t.length

theorem Moves.isShown (h : Moves m t t' x x') : x'.kind.isShown = x.kind.isShown := by
  rcases h.same with ⟨h, -⟩ | ⟨⟨value, style, hx, hx'⟩, -⟩
  · rw [h.kind]
  · rw [hx, hx']
    rfl

theorem Moves.isLike (h : Moves m t t' x x') (hx : IsMarked t x) (hx' : IsMarked t' x') (hp : pieceOf? t x = some p)
    (hp' : pieceOf? t' x' = some p') : p.IsLike m (.ofText t) (.ofText t') p' := by
  have hshows := shows_of_pieceOf? hp
  have hshows' := shows_of_pieceOf? hp'
  have hshown : x.kind.isShown = true := by
    by_contra hno
    rw [pieceOf?_eq_none (by simpa using hno)] at hp
    cases hp
  have hcolumn : (LineIndex.ofText t').column p'.start = (LineIndex.ofText t).column p.start := by
    rw [LineIndex.column, LineIndex.column, hshows.start, hshows'.start, ← hx.start hshown,
      ← hx'.start (h.isShown.trans hshown)]
    exact h.column hshown
  have hstart : m.Takes p.start p'.start := by
    rw [hshows.start, hshows'.start]
    exact h.start hshown
  rcases h.same with ⟨hsame, hother⟩ | ⟨⟨value, style, hscalar, hscalar'⟩, hfixed⟩
  · obtain ⟨hvalue, hstyle⟩ := value_style_of_pieceOf? hsame hp hp'
    refine ⟨by rw [hshows.kind, hshows'.kind, hsame.kind], hstart, hcolumn, fun hkey => ?_, hvalue, ?_⟩
    · have hkind : x.kind = .key := by
        rw [hshows.kind] at hkey
        cases hk : x.kind <;> rw [hk] at hkey <;> first | rfl | cases hkey
      exact (hshows'.wide (hsame.kind.trans hkind) (hx'.bound (hsame.kind.trans hkind))).trans
        ((h.wide hkind).trans (hshows.wide hkind (hx.bound hkind)).symm)
    · rw [hstyle, if_neg]
      rintro ⟨hkind, hfixed⟩
      exact hother (hshows.kind.symm.trans hkind) (hshows.start.symm.trans hfixed)
  · have hkind : p.kind = .scalar := by rw [hshows.kind, hscalar]; rfl
    have hkind' : p'.kind = .scalar := by rw [hshows'.kind, hscalar']; rfl
    refine ⟨hkind'.trans hkind.symm, hstart, hcolumn, fun hkey => ?_, ?_, ?_⟩
    · rw [hkind] at hkey
      cases hkey
    · rw [(showsScalar_of_pieceOf? hscalar hp).value, (showsScalar_of_pieceOf? hscalar' hp').value]
    · rw [if_pos ⟨hkind, hshows.start.trans hfixed⟩, (showsScalar_of_pieceOf? hscalar' hp').plain rfl]

theorem forall₂_filterMap_pieceOf? {xs xs' : List Token} (h : List.Forall₂ (Moves m t t') xs xs')
    (hxs : ∀ x ∈ xs, IsMarked t x)
    (hxs' : ∀ x ∈ xs', IsMarked t' x) :
    List.Forall₂ (Piece.IsLike m (.ofText t) (.ofText t')) (xs.filterMap (pieceOf? t)) (xs'.filterMap (pieceOf? t')) := by
  induction h with
  | nil => exact .nil
  | @cons x x' xs xs' hx _ ih =>
    obtain ⟨hmarked, hxs⟩ := List.forall_mem_cons.1 hxs
    obtain ⟨hmarked', hxs'⟩ := List.forall_mem_cons.1 hxs'
    rw [List.filterMap_cons, List.filterMap_cons]
    cases hshown : x.kind.isShown with
    | false =>
      rw [pieceOf?_eq_none hshown, pieceOf?_eq_none (hx.isShown.trans hshown)]
      exact ih hxs hxs'
    | true =>
      obtain ⟨p, hp⟩ := exists_pieceOf? (t := t) hshown
      obtain ⟨p', hp'⟩ := exists_pieceOf? (t := t') (hx.isShown.trans hshown)
      rw [hp, hp']
      exact .cons (hx.isLike hmarked hmarked' hp hp') (ih hxs hxs')

/-- The tokens of a text that is read to its end are marked. -/
theorem isMarked_of_scanned {as : List Yaml.Arrival} {xs : List Token} (h : Yaml.Scanned t as xs) :
    ∀ x ∈ xs, IsMarked t x := by
  intro x hx
  have hends : ∀ m, IsMarked t (.mark0 .blockEnd m) := fun m => { start := nofun, bound := nofun }
  rw [h.tokens] at hx
  rcases List.mem_cons.1 hx with rfl | hx
  · exact { start := nofun, bound := nofun }
  · obtain ⟨a, ha, hx⟩ := List.mem_flatMap.1 hx
    rcases List.mem_append.1 hx with hx | hx
    · rw [List.eq_of_mem_replicate hx]
      exact hends _
    · rw [List.mem_singleton.1 hx]
      exact ⟨fun _ => h.marked a ha, h.bounded a ha⟩

end Tree

end YamlStyle
