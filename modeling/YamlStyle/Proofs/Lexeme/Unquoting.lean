import YamlStyle.Proofs.Lexeme.Extents
import YamlStyle.Proofs.Lexeme.Restyling
import YamlStyle.Proofs.Yaml.Fork.Stripping
import YamlStyle.Proofs.Yaml.Restyling

/-!
# A text without the quotes of a scalar

A text in which a quoted scalar stands for a plain text, outside flow collections and at the end of its line or of the
text, is accepted without the quotes as well, and has the same lexemes (`exists_unquoted`).
-/

namespace YamlStyle

open Yaml (EndsLine EventStream IsPlainIn Layout ReadsPlain Released ScalarStyle StartsQuoted Token TokenKind TokenStream)
open OffSide (lexeme)

variable {t : Text} {before after : List Lexeme} {x : Lexeme}

namespace Lexeme

/-! ## The token of a lexeme -/

/-- The token that a lexeme shows, among the tokens of a text. -/
structure Stems (t : Text) (before : List Lexeme) (x : Lexeme) (after : List Lexeme) (pre : List Released) (y : Released)
    (post : List Released) : Prop where
  piece : ∃ p, Tree.pieceOf? t y.token = some p ∧ x = lexeme (.ofText t) p ∧
    ∀ r ∈ pre, ∀ q, Tree.pieceOf? t r.token = some q → q.start ≤ p.start ∧ q.isSame p = false
  pre : before.filter (·.kind.isShown) = (pre.filterMap fun r => Tree.pieceOf? t r.token).map (lexeme (.ofText t))
  post : after.filter (·.kind.isShown) = (post.filterMap fun r => Tree.pieceOf? t r.token).map (lexeme (.ofText t))

theorem exists_stems {root : Node} {rs : List Released}
    (hpieces : root.pieces = rs.filterMap fun r => Tree.pieceOf? t r.token)
    (hxs : ofTree t root = before ++ x :: after) (hx : x.kind.isShown = true) :
    ∃ pre y post, rs = pre ++ y :: post ∧ Stems t before x after pre y post := by
  have hfilter := filter_ofTree t root
  rw [hxs, List.filter_append, List.filter_cons, if_pos hx] at hfilter
  obtain ⟨ps, qs, hps, hbefore, hrest⟩ := List.map_eq_append_iff.1 hfilter.symm
  obtain ⟨p, qs, rfl, rfl, hafter⟩ := List.map_eq_cons_iff.1 hrest
  obtain ⟨pre, more, rfl, hpre, hmore⟩ := List.filterMap_eq_append_iff.1 (hpieces.symm.trans hps)
  obtain ⟨skipped, y, post, rfl, hskipped, hy, hpost⟩ := List.filterMap_eq_cons_iff.1 hmore
  have hfirst : (pre ++ skipped).filterMap (fun r => Tree.pieceOf? t r.token) = ps := by
    rw [List.filterMap_append, hpre, List.filterMap_eq_nil_iff.2 hskipped, List.append_nil]
  refine ⟨pre ++ skipped, y, post, by simp, ⟨p, hy, rfl, fun r hr q hq => ?_⟩, by rw [hfirst, hbefore],
    by rw [hpost, hafter]⟩
  have hmem : q ∈ ps := hfirst ▸ List.mem_filterMap.2 ⟨r, hr, hq⟩
  have hsame : root.pieces.Pairwise fun p q => p.isSame q = false := Piece.distinct_pairwise [] _
  have hsorted := root.starts_sorted
  rw [hps, List.pairwise_append] at hsame hsorted
  exact ⟨hsorted.2.2 q hmem p (.head _), hsame.2.2 q hmem p (.head _)⟩

/-- A text that goes on with the end of a line starts with no quote. -/
theorem not_startsQuoted_of_endsLine {r : Text} (h : EndsLine r) : ¬StartsQuoted r := by
  obtain ⟨spaces, comment, feed, later, rfl, hline⟩ := h
  rintro ⟨ch, rest, hcons, hquote⟩
  have hhead : (spaces ++ (comment ++ (feed ++ later))).head? = some ch := by rw [hcons]; rfl
  cases hs : spaces with
  | cons x more =>
    rw [hs] at hhead
    obtain rfl : x = ch := Option.some.inj hhead
    rw [hline.blank x (by rw [hs]; exact .head _)] at hquote
    revert hquote
    decide
  | nil =>
    rcases hline.remark with rfl | ⟨hne, -⟩
    · rw [hs] at hhead
      have hbreak := (hline.startsBreak ch hhead).1
      rcases hquote with rfl | rfl <;> exact absurd hbreak (by decide)
    · exact absurd hs hne

/-- The token of a quoted scalar stands where the scalar does. -/
theorem Stems.quoted {pre post : List Released} {y : Released} (h : Stems t before x after pre y post) (hy : y.token.IsIn t)
    (hkind : x.kind = .scalar) (hquoted : x.style.any (·.isQuoted) = true) {value : String} (hvalue : x.value = some value)
    (hends : EndsLine (t.drop x.stop.offset)) : (∃ style, y.token.kind = .scalar value style) ∧
      y.token.start.offset = x.start.offset ∧ t.drop y.token.stop.offset = t.drop x.stop.offset ∧
      StartsQuoted (t.drop x.start.offset) := by
  obtain ⟨p, hp, rfl, -⟩ := h.piece
  obtain ⟨⟨kind, start, stop⟩, version⟩ := y
  have hshows := Tree.shows_of_pieceOf? hp
  obtain ⟨value', style, rfl⟩ : ∃ value' style, kind = .scalar value' style := by
    have : kind.lexemeKind = .scalar := hshows.kind.symm.trans hkind
    cases kind <;> first | exact ⟨_, _, rfl⟩ | cases this
  have hscalar := Tree.showsScalar_of_pieceOf? rfl hp
  obtain rfl : value' = value := Option.some.inj (hscalar.value.symm.trans hvalue)
  have hstart : p.start = start.offset := hshows.start
  -- The quote that opens it.
  have hopens : ∃ ch, t[start.offset]? = some ch ∧ (ch = '"' ∨ ch = '\'') := by
    have hstarts := hy.starts
    rcases hscalar.quoted hquoted with rfl | rfl
    · exact ⟨_, hstarts, .inr rfl⟩
    · exact ⟨_, hstarts, .inl rfl⟩
  obtain ⟨ch, hch, hquote⟩ := hopens
  obtain ⟨hlt, hget⟩ := List.getElem?_eq_some_iff.1 hch
  have hsource : StartsQuoted (t.drop p.start) :=
    ⟨ch, t.drop (start.offset + 1), by rw [hstart, List.drop_eq_getElem_cons hlt, hget], hquote⟩
  have hstop : p.stop = start.offset + (t.slice start.offset stop.offset).length := hscalar.stop
  have hopen : p.stop ≠ p.start := fun heq =>
    not_startsQuoted_of_endsLine hends (show StartsQuoted (t.drop p.stop) from heq ▸ hsource)
  rw [Text.slice, List.length_take, List.length_drop] at hstop
  refine ⟨⟨style, rfl⟩, hstart.symm, ?_, hsource⟩
  change t.drop stop.offset = t.drop p.stop
  by_cases hlt : p.stop < t.length
  · rw [show stop.offset = p.stop by omega]
  · rw [List.drop_eq_nil_of_le (by omega), List.drop_eq_nil_of_le (by omega)]

end Lexeme

/-! ## The text without the quotes -/

namespace Text.IsRegular

variable {a b : Text}

theorem append (ha : a.IsRegular) (hb : b.IsRegular) : (a ++ b : Text).IsRegular where
  unmarked h := (List.mem_append.1 h).elim ha.unmarked hb.unmarked
  returns i hi := by
    rw [List.getElem?_append] at hi ⊢
    split at hi
    · next hlt =>
      have hnext := ha.returns i hi
      rw [if_pos (List.getElem?_eq_some_iff.1 hnext).1]
      exact hnext
    · next hge =>
      rw [if_neg (by omega), Nat.sub_add_comm (Nat.le_of_not_lt hge)]
      exact hb.returns _ hi

theorem drop (h : t.IsRegular) (n : Nat) : Text.IsRegular (t.drop n) where
  unmarked hm := h.unmarked (List.mem_of_mem_drop hm)
  returns i hi := by
    rw [List.getElem?_drop] at hi ⊢
    exact h.returns _ hi

theorem take (h : t.IsRegular) {n : Nat} (hlast : (t.take n).getLast? ≠ some '\r') : Text.IsRegular (t.take n) where
  unmarked hm := h.unmarked (List.mem_of_mem_take hm)
  returns i hi := by
    have hi' := hi
    rw [List.getElem?_take] at hi ⊢
    split at hi
    · next hlt =>
      have hnext := h.returns i hi
      rw [if_pos, hnext]
      -- Else the return would be the last character.
      by_contra hge
      have hlength : (t.take n).length = i + 1 := by
        rw [List.length_take]
        have := (List.getElem?_eq_some_iff.1 hnext).1
        omega
      rw [List.getLast?_eq_getElem?, hlength] at hlast
      exact hlast hi'
    · cases hi

end Text.IsRegular

theorem Yaml.Lex.endsWord_of_mem_plainWord {place : PlainPlace} (hplace : place.inFlow = false) {r : Text} {ch : Char}
    (h : ch ∈ plainWord place r) : endsWord (some ch) = false := by
  induction r with
  | nil => cases h
  | cons c r ih =>
    rw [plainWord] at h
    split at h
    · next hgoes =>
      rcases List.mem_cons.1 h with rfl | h
      · rw [continuesPlain_of_block hplace] at hgoes
        simp only [Bool.and_eq_true, Bool.not_eq_true'] at hgoes
        exact hgoes.1
      · exact ih h
    · cases h

/-- No return and no line feed is in a plain text. -/
theorem Yaml.Lex.IsPlainText.unbroken {v : Text} (h : IsPlainText v) : ∀ ch ∈ v, ch ≠ '\n' ∧ ch ≠ '\r' := by
  have hword : ∀ {w : Text}, IsWord w → ∀ ch ∈ w, ch ≠ '\n' ∧ ch ≠ '\r' := by
    intro w hw ch hch
    rw [← hw.whole] at hch
    have := endsWord_of_mem_plainWord rfl hch
    constructor <;> (rintro rfl; cases this)
  induction h with
  | word hw => exact hword hw
  | spaces hw _ hgap _ ih =>
    refine List.forall_mem_append.2 ⟨List.forall_mem_append.2 ⟨hword hw, fun ch hch => ?_⟩, ih⟩
    rw [hgap ch hch]
    decide
  | breaks hw _ hgap _ _ ih =>
    refine List.forall_mem_append.2 ⟨List.forall_mem_append.2 ⟨hword hw, fun ch hch => ?_⟩, ih⟩
    rcases hgap ch hch with rfl | rfl <;> decide

/-! ## Tokens of the two texts -/

namespace Yaml

variable {base base' : Mark} {post post' : List Released}

theorem Abreast.append {rest rest' : List Released} (h : Abreast rest rest')
    (hhead : ∀ x ∈ rest.head?, ∀ x' ∈ rest'.head?, x'.token.start.line = x.token.start.line) (pre : List Released) :
    Abreast (pre ++ rest) (pre ++ rest') := by
  induction pre with
  | nil => exact h
  | cons r pre ih =>
    refine .cons ⟨.refl _, rfl⟩ (fun _ x hx x' hx' => ?_) ih
    cases pre with
    | nil => rw [hhead x hx x' hx']
    | cons y pre =>
      cases hx
      cases hx'
      exact Iff.rfl

theorem abreast_of_carried (h : List.Forall₂ (Carried base base') post post') : Abreast post post' := by
  induction h with
  | nil => exact .nil
  | @cons r r' rest rest' hr hrest ih =>
    refine .cons ⟨by rw [hr.kind]; exact .refl _, hr.version⟩ (fun _ x hx x' hx' => ?_) ih
    cases hrest with
    | nil => cases hx
    | cons hnext _ =>
      cases hx
      cases hx'
      obtain ⟨k, hk, hk'⟩ := hr.stop.line
      obtain ⟨l, hl, hl'⟩ := hnext.start.line
      omega

/-- The same tokens, but for a scalar that loses its quotes. -/
theorem abreast_of_plain {pre : List Released} {y : Released} {value : String} {style : ScalarStyle}
    (hy : y.token.kind = .scalar value style) (h : List.Forall₂ (Carried base base') post post') (stop : Mark) :
    Abreast (pre ++ y :: post) (pre ++ ⟨⟨.scalar value .plain, y.token.start, stop⟩, y.version⟩ :: post') := by
  have hlike : y.IsLike ⟨⟨.scalar value .plain, y.token.start, stop⟩, y.version⟩ := by
    refine ⟨?_, rfl⟩
    rw [hy]
    exact .scalar value style .plain
  refine (Abreast.cons hlike (fun hend => ?_) (abreast_of_carried h)).append (fun z hz z' hz' => ?_) pre
  · rw [hy] at hend
    cases hend
  · cases hz
    cases hz'
    rfl

end Yaml

namespace Tree

variable {t' : Text} {m : Move}

theorem slice_append_of_le {a b : Text} {i j : Nat} (h : j ≤ a.length) : Text.slice (a ++ b) i j = a.slice i j := by
  rw [Text.slice, Text.slice, List.drop_append, List.take_append, List.length_drop]
  have : j - i - (a.length - i) = 0 := by omega
  rw [this, List.take_zero, List.append_nil]

theorem moves_of_carried {base base' : Mark} {r r' : Released} (h : Yaml.Carried base base' r r')
    (hbase : m.base = base.offset) (hbase' : m.base' = base'.offset)
    (htext : t.drop base.offset = t'.drop base'.offset) : Moves m t t' r.token r'.token := by
  obtain ⟨k, hk, hk'⟩ := h.start.offset
  obtain ⟨l, hl, hl'⟩ := h.stop.offset
  refine ⟨fun _ => ?_, h.column, .inl ⟨⟨h.kind, fun _ => ?_⟩, fun _ => ?_⟩, fun _ => by omega⟩
  · rw [hk, hk', ← hbase, ← hbase']
    exact .after k
  · rw [hk, hk', hl, hl', slice_add, slice_add, htext]
  · have := m.lt_base
    omega

end Tree

/-! ## Lexemes of the two texts -/

namespace Lexeme

/-- A lexeme outside flow collections that comes after a space and ends its line or the text. No directive comes next. -/
structure EndsItsLine (t : Text) (before : List Lexeme) (x : Lexeme) (after : List Lexeme) : Prop where
  outside : (before.map (·.kind)).foldl Layout.depthAfter 0 = 0
  space : (t.take x.start.offset).getLast? = some ' '
  ends : EndsLine (t.drop x.stop.offset)
  next : ∀ y ∈ (after.filter (·.kind.isShown)).head?, y.kind ≠ .directive

/-- What does not show does not open or close flow collections. -/
theorem foldl_depthAfter_filter (xs : List Lexeme) (depth : Nat) :
    ((xs.filter (·.kind.isShown)).map (·.kind)).foldl Layout.depthAfter depth =
    (xs.map (·.kind)).foldl Layout.depthAfter depth := by
  induction xs generalizing depth with
  | nil => rfl
  | cons x xs ih =>
    rw [List.filter_cons]
    split
    · exact ih _
    · next hshown =>
      rw [ih, List.map_cons, List.foldl_cons]
      cases hk : x.kind <;> first | rfl | exact absurd (by rw [hk]; rfl) hshown

theorem flowDepth_eq_of_pieces {pre : List Released} (xs : List Lexeme)
    (h : xs.filter (·.kind.isShown) = (pre.filterMap fun r => Tree.pieceOf? t r.token).map (lexeme (.ofText t))) :
    Yaml.flowDepth (pre.map (·.token)) = (xs.map (·.kind)).foldl Layout.depthAfter 0 := by
  rw [← foldl_depthAfter_filter, h, List.map_map, Yaml.flowDepth, List.map_map]
  generalize 0 = depth
  clear h
  induction pre generalizing depth with
  | nil => rfl
  | cons r pre ih =>
    rw [List.map_cons, List.foldl_cons, List.filterMap_cons]
    cases hshown : r.token.kind.isShown with
    | false =>
      rw [Tree.pieceOf?_eq_none hshown]
      refine Eq.trans (congrArg (fun depth => List.foldl _ depth _) ?_) (ih depth)
      cases hk : r.token.kind <;> first | (simp only [Function.comp, hk]; rfl) | (rw [hk] at hshown; cases hshown)
    | true =>
      obtain ⟨p, hp⟩ := Tree.exists_pieceOf? (t := t) hshown
      rw [hp, List.map_cons, List.foldl_cons]
      have hkind : (lexeme (.ofText t) p).kind = r.token.kind.lexemeKind := (Tree.shows_of_pieceOf? hp).kind
      simp only [Function.comp, hkind]
      exact ih _

/-- What comes after a scalar that ends its line goes on with a block or ends a document. -/
theorem EndsItsLine.isCloser_of_mem (ht : t.IsRegular) (hf : (EventStream.ofText t).failure = none)
    {pre post : List Released}
    {y : Released} (htokens : (TokenStream.ofText t).tokens = pre ++ y :: post) (hstems : Stems t before x after pre y post)
    (hy : y.token.kind.lexemeKind = .scalar) (h : EndsItsLine t before x after) :
    ∀ kind ∈ Yaml.afterEnds post, kind.isCloser = true := by
  intro kind hkind
  have hmap : (TokenStream.ofText t).tokens.map (·.token) = pre.map (·.token) ++ y.token :: post.map (·.token) := by
    rw [htokens, List.map_append, List.map_cons]
  obtain ⟨n, m, z, rest, hpost, hz, hnext⟩ := Yaml.exists_next_of_scalar ht hf hmap hy
    ((flowDepth_eq_of_pieces before hstems.pre).trans h.outside)
  have hfind : Yaml.afterEnds post = some z.kind := by
    have hkinds : post.map (·.token.kind) = (post.map (·.token)).map (·.kind) := by rw [List.map_map]; rfl
    have hends : (List.replicate n TokenKind.blockEnd).find? (· != .blockEnd) = none := List.find?_eq_none.2 fun k hk => by
      rw [List.eq_of_mem_replicate hk]
      decide
    rw [Yaml.afterEnds, hkinds, hpost, List.map_append, List.map_replicate, Token.mark0, List.find?_append, hends,
      Option.none_or, List.map_cons, List.find?_cons_of_pos (by simpa using hz)]
  obtain rfl : z.kind = kind := Option.some.inj (hfind.symm.trans hkind)
  refine hnext.resolve_right ?_
  rintro ⟨d, hd⟩
  obtain ⟨q, hq⟩ := Tree.exists_pieceOf? (t := t) (x := z) (by rw [hd]; rfl)
  have hpieces : (post.filterMap fun r => Tree.pieceOf? t r.token) = q :: rest.filterMap (Tree.pieceOf? t) := by
    have hends : (List.replicate n (Token.mark0 .blockEnd m)).filterMap (Tree.pieceOf? t) = [] :=
      List.filterMap_eq_nil_iff.2 fun x hx => by
        rw [List.eq_of_mem_replicate hx]
        exact Tree.pieceOf?_eq_none rfl
    have hcomp : (post.filterMap fun r => Tree.pieceOf? t r.token) = (post.map (·.token)).filterMap (Tree.pieceOf? t) := by
      rw [List.filterMap_map]
      rfl
    rw [hcomp, hpost, List.filterMap_append, hends, List.nil_append, List.filterMap_cons, hq]
  have hafter := hstems.post
  rw [hpieces, List.map_cons] at hafter
  refine h.next (lexeme (.ofText t) q) (by rw [hafter]; rfl) ?_
  exact (Tree.shows_of_pieceOf? hq).kind.trans (by rw [hd]; rfl)

/-- Only one scalar starts where a scalar does. -/
theorem start_ne_of_scalar {root : Node} (hxs : ofTree t root = before ++ x :: after) (hx : x.kind = .scalar) :
    ∀ y ∈ before ++ after, y.kind = .scalar → y.start.offset ≠ x.start.offset := by
  have hfilter := filter_ofTree t root
  rw [hxs, List.filter_append, List.filter_cons, if_pos (by rw [hx]; rfl)] at hfilter
  have hpairwise : (root.pieces.map (lexeme (.ofText t))).Pairwise fun y z =>
      ¬(y.kind = z.kind ∧ y.start.offset = z.start.offset) :=
    List.pairwise_map.2 ((Piece.distinct_pairwise [] _).imp fun {p q} hpq hsame => by
      rw [Piece.isSame_iff.2 hsame] at hpq
      cases hpq)
  rw [← hfilter, List.pairwise_append, List.pairwise_cons] at hpairwise
  obtain ⟨-, ⟨hafter, -⟩, hbefore⟩ := hpairwise
  have hshown : ∀ {y : Lexeme}, y.kind = .scalar → y.kind.isShown = true := fun h => by rw [h]; rfl
  intro y hy hkind heq
  rcases List.mem_append.1 hy with hy | hy
  · exact hbefore y (List.mem_filter.2 ⟨hy, hshown hkind⟩) x (.head _) ⟨hkind.trans hx.symm, heq⟩
  · exact hafter y (List.mem_filter.2 ⟨hy, hshown hkind⟩) ⟨hx.trans hkind.symm, heq.symm⟩

/-- A text of allowed characters stays so, and regular, with a plain text in place of a part after a space. -/
theorem regular_allowed_of_plain {v : Text} {i j : Nat} (ht : t.IsRegular) (hallowed : ∀ ch ∈ t, Yaml.isAllowed ch = true)
    (hspace : (t.take i).getLast? = some ' ') (hcolumns : ∀ ch ∈ v, Yaml.Lex.TakesColumn ch)
    (hv : ∀ ch ∈ v, Yaml.isAllowed ch = true) : Text.IsRegular (t.take i ++ (v ++ t.drop j)) ∧
      ∀ ch ∈ t.take i ++ (v ++ t.drop j), Yaml.isAllowed ch = true := by
  have hplain : v.IsRegular := .of_not_mem (fun hm => (hcolumns _ hm).2.2 rfl) fun hm => (hcolumns _ hm).2.1 rfl
  refine ⟨(ht.take (by rw [hspace]; decide)).append (hplain.append (ht.drop j)), ?_⟩
  refine List.forall_mem_append.2 ⟨fun ch hch => hallowed ch (List.mem_of_mem_take hch), ?_⟩
  exact List.forall_mem_append.2 ⟨hv, fun ch hch => hallowed ch (List.mem_of_mem_drop hch)⟩

theorem length_take_of_startsQuoted {n : Nat} (h : StartsQuoted (t.drop n)) : (t.take n).length = n := by
  obtain ⟨ch, r, hr, -⟩ := h
  have := congrArg List.length hr
  rw [List.length_drop, List.length_cons] at this
  rw [List.length_take]
  omega

/-- The token of a scalar that ends its line ends it as well. -/
theorem EndsItsLine.token (ht : t.IsRegular) (hf : (EventStream.ofText t).failure = none) {pre post : List Released}
    {y : Released} (hstream : TokenStream.ofText t = ⟨pre ++ y :: post, none⟩) (hstems : Stems t before x after pre y post)
    (h : EndsItsLine t before x after) (hscalar : y.token.kind.lexemeKind = .scalar)
    (hstart : y.token.start.offset = x.start.offset) (hstop : t.drop y.token.stop.offset = t.drop x.stop.offset)
    (hopens : StartsQuoted (t.drop x.start.offset)) :
    Yaml.EndsItsLine t (t.take x.start.offset) (t.drop x.start.offset) pre y post where
  text := (List.take_append_drop _ _).symm
  space := h.space
  quoted := hopens
  drains := (TokenStream.ofText_eq_iff ht (TokenStream.allowed_of_ofText (by rw [hstream]))).1 hstream
  fresh hmem := by
    obtain ⟨p, hp, -, hpre⟩ := hstems.piece
    obtain ⟨r, hr, heq⟩ := List.mem_map.1 hmem
    have := (hpre r hr p (by rw [heq]; exact hp)).2
    rw [Piece.isSame_refl] at this
    cases this
  scalar := hscalar
  start := by rw [hstart, length_take_of_startsQuoted hopens]
  outside := (flowDepth_eq_of_pieces before hstems.pre).trans h.outside
  ends := by rw [hstop]; exact h.ends
  next := h.isCloser_of_mem ht hf (by rw [hstream]) hstems hscalar

/-- What comes before a scalar stays where it is, whatever follows it. -/
theorem Stems.moves {pre post : List Released} {y : Released} (h : Stems t before x after pre y post)
    (hkind : x.kind = .scalar)
    {m : Move} (hm : m.fixed = x.start.offset) (hopens : StartsQuoted (t.drop x.start.offset)) (later : Text)
    (hpast : ∀ r ∈ pre, r.token.kind.lexemeKind = .tag ∨ r.token.kind.lexemeKind = .directive →
      r.token.stop.offset ≤ x.start.offset) :
    ∀ r ∈ pre, Tree.Moves m t (t.take x.start.offset ++ later) r.token r.token := by
  obtain ⟨p, -, hx, hpre⟩ := h.piece
  have hscalar : p.kind = .scalar := by rw [← hkind, hx]; rfl
  have hstart : p.start = x.start.offset := by rw [hx]; rfl
  intro r hr
  have hpiece := hpre r hr
  rw [hstart] at hpiece
  refine ⟨fun hshown => ?_, fun _ => rfl, .inl ⟨⟨rfl, fun hspelled => ?_⟩, fun hother heq => ?_⟩, fun _ => Iff.rfl⟩
  · obtain ⟨q, hq⟩ := Tree.exists_pieceOf? (t := t) hshown
    refine .before ?_
    rw [hm, ← (Tree.shows_of_pieceOf? hq).start]
    exact (hpiece q hq).1
  · have hle : r.token.stop.offset ≤ (t.take x.start.offset).length := by
      rw [length_take_of_startsQuoted hopens]
      exact hpast r hr hspelled
    rw [Tree.slice_append_of_le hle, ← Tree.slice_append_of_le hle (b := t.drop x.start.offset), List.take_append_drop]
  -- Another scalar does not start there.
  · obtain ⟨q, hq⟩ := Tree.exists_pieceOf? (t := t) (x := r.token) (by
      cases hk : r.token.kind <;> rw [hk] at hother <;> first | rfl | cases hother)
    have hshows := Tree.shows_of_pieceOf? hq
    have hsame := (hpiece q hq).2
    rw [Piece.isSame_iff.2 ⟨hshows.kind.trans (hother.trans hscalar.symm),
      hshows.start.trans (heq.trans (hm.trans hstart.symm))⟩] at hsame
    cases hsame

/-- An accepted text has a tree of marked tokens. -/
theorem exists_tree (ht : t.IsRegular) (hf : (EventStream.ofText t).failure = none) :
    (TokenStream.ofText t).failure = none ∧ (∀ x ∈ (TokenStream.ofText t).tokens.map (·.token), Tree.IsMarked t x) ∧
      ∃ root, (ofText t).outcome = .ok (ofTree t root) ∧
        root.pieces = ((TokenStream.ofText t).tokens.map (·.token)).filterMap (Tree.pieceOf? t) := by
  obtain ⟨hnone, as, hscanned, -⟩ := Yaml.scanned_of_events ht hf
  obtain ⟨root, hroot, hpieces⟩ := Tree.pieces_build hnone hscanned hscanned.fits
  refine ⟨hnone, Tree.isMarked_of_scanned hscanned, root, by rw [ofText, hroot]; rfl, ?_⟩
  rw [hpieces, ← Tree.filterMap_pieceOf?, ← hscanned.tokens]

/-- Without its quotes a scalar that ends its line leaves an accepted text with the same lexemes. -/
theorem exists_unquoted (ht : t.IsRegular) (hf : (EventStream.ofText t).failure = none)
    (hxs : (ofText t).outcome = .ok (before ++ x :: after)) (h : EndsItsLine t before x after) (hkind : x.kind = .scalar)
    (hquoted : x.style.any (·.isQuoted) = true) {value : String} (hvalue : x.value = some value)
    (hplain : ReadsPlain value.toList) (hallowed : ∀ ch ∈ value.toList, Yaml.isAllowed ch = true) :
    (EventStream.ofText (t.take x.start.offset ++ (value.toList ++ t.drop x.stop.offset))).failure = none ∧
      ∃ ys m, (ofText (t.take x.start.offset ++ (value.toList ++ t.drop x.stop.offset))).outcome = .ok ys ∧
        m.fixed = x.start.offset ∧ List.Forall₂ (IsLike m) (before ++ x :: after) ys := by
  obtain ⟨hnone, hmarked, root, hroot, hpieces⟩ := exists_tree ht hf
  have htree : ofTree t root = before ++ x :: after := Except.ok.inj (hroot.symm.trans hxs)
  obtain ⟨pre, y, post, htokens, hstems⟩ :=
    exists_stems (hpieces.trans List.filterMap_map) htree (by rw [hkind]; rfl)
  have hy : y ∈ (TokenStream.ofText t).tokens := by rw [htokens]; simp
  obtain ⟨⟨style, hscalar⟩, hstart, hstop, hopens⟩ := hstems.quoted (Yaml.isIn_of_mem_ofText hy) hkind hquoted hvalue h.ends
  have hstream : TokenStream.ofText t = ⟨pre ++ y :: post, none⟩ := by
    rw [← htokens, ← hnone]
  -- The tokens without the quotes.
  obtain ⟨base, base', stop, post', hdrains, hcarried, hbase, hbase', hsame, hpast⟩ :=
    (h.token ht hf hstream hstems (by rw [hscalar]; rfl) hstart hstop hopens).exists_drains ht hplain
  rw [hstop] at hdrains hsame
  rw [length_take_of_startsQuoted hopens] at hbase hbase' hpast
  rw [String.ofList_toList] at hdrains
  obtain ⟨ht', hallowed'⟩ := regular_allowed_of_plain (j := x.stop.offset) ht (TokenStream.allowed_of_ofText hnone) h.space
    hplain.columns hallowed
  have hstream' := (TokenStream.ofText_eq_iff ht' hallowed').2 hdrains
  have hf' := EventStream.failure_ofText hstream hstream' (Yaml.abreast_of_plain hscalar hcarried stop) hf
  refine ⟨hf', ?_⟩
  -- The lexemes without the quotes.
  obtain ⟨-, hmarked', root', hroot', hpieces'⟩ := exists_tree ht' hf'
  refine ⟨_, ⟨x.start.offset, base.offset, base'.offset, hbase, hbase'⟩, hroot', rfl, ?_⟩
  rw [← htree]
  refine forall₂_ofTree ?_
  rw [hpieces, hpieces']
  refine Tree.forall₂_filterMap_pieceOf? ?_ hmarked hmarked'
  rw [hstream, hstream']
  simp only [List.map_append, List.map_cons]
  refine List.rel_append ?_ (.cons ?_ ?_)
  · exact List.forall₂_map_left_iff.2 (List.forall₂_map_right_iff.2
      (List.forall₂_same.2 (hstems.moves hkind rfl hopens _ hpast)))
  · refine ⟨fun _ => .before (Nat.le_of_eq hstart), fun _ => rfl, .inr ⟨⟨value, style, hscalar, rfl⟩, hstart⟩, fun hkey => ?_⟩
    rw [hscalar] at hkey
    cases hkey
  · exact List.forall₂_map_left_iff.2 (List.forall₂_map_right_iff.2 (hcarried.imp fun r r' hr =>
      Tree.moves_of_carried hr rfl rfl hsame))

end Lexeme

end YamlStyle
