import YamlStyle.Proofs.Yaml.Fork.Seam
import YamlStyle.Proofs.Yaml.Levels

/-!
# A scalar without its quotes

Where a quoted scalar ends its line outside flow collections, and stands for a plain text, a text has the same tokens
without the quotes.
-/

namespace YamlStyle.Yaml

open Scan Fork

/-! ## Depths -/

theorem Sound.flowDepth_eq {t : Text} {released : List Token} {as : List Arrival} {n : Nat} {s : TokenReader}
    (h : Sound t released as n s) : flowDepth (released ++ s.queue) = s.flow.length := by
  have hends : ∀ depth, ((List.replicate n (Token.mark0 .blockEnd s.cursor.mark)).map (·.kind.lexemeKind)).foldl
      Layout.depthAfter depth = depth := by
    intro depth
    rw [List.map_replicate]
    exact foldl_blockEnds n depth
  rw [flowDepth, h.tokens, List.map_cons, List.map_append, List.foldl_cons, List.foldl_append, hends, ← h.depth]
  exact foldl_tokens .start as

theorem flowDepth_filter (xs : List Token) : flowDepth (xs.filter Token.isFirm) = flowDepth xs := by
  have hall : ∀ depth, ((xs.filter Token.isFirm).map (·.kind.lexemeKind)).foldl Layout.depthAfter depth =
      (xs.map (·.kind.lexemeKind)).foldl Layout.depthAfter depth := by
    induction xs with
    | nil => exact fun _ => rfl
    | cons x xs ih =>
      intro depth
      rw [List.filter_cons]
      split
      · exact ih _
      · next hloose =>
        have hkind : x.kind = .key ∨ x.kind = .blockMappingStart := by
          simpa [Token.isFirm, or_iff_not_imp_left] using hloose
        rw [ih, List.map_cons, List.foldl_cons]
        rcases hkind with hkind | hkind <;> rw [hkind] <;> rfl
  exact hall 0

/-! ## Lists -/

theorem append_cons_inj_of_not_mem {α : Type} {x : α} {l l' m m' : List α} (hl : x ∉ l) (hm : x ∉ m)
    (h : l ++ x :: l' = m ++ x :: m') : l = m ∧ l' = m' := by
  rcases List.append_eq_append_iff.1 h with ⟨ys, hys, heq⟩ | ⟨ys, hys, heq⟩
  · cases ys with
    | nil => exact ⟨by rw [hys, List.append_nil], (List.cons.inj heq).2⟩
    | cons y ys =>
      rw [(List.cons.inj heq).1] at hm
      exact absurd (by rw [hys]; simp) hm
  · cases ys with
    | nil => exact ⟨by rw [hys, List.append_nil], (List.cons.inj heq).2.symm⟩
    | cons y ys =>
      rw [(List.cons.inj heq).1] at hl
      exact absurd (by rw [hys]; simp) hl

/-! ## Scalars -/

/-- A quoted scalar outside flow collections that comes after a space and ends its line; what comes next begins nothing. -/
structure EndsItsLine (t p left : Text) (pre : List Released) (y : Released) (post : List Released) : Prop where
  text : t = p ++ left
  space : p.getLast? = some ' '
  quoted : StartsQuoted left
  drains : Drains (.start t) (pre ++ y :: post)
  fresh : y.token ∉ pre.map (·.token)
  scalar : y.token.kind.lexemeKind = .scalar
  start : y.token.start.offset = p.length
  outside : flowDepth (pre.map (·.token)) = 0
  ends : EndsLine (t.drop y.token.stop.offset)
  next : ∀ kind ∈ afterEnds post, kind.isCloser = true

/-- The same token at another place. -/
structure Carried (base base' : Mark) (r r' : Released) : Prop where
  kind : r'.token.kind = r.token.kind
  start : Moved base base' r.token.start r'.token.start
  column : r.token.kind.isShown = true → r'.token.start.column = r.token.start.column
  stop : Moved base base' r.token.stop r'.token.stop
  version : r'.version = r.version

/-- The ends of a text at another place. -/
theorem carried_endTokens {s s' : TokenReader} {m m' : Mark} (hindent : s'.indent = s.indent)
    (hindents : s'.indents = s.indents) (version : Version) :
    List.Forall₂ (Carried m m') ((endTokens s m).map (⟨·, version⟩)) ((endTokens s' m').map (⟨·, version⟩)) := by
  have hend : ∀ kind : TokenKind, kind.isShown = false →
      Carried m m' ⟨.mark0 kind m, version⟩ ⟨.mark0 kind m', version⟩ := fun kind hkind =>
    ⟨rfl, .refl m m', fun hshown => (by rw [show kind.isShown = true from hshown] at hkind; cases hkind), .refl m m', rfl⟩
  rw [endTokens, endTokens, hindent, hindents, List.map_append, List.map_append, List.map_replicate, List.map_replicate]
  refine List.rel_append ?_ (.cons (hend _ rfl) .nil)
  generalize openBlocks s.indent s.indents = n
  induction n with
  | zero => exact .nil
  | succ n ih => exact .cons (hend _ rfl) ih

variable {t p left right v : Text} {pre post : List Released} {y : Released}

theorem twins_start (hl : StartsQuoted left) (hr : StartsWord right) (hspace : p.getLast? = some ' ') :
    (parting left right hl hr).Twins [] [] (.start (p ++ left)) (.start (p ++ right)) where
  cursor := ⟨p, rfl, rfl, .inr fun ch hch => by rw [hspace] at hch; exact (Option.some.inj hch).symm,
    (fun hnil => by rw [hnil] at hspace; cases hspace), rfl⟩
  flow := rfl
  indent := rfl
  indents := rfl
  keyAllowed := rfl
  keys := .nil
  fresh := fun x hx => by cases hx
  queue := ⟨_, _, rfl, rfl, .cons ⟨rfl, rfl, rfl⟩ .nil⟩
  taken := rfl
  last := rfl
  version := rfl
  done := rfl

theorem eq_of_sameToken {hl : StartsQuoted left} {hr : StartsWord right} {x x' : Token}
    (h : (parting left right hl hr).SameToken x x') : x' = x := by
  obtain ⟨hkind, hstart, hstop⟩ := h
  obtain ⟨kind, start, stop⟩ := x
  obtain ⟨kind', start', stop'⟩ := x'
  exact congr (congr (congrArg Token.mk hkind) hstart) hstop

/-! ## The scalar with its quotes -/

/-- Two readers at the scalars with which their texts part, of which the first is the token of `y`. -/
structure Parted (hl : StartsQuoted left) (hr : StartsWord right) (t : Text) (start : TokenReader) (pre : List Released)
    (y : Released) (post : List Released) (a b a' b' saved r : TokenReader) (c : Cursor)
    (earlier earlier' rest : List Released) : Prop where
  split : pre ++ y :: post = earlier ++ rest
  fresh : y.token ∉ pre.map (·.token)
  scalar : y.token.kind.lexemeKind = .scalar
  crosses : (parting left right hl hr).Crosses t [] start a b r earlier earlier' rest
  quoted : (parting left right hl hr).Quoted t ([] ++ earlier.map (·.token)) a b a' b' saved r y.token c

theorem EndsItsLine.exists_parted (ht : t.IsRegular) (h : EndsItsLine t p left pre y post) (hr : StartsWord right) :
    ∃ a b a' b' saved r c earlier earlier' rest,
      Parted h.quoted hr t (.start (p ++ right)) pre y post a b a' b' saved r c earlier earlier' rest ∧
      a.cursor.rest = left ∧ a.cursor.mark.offset = p.length := by
  obtain ⟨htext, hspace, hquoted, hdrains, hfresh, hscalar, hstart, -, -, -⟩ := h
  let F := parting left right hquoted hr
  have hne : F.left ≠ [] := hquoted.ne_nil
  have hcount : t.length = p.length + F.left.length := by rw [htext, List.length_append]; rfl
  have htwins : F.Twins [] [] (.start t) (.start (p ++ right)) := by
    have := twins_start hquoted hr hspace
    rwa [← htext] at this
  obtain ⟨a, b, r, earlier, earlier', rest, hsplit, hcross⟩ := exists_crosses ht hne hdrains htwins (Sound.start t)
    (fun x hx hw => by rw [List.mem_singleton.1 hx] at hw; rcases hw with hw | hw <;> cases hw)
    (x := y) (by simp) hscalar (by omega)
  obtain ⟨as, hsound⟩ := hcross.sound
  obtain ⟨a', b', saved, x, c, hq⟩ := exists_quoted hcross.twins hne hcross.left hsound hcross.fetch
  have hrest : a.cursor.rest ≠ [] := by rw [hcross.left]; exact hne
  have hat : a.cursor.mark.offset = p.length := by
    have hlength := congrArg List.length hcross.left
    rw [hsound.cursor.rest, List.length_drop] at hlength
    have := List.length_pos_iff.2 hne
    omega
  -- The scalar has not been handed out before.
  have hy : y ∈ rest := by
    have hmem : y ∈ earlier ++ rest := hsplit ▸ List.mem_append_right _ (.head _)
    refine (List.mem_append.1 hmem).resolve_left fun hold => ?_
    have := hsound.start_lt (List.mem_append_left _ (List.mem_append_right [] (List.mem_map_of_mem hold))) hscalar
    omega
  obtain rfl : y.token = x := hq.eq_of_start ht hcross.drains hy hscalar (by omega) hrest
  exact ⟨a, b, a', b', saved, r, c, earlier, earlier', rest, ⟨hsplit, hfresh, hscalar, hcross, hq⟩, hcross.left, hat⟩

namespace Parted

variable {hl : StartsQuoted left} {hr : StartsWord right} {start a b a' b' saved r : TokenReader} {c : Cursor}
  {earlier earlier' rest later : List Released}
  (h : Parted hl hr t start pre y post a b a' b' saved r c earlier earlier' rest)

include h

theorem queue : r.queue = a'.queue ++ [y.token] := by rw [h.quoted.read]

theorem indent_eq : r.indent = a'.indent := by
  obtain ⟨keys, hsaved, -⟩ := eq_of_saveKey h.quoted.save
  rw [h.quoted.read, hsaved]

theorem not_mem : y.token ∉ earlier.map (·.token) ++ a'.queue := fun hmem => by
  obtain ⟨as, n, hsound⟩ := h.quoted.sound
  have := hsound.start_lt hmem h.scalar
  rw [h.quoted.cursor, h.quoted.start] at this
  omega

/-- In no flow collection the scalar is read if what comes before it leaves none open. -/
theorem flow (houtside : flowDepth (pre.map (·.token)) = 0) : a.flow = [] := by
  have hfirm : y.token.isFirm = true := by
    have hscalar := h.scalar
    cases hkind : y.token.kind <;> rw [hkind] at hscalar <;> first | (simp [Token.isFirm, hkind]; done) | cases hscalar
  obtain ⟨more, hmore⟩ := h.crosses.drains.firm
  -- Keys and mappings apart, the same tokens come before the scalar.
  have htokens := congrArg (fun rs => (rs.map (·.token)).filter Token.isFirm) h.split
  simp only [List.map_append, List.map_cons, List.filter_append, ← hmore, h.queue, List.filter_cons_of_pos hfirm,
    List.filter_nil, List.append_assoc, List.singleton_append] at htokens
  rw [← List.append_assoc, ← List.filter_append] at htokens
  have hsame := (append_cons_inj_of_not_mem (fun hmem => h.fresh (List.mem_of_mem_filter hmem))
    (fun hmem => h.not_mem (List.mem_of_mem_filter hmem)) htokens).1
  obtain ⟨as, n, hsound⟩ := h.quoted.sound
  have hdepth := hsound.flowDepth_eq
  rw [← flowDepth_filter, List.nil_append, ← hsame, flowDepth_filter, houtside] at hdepth
  rw [← h.quoted.flow]
  exact List.length_eq_zero_iff.1 hdepth.symm

theorem length (hfirst : r.queue <+: rest.map (·.token)) : pre.length = earlier.length + a'.queue.length := by
  obtain ⟨more, hmore⟩ := hfirst
  have htokens := congrArg (List.map (·.token)) h.split
  rw [List.map_append, List.map_cons, List.map_append, ← hmore, h.queue, List.append_assoc, List.singleton_append,
    ← List.append_assoc] at htokens
  have := congrArg List.length (append_cons_inj_of_not_mem h.fresh h.not_mem htokens).1
  simpa using this

theorem drop_eq (hfirst : r.queue <+: rest.map (·.token)) : rest.drop r.queue.length = post := by
  have hdrop := congrArg (List.drop (pre.length + 1)) h.split
  rw [List.drop_length_add_append, List.drop_succ_cons, List.drop_zero, h.length hfirst, Nat.add_assoc,
    List.drop_length_add_append] at hdrop
  rw [hdrop, h.queue, List.length_append]
  rfl

theorem split_eq (hrest : rest = r.queue.map (⟨·, r.version⟩) ++ later) :
    pre = earlier ++ a'.queue.map (⟨·, r.version⟩) ∧ y.version = r.version ∧ post = later := by
  have hlength := h.length ⟨later.map (·.token), by rw [hrest, List.map_append, Released.map_token]⟩
  have hsplit := h.split
  rw [hrest, h.queue, List.map_append, List.append_assoc, ← List.append_assoc] at hsplit
  obtain ⟨hpre, hcons⟩ := List.append_inj hsplit (by rw [List.length_append, List.length_map, hlength])
  obtain ⟨hversion, hpost⟩ := List.cons.inj hcons
  exact ⟨hpre, congrArg Released.version hversion, hpost⟩

theorem earlier_eq : earlier' = earlier := by
  refine (List.forall₂_eq_eq_eq ▸ h.crosses.same.imp fun x x' hx => ?_ : earlier = earlier').symm
  obtain ⟨token, version⟩ := x
  obtain ⟨token', version'⟩ := x'
  obtain ⟨htoken, hversion⟩ := hx
  cases hversion
  exact congrArg (Released.mk · version) (eq_of_sameToken htoken).symm

theorem queue_eq : b'.queue = a'.queue := by
  obtain ⟨new, new', hnew, hnew', hall⟩ := h.quoted.twins.queue
  rw [hnew, hnew', List.nil_append, List.nil_append]
  exact (List.forall₂_eq_eq_eq ▸ hall.imp fun x x' hx => (eq_of_sameToken hx).symm : new = new').symm

/-- Tags and directives that come before the scalar stop before it. -/
theorem stop_le (hpre : pre = earlier ++ a'.queue.map (⟨·, r.version⟩)) :
    ∀ x ∈ pre, x.token.kind.lexemeKind = .tag ∨ x.token.kind.lexemeKind = .directive →
      x.token.stop.offset ≤ a.cursor.mark.offset := by
  have hpast := h.crosses.past
  intro x hx hw
  rw [hpre] at hx
  rcases List.mem_append.1 hx with hx | hx
  · exact hpast _ (List.mem_append_left _ (List.mem_append_right _ (List.mem_map_of_mem hx))) hw
  · obtain ⟨token, htoken, rfl⟩ := List.mem_map.1 hx
    obtain ⟨n, m, hends⟩ := h.quoted.ends
    rw [hends] at htoken
    rcases List.mem_append.1 htoken with htoken | htoken
    · exact hpast _ (List.mem_append_right _ htoken) hw
    · obtain rfl := List.eq_of_mem_replicate htoken
      rcases hw with hw | hw <;> cases hw

/-- The scalar takes up characters of its text. -/
theorem offset_lt (ht : t.IsRegular) (hleft : a.cursor.rest ≠ []) : a.cursor.mark.offset < c.mark.offset := by
  obtain ⟨as, hsound⟩ := h.crosses.sound
  obtain ⟨k, rfl⟩ := h.quoted.isOn
  have := (hsound.cursor.skip ht (k + 1)).2
  have := List.length_pos_iff.2 hleft
  omega

/-! ## The scalar without its quotes -/

variable {spaces comment feed more : Text}

section

variable {saved' r' : TokenReader} {v : Text} {stop : Mark} {afterBreak : Bool} {e : Cursor}
  (hbare : (parting left right hl hr).Bare a b b' saved saved' r' v stop afterBreak e)

include hbare

/-- The readers have as much open after the scalars, and the same keys. -/
theorem same_bare : r'.indent = r.indent ∧ r'.indents = r.indents ∧ r'.version = r.version ∧
    r'.taken + r'.queue.length = r.taken + r.queue.length ∧
    ((∀ k ∈ r.keys, k.2.required = false) → ∀ k ∈ r'.keys, k.2.required = false) := by
  have htwins := hbare.twins
  rw [hbare.read, h.quoted.read]
  refine ⟨htwins.indent, htwins.indents, htwins.version, ?_, fun hall k hk => ?_⟩
  · have := htwins.taken
    rw [h.queue_eq]
    simp only [List.length_append, List.length_cons, List.length_nil, Nat.add_zero] at this ⊢
    rw [this]
  · obtain ⟨k', hk', hkeys⟩ := exists_left_of_mem htwins.keys hk
    rw [hkeys.required]
    exact hall k' hk'

/-- What is handed out after the scalars. -/
theorem drains_bare {later' : List Released} (hrest : rest = r.queue.map (⟨·, r.version⟩) ++ later)
    (hdrains : Drains r' (r'.queue.map (⟨·, r.version⟩) ++ later')) : post = later ∧
      pre = earlier ++ a'.queue.map (⟨·, r.version⟩) ∧
      Drains start (pre ++ ⟨⟨.scalar (String.ofList v) .plain, y.token.start, stop⟩, y.version⟩ :: later') := by
  have hall := h.crosses.back r' _ hbare.fetch hdrains
  obtain ⟨hpre, hversion, hpost⟩ := h.split_eq hrest
  refine ⟨hpost, hpre, ?_⟩
  rw [h.earlier_eq, hbare.read] at hall
  simp only [hpre, h.queue_eq, List.map_append, List.map_cons, List.map_nil, List.append_assoc, List.cons_append,
    List.nil_append] at hall ⊢
  rwa [hversion, h.quoted.start]

end

/-- With `v` in place of the quoted scalar the same tokens come, those after it from the places where the line ends. -/
structure Strips (_ : Parted hl hr t start pre y post a b a' b' saved r c earlier earlier' rest)
    (v spaces comment feed : Text) (base base' stop : Mark) (post' : List Released) : Prop where
  drains : Drains start (pre ++ ⟨⟨.scalar (String.ofList v) .plain, y.token.start, stop⟩, y.version⟩ :: post')
  carried : List.Forall₂ (Carried base base') post post'
  pre_eq : pre = earlier ++ a'.queue.map (⟨·, r.version⟩)
  base : base.offset = c.mark.offset + (spaces.length + (comment.length + feed.length))
  base' : base'.offset = a.cursor.mark.offset + v.length + (spaces.length + (comment.length + feed.length))

/-- If more lines come the readers go on alike. -/
theorem exists_strips_line (ht : t.IsRegular) (hflow : a.flow = []) (hline : LineEnd spaces comment feed more)
    (hfeed : feed ≠ []) (hc : c.rest = spaces ++ (comment ++ (feed ++ more))) (hright : right = v ++ c.rest)
    (hv : ReadsPlain v) (hnext : ∀ kind ∈ afterEnds post, kind.isCloser = true) :
    ∃ base base' stop post', h.Strips v spaces comment feed base base' stop post' := by
  have hleft : a.cursor.rest = left := h.crosses.left
  have hne := hl.ne_nil
  obtain ⟨g, hleaves, hgap⟩ := h.quoted.exists_leavesLine ht hflow (hleft ▸ hne) hline hfeed hc
  have hfirst := hleaves.queue_prefix h.crosses.drains
  obtain ⟨hdirective, hshallow⟩ := hleaves.next_of_isCloser h.crosses.drains (by rwa [h.drop_eq hfirst])
  rw [h.indent_eq] at hshallow
  obtain ⟨saved', r', stop, afterBreak, e, hbare, g', base, base', hb, hb', hleaves', hbeside, hbase, hbase'⟩ :=
    h.quoted.exists_bare_line (fun _ _ h => h) hne hleft hflow hline hfeed hc hgap hright hv hshallow
  obtain ⟨hindent, hindents, hversion, htaken, hfree⟩ := h.same_bare hbare
  obtain ⟨later, later', hrest, hdrains, hcarried⟩ := Fork.exists_drains_next
    (F := shift base base' hb hb') rfl hleaves hleaves' hbeside hindent hindents hversion htaken hfree hdirective
    h.crosses.drains
  obtain ⟨rfl, hpre, hall⟩ := h.drains_bare hbare hrest hdrains
  exact ⟨base, base', stop, later', hall, hcarried.imp fun x x' hx =>
    ⟨hx.token.kind, hx.token.start.toMoved, fun _ => hx.token.start.column, hx.token.stop.toMoved, hx.version⟩,
    hpre, hbase, hbase'⟩

/-- At the end of the text only ends come. -/
theorem exists_strips_end (ht : t.IsRegular) (hflow : a.flow = []) (hline : LineEnd spaces comment feed more)
    (hfeed : feed = []) (hc : c.rest = spaces ++ (comment ++ (feed ++ more))) (hright : right = v ++ c.rest)
    (hv : ReadsPlain v) :
    ∃ base base' stop post', h.Strips v spaces comment feed base base' stop post' := by
  have hleft : a.cursor.rest = left := h.crosses.left
  have hne := hl.ne_nil
  obtain ⟨g, allowed, hgap⟩ := exists_gap c false
  obtain ⟨hg, -⟩ := hline.gap_end hfeed hc hgap
  have hpeek := hline.peek_next hfeed hc
  rw [← hg] at hpeek
  obtain ⟨hall, hrest⟩ := (h.quoted.leaves ht hflow (hleft ▸ hne) hgap).eq_of_drains_end hpeek (h.quoted.loneKey hflow)
    h.crosses.drains
  obtain ⟨saved', r', stop, afterBreak, e, hbare, g', allowed', hleaves', hpeek', hbase'⟩ :=
    h.quoted.exists_bare_end (fun _ _ h => h) hne hleft hflow hline hfeed hc hright hv
  obtain ⟨hindent, hindents, hversion, -, hfree⟩ := h.same_bare hbare
  have hdrains := hleaves'.drains_end hpeek' (hfree hall)
  rw [hversion, List.map_append] at hdrains
  rw [List.map_append] at hrest
  obtain ⟨hpost, hpre, hall⟩ := h.drains_bare hbare hrest hdrains
  refine ⟨g.mark, g'.mark, stop, _, hall, ?_, hpre, ?_, hbase'⟩
  · rw [hpost]
    exact carried_endTokens hindent hindents _
  · rw [hg, LineEnd.offset_next hc]

end Parted

/-- Without its quotes a scalar that ends its line is followed by the same tokens. -/
theorem EndsItsLine.exists_drains (ht : t.IsRegular) (h : EndsItsLine t p left pre y post) (hv : ReadsPlain v) :
    ∃ base base' stop post', Drains (.start (p ++ (v ++ t.drop y.token.stop.offset)))
        (pre ++ ⟨⟨.scalar (String.ofList v) .plain, y.token.start, stop⟩, y.version⟩ :: post') ∧
      List.Forall₂ (Carried base base') post post' ∧ p.length < base.offset ∧ p.length < base'.offset ∧
      t.drop base.offset = (p ++ (v ++ t.drop y.token.stop.offset)).drop base'.offset ∧
      ∀ r ∈ pre, r.token.kind.lexemeKind = .tag ∨ r.token.kind.lexemeKind = .directive → r.token.stop.offset ≤ p.length := by
  obtain ⟨a, b, a', b', saved, r, c, earlier, earlier', rest, hparted, hleft, hat⟩ :=
    h.exists_parted ht (hv.startsWord (t.drop y.token.stop.offset))
  obtain ⟨spaces, comment, feed, more, hmore, hline⟩ := h.ends
  have hrest : c.rest = t.drop y.token.stop.offset := by
    obtain ⟨as, hsound⟩ := hparted.crosses.sound
    obtain ⟨k, hk⟩ := hparted.quoted.isOn
    rw [hparted.quoted.stop, hk]
    exact (hsound.cursor.skip ht (k + 1)).1.rest
  have hflow := hparted.flow h.outside
  obtain ⟨base, base', stop, post', hdrains, hcarried, hpre, hbase, hbase'⟩ : ∃ base base' stop post',
      hparted.Strips v spaces comment feed base base' stop post' := by
    rcases eq_or_ne feed [] with hfeed | hfeed
    · exact hparted.exists_strips_end ht hflow hline hfeed (hrest.trans hmore) (by rw [hrest]) hv
    · exact hparted.exists_strips_line ht hflow hline hfeed (hrest.trans hmore) (by rw [hrest]) hv h.next
  have hstop : p.length < c.mark.offset := by
    rw [← hat]
    exact hparted.offset_lt ht (hleft ▸ h.quoted.ne_nil)
  have hpos := hv.length_pos
  refine ⟨base, base', stop, post', hdrains, hcarried, by omega, by omega, ?_, by rw [← hat]; exact hparted.stop_le hpre⟩
  have hafter : (spaces ++ (comment ++ (feed ++ more))).drop (spaces.length + (comment.length + feed.length)) = more := by
    rw [← List.append_assoc, ← List.append_assoc, List.append_assoc spaces, ← List.length_append, ← List.length_append,
      List.drop_left]
  rw [hmore, hbase, hbase', hat, ← hparted.quoted.stop, ← List.drop_drop, hmore, hafter, Nat.add_assoc,
    List.drop_length_add_append, List.drop_length_add_append, hafter]

end YamlStyle.Yaml
