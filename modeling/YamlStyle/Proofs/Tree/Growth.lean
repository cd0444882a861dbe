import YamlStyle.Proofs.Tree.Filling

/-!
# A growing tree loses and overwrites nothing

Whatever tokens a tree is grown by, in whatever order and however often reading is resumed, its
nodes stand for the tokens fed, each for one and each once, and a node that has been placed stays
where it is. A builder is `Sound` if every open node fits the place that waits for it. Every
operation keeps a sound builder sound, and `Grows` says what it adds.
-/

namespace YamlStyle.Tree

/-- Whether an open node and the ones around it fit into one another. -/
def Nested : Node → List Frame → Prop
  | inner, [] => inner.kind = .stream ∧ inner.Collects
  | inner, f :: around => inner.Collects ∧ f.Fits inner ∧ Nested f.node around

theorem Nested.collects {inner : Node} {around : List Frame} (h : Nested inner around) : inner.Collects := by
  cases around with
  | nil => exact h.2
  | cons f around => exact h.1

theorem Nested.congr {inner inner' : Node} {around : List Frame} (h : Nested inner around)
    (hk : inner'.kind = inner.kind) (hc : inner'.Collects) : Nested inner' around := by
  cases around with
  | nil => exact ⟨hk.trans h.1, hc⟩
  | cons f around => exact ⟨hc, h.2.1.congr hk, h.2.2⟩

theorem Nested.fill {inner : Node} {f : Frame} {around : List Frame} (h : Nested inner (f :: around)) :
    Nested (f.fill inner) around :=
  h.2.2.congr (kind_fill f inner) (collects_fill h.2.1 h.1 h.2.2.collects)

namespace Builder

theorem isKeptBy_fillAll {inner inner' : Node} (h : inner.IsKeptBy inner') (around : List Frame) :
    (fillAll inner around).IsKeptBy (fillAll inner' around) := by
  induction around generalizing inner inner' with
  | nil => exact h
  | cons f around ih => exact ih (isKeptBy_fill_congr f h)

theorem tally_fillAll {inner : Node} {around : List Frame} (h : Nested inner around) (u : LexicalUnit) :
    (fillAll inner around).tally u = inner.tally u + Node.tallyAll u (around.map (·.node)) := by
  induction around generalizing inner with
  | nil => rfl
  | cons f around ih =>
    rw [fillAll, ih h.fill, (fill_appends h.2.1).2, ← Node.tally, List.map_cons, Node.tallyAll_cons]
    omega

/-! ## Sound builders and what they grow by -/

def Sound (b : Builder) : Prop := Nested b.focus b.around

/-- What it means that a sound builder has grown by some lexical units. -/
structure Grows (b b' : Builder) (us : List LexicalUnit) : Prop where
  sound : b'.Sound
  tally : ∀ u, b'.root.tally u = b.root.tally u + us.count u
  keeps : b.root.IsKeptBy b'.root

theorem Grows.trans {b b' b'' : Builder} {us vs : List LexicalUnit} (h : Grows b b' us) (h' : Grows b' b'' vs) :
    Grows b b'' (us ++ vs) where
  sound := h'.sound
  tally u := by rw [h'.tally, h.tally, List.count_append, Nat.add_assoc]
  keeps := h.keeps.trans h'.keeps

/-- Opening and closing nodes may change what is open but not the tree. -/
theorem grows_of_root_eq {b b' : Builder} (h : b'.Sound) (hr : b'.root = b.root) : Grows b b' [] where
  sound := h
  tally u := by rw [hr]; rfl
  keeps := by rw [hr]; exact .refl _

theorem Grows.refl {b : Builder} (h : b.Sound) : Grows b b [] := grows_of_root_eq h rfl

theorem grows_modifyFocus {b : Builder} (hb : b.Sound) {f : Node → Node} {us : List LexicalUnit}
    (hc : (f b.focus).Collects) (hk : b.focus.IsKeptBy (f b.focus))
    (ht : ∀ u, (f b.focus).tally u = b.focus.tally u + us.count u) : Grows b (b.modifyFocus f) us where
  sound := Nested.congr hb hk.isSame.kind hc
  tally u := by
    have h' : Nested (f b.focus) b.around := Nested.congr hb hk.isSame.kind hc
    simp only [root, modifyFocus, tally_fillAll h', tally_fillAll hb, ht]
    omega
  keeps := isKeptBy_fillAll hk b.around

theorem grows_openAt {b : Builder} (hb : b.Sound) {place : Place} {n : Node}
    (hf : Frame.Fits n ⟨b.focus, place⟩) (hc : n.Collects) : Grows b (b.openAt place n) n.units where
  sound := ⟨hc, hf, hb⟩
  tally u := by
    have h' : Nested n (⟨b.focus, place⟩ :: b.around) := ⟨hc, hf, hb⟩
    simp only [root, openAt, tally_fillAll h', tally_fillAll hb, List.map_cons, Node.tallyAll_cons]
    rw [Node.tally]
    omega
  keeps := isKeptBy_fillAll (fill_appends hf).1 b.around

/-! ## Closing nodes -/

theorem sound_close {b : Builder} (hb : b.Sound) : b.close.Sound := by
  obtain ⟨size, focus, _ | ⟨f, around⟩⟩ := b
  · exact hb
  · exact Nested.fill hb

theorem root_close (b : Builder) : b.close.root = b.root := by
  obtain ⟨size, focus, _ | ⟨f, around⟩⟩ := b <;> rfl

theorem grows_close {b : Builder} (hb : b.Sound) : Grows b b.close [] :=
  grows_of_root_eq (sound_close hb) (root_close b)

/-- Filling all open nodes leaves the root as the node being filled. -/
theorem nested_fillAll {inner : Node} {around : List Frame} (h : Nested inner around) :
    Nested (fillAll inner around) [] := by
  induction around generalizing inner with
  | nil => exact h
  | cons f around ih => exact ih h.fill

theorem grows_closeAll {b : Builder} (hb : b.Sound) : Grows b b.closeAll [] :=
  grows_of_root_eq (nested_fillAll hb) rfl

theorem closeTo?_go_spec {p : Node → Bool} {b b' : Builder} {focus : Node} {around : List Frame}
    (h : Nested focus around) (hb : closeTo?.go p b focus around = some b') :
    b'.Sound ∧ b'.root = fillAll focus around ∧ p b'.focus = true := by
  induction around generalizing focus with
  | nil => simp [closeTo?.go] at hb
  | cons f around ih =>
    rw [closeTo?.go] at hb
    split at hb
    · next hp =>
      obtain rfl := Option.some.inj hb
      exact ⟨h, rfl, hp⟩
    · exact ih h.fill hb

theorem grows_closeTo? {p : Node → Bool} {b b' : Builder} (hb : b.Sound) (h : b.closeTo? p = some b') :
    Grows b b' [] ∧ p b'.focus = true := by
  obtain ⟨hs, hr, hp⟩ := closeTo?_go_spec hb h
  exact ⟨grows_of_root_eq hs hr, hp⟩

theorem grows_closeIndentless {b : Builder} (hb : b.Sound) : Grows b b.closeIndentless [] := by
  have go : ∀ (around : List Frame) (focus : Node), Nested focus around →
      (closeIndentless.go b focus around).Sound ∧
        (closeIndentless.go b focus around).root = fillAll focus around := by
    intro around
    induction around with
    | nil => exact fun focus h => ⟨h, rfl⟩
    | cons f around ih =>
      intro focus h
      rw [closeIndentless.go]
      split
      · exact ih _ h.fill
      · exact ⟨h, rfl⟩
  obtain ⟨hs, hr⟩ := go b.around b.focus hb
  exact grows_of_root_eq hs hr

/-! ## Changes of the focus -/

theorem grows_addStart {b : Builder} (hb : b.Sound) (leaf : Node) :
    Grows b (b.modifyFocus fun n => { n with start := n.start ++ [leaf] }) leaf.units := by
  obtain ⟨hk, ht⟩ := (Node.changesOnly_start b.focus (b.focus.start ++ [leaf])).appended rfl
  exact grows_modifyFocus hb (hb.collects.congr rfl rfl) hk ht

theorem grows_addStop {b : Builder} (hb : b.Sound) (leaf : Node) :
    Grows b (b.modifyFocus fun n => { n with stop := n.stop ++ [leaf] }) leaf.units := by
  obtain ⟨hk, ht⟩ := (Node.changesOnly_stop b.focus (b.focus.stop ++ [leaf])).appended rfl
  exact grows_modifyFocus hb (hb.collects.congr rfl rfl) hk ht

theorem grows_addItem {b : Builder} (hb : b.Sound) (hf : b.focus.HoldsItems) {item : Node}
    (hi : item.kind = .item) : Grows b (b.addItem item) item.units := by
  obtain ⟨hk, ht⟩ := (Node.changesOnly_items b.focus (b.focus.items ++ [item])).appended rfl
  refine grows_modifyFocus hb ?_ hk ht
  have hc := hf.collects_iff.1 hb.collects
  refine (Node.HoldsItems.collects_iff (n := { b.focus with items := b.focus.items ++ [item] }) hf).2 fun i hmem => ?_
  rcases List.mem_append.1 hmem with hmem | hmem
  · exact hc i hmem
  · rw [List.mem_singleton.1 hmem, hi]

theorem grows_modifyItem {b : Builder} (hb : b.Sound) {item : Node} {f : Node → Node} {us : List LexicalUnit}
    (hi : b.focus.items.getLast? = some item) (hf : ∀ i, (f i).kind = i.kind ∧ (f i).items = i.items)
    (h : item.IsKeptBy (f item) ∧ ∀ u, (f item).tally u = item.tally u + us.count u) :
    Grows b (b.modifyItem f) us :=
  grows_modifyFocus hb (collects_mapLast hb.collects hf) (isKeptBy_mapLast hi h.1)
    fun u => tally_mapLast hi (h.2 u)

theorem grows_addItemStart {b : Builder} (hb : b.Sound) {item : Node} (leaf : Node)
    (hi : b.focus.items.getLast? = some item) :
    Grows b (b.modifyItem fun i => { i with start := i.start ++ [leaf] }) leaf.units :=
  grows_modifyItem hb hi (fun _ => ⟨rfl, rfl⟩) ((Node.changesOnly_start item _).appended rfl)

theorem grows_addItemSeparator {b : Builder} (hb : b.Sound) {item : Node} (leaf : Node)
    (hi : b.focus.items.getLast? = some item) :
    Grows b (b.modifyItem fun i => { i with separator := i.separator ++ [leaf] }) leaf.units :=
  grows_modifyItem hb hi (fun _ => ⟨rfl, rfl⟩) ((Node.changesOnly_separator item _).appended rfl)

theorem grows_addItemStop {b : Builder} (hb : b.Sound) {item : Node} (leaf : Node)
    (hi : b.focus.items.getLast? = some item) :
    Grows b (b.modifyItem fun i => { i with stop := i.stop ++ [leaf] }) leaf.units :=
  grows_modifyItem hb hi (fun _ => ⟨rfl, rfl⟩) ((Node.changesOnly_stop item _).appended rfl)

/-- Moving the start of an item shows in nothing but its offset. -/
theorem grows_includeOffset {b : Builder} (hb : b.Sound) (hf : b.focus.HoldsItems) (offset : Nat) :
    Grows b (b.modifyItem (includeOffset offset)) [] := by
  rcases List.eq_nil_or_concat b.focus.items with h0 | ⟨init, item, h0⟩
  · have : b.modifyItem (includeOffset offset) = b := by
      simp only [modifyItem, modifyFocus]
      rw [Node.with_items_eq b.focus (by rw [h0]; rfl)]
    rw [this]
    exact .refl hb
  · rw [List.concat_eq_append] at h0
    have hk : item.kind = .item := hf.collects_iff.1 hb.collects item (by simp [h0])
    have hlast : b.focus.items.getLast? = some item := by simp [h0]
    refine grows_modifyItem hb hlast (fun _ => ⟨rfl, rfl⟩) ⟨?_, fun u => ?_⟩
    · exact Node.isKeptBy_of_parts ⟨rfl, rfl, rfl, rfl, .inl hk⟩ fun _ => .refl _
    · rw [Node.tally_eq, Node.tally_eq u item]
      simp [includeOffset, Node.unit?, hk]

/-! ## Documents -/

theorem grows_toDocument {b : Builder} (hb : b.Sound) :
    Grows b b.toDocument [] ∧ b.toDocument.focus.kind = .document := by
  unfold toDocument
  cases h : b.closeTo? (·.kind == .document) with
  | some b' =>
    obtain ⟨hg, hk⟩ := grows_closeTo? hb h
    exact ⟨hg, by simpa using hk⟩
  | none =>
    have hs : b.closeAll.Sound := (grows_closeAll hb).sound
    refine ⟨(grows_closeAll hb).trans (grows_openAt hs ⟨hs.1, rfl⟩ (Node.collects_of_nil rfl)), rfl⟩

theorem grows_toOpenDocument {b : Builder} (hb : b.Sound) :
    Grows b b.toOpenDocument [] ∧ b.toOpenDocument.focus.kind = .document ∧
      b.toOpenDocument.focus.value = none := by
  obtain ⟨hg, hk⟩ := grows_toDocument hb
  unfold toOpenDocument
  simp only
  split
  · obtain ⟨hg', hk'⟩ := grows_toDocument (grows_closeAll hg.sound).sound
    exact ⟨(hg.trans (grows_closeAll hg.sound)).trans hg', hk', rfl⟩
  · next h =>
    refine ⟨hg, hk, ?_⟩
    simp only [isComplete, Bool.or_eq_true, not_or, Bool.not_eq_true, Option.isSome_eq_false_iff,
      Option.isNone_iff_eq_none] at h
    exact h.2

theorem grows_reopen {b : Builder} (hb : b.Sound) (hr : b.around = []) {document : Node}
    (h : b.focus.items.getLast? = some document) : Grows b (b.reopen document) [] := by
  obtain ⟨size, focus, around⟩ := b
  obtain rfl : around = [] := hr
  obtain ⟨hs, hc⟩ : focus.kind = .stream ∧ focus.Collects := hb
  obtain ⟨init, hinit⟩ := List.getLast?_eq_some_iff.1 h
  have hinit : focus.items = init ++ [document] := hinit
  have hd := (Node.collects_stream_iff hs).1 hc
  have hdoc := hd document (by simp [hinit])
  refine grows_of_root_eq ⟨Node.collects_of_nil hdoc.2, ⟨hs, hdoc.1⟩, hs, ?_⟩ ?_
  · refine (Node.collects_stream_iff (n := { focus with items := focus.items.dropLast }) hs).2 fun d hmem => ?_
    exact hd d (List.dropLast_subset _ hmem)
  · have : focus.items.dropLast ++ [document] = focus.items := by rw [hinit, List.dropLast_concat]
    exact focus.with_items_eq this

theorem grows_documentStart {b : Builder} (hb : b.Sound) (leaf : Node) :
    Grows b (b.documentStart leaf) leaf.units := by
  have hc := grows_closeAll hb
  have hopen : Grows b.closeAll
      (b.closeAll.openAt .newItem { kind := .document, offset := leaf.offset }) [] :=
    grows_openAt hc.sound ⟨hc.sound.1, rfl⟩ (Node.collects_of_nil rfl)
  unfold documentStart
  simp only
  split
  · next d hd =>
    split
    · have hr := grows_reopen hc.sound rfl hd
      exact (hc.trans hr).trans (grows_addStart hr.sound leaf)
    · exact (hc.trans hopen).trans (grows_addStart hopen.sound leaf)
  · exact (hc.trans hopen).trans (grows_addStart hopen.sound leaf)

/-! ## Items and content -/

theorem exists_last_of_any {ns : List Node} {p : Node → Bool} (h : ns.getLast?.any p = true) :
    ∃ item, ns.getLast? = some item ∧ p item = true := by
  cases hl : ns.getLast? with
  | none => simp [hl] at h
  | some item => exact ⟨item, rfl, by simpa [hl] using h⟩

theorem grows_ensureItem {b : Builder} (hb : b.Sound) (hf : b.focus.HoldsItems) (offset : Nat) :
    Grows b (b.ensureItem offset) [] ∧ (b.ensureItem offset).focus.kind = b.focus.kind ∧
      ∃ item, (b.ensureItem offset).focus.items.getLast? = some item ∧ takesContent item = true := by
  unfold ensureItem
  split
  · next h => exact ⟨.refl hb, rfl, exists_last_of_any h⟩
  · exact ⟨grows_addItem hb hf rfl, rfl, { kind := .item, offset }, by simp [addItem, modifyFocus], rfl⟩

theorem grows_beside {b : Builder} (hb : b.Sound) (leaf : Node) : Grows b (b.beside leaf) leaf.units := by
  unfold beside
  split
  · obtain ⟨hg, -, -⟩ := grows_toOpenDocument hb
    exact hg.trans (grows_addStart hg.sound leaf)
  · by_cases hs : b.focus.stop.isEmpty
    · have := grows_addStart hb leaf
      simpa only [modifyFocus, hs, if_true] using this
    · have := grows_addStop hb leaf
      simpa only [modifyFocus, hs, Bool.false_eq_true, if_false] using this
  · next h1 h2 =>
    obtain ⟨hg, -, item, hi, -⟩ := grows_ensureItem hb ⟨h1, h2⟩ b.size
    refine hg.trans (grows_modifyItem hg.sound hi (fun i => by split <;> exact ⟨rfl, rfl⟩) ?_)
    split
    · exact (Node.changesOnly_start item _).appended rfl
    · exact (Node.changesOnly_separator item _).appended rfl

theorem grows_property {b : Builder} (hb : b.Sound) (leaf : Node) : Grows b (b.property leaf) leaf.units := by
  have hg := grows_beside hb leaf
  unfold property
  simp only
  split
  · exact hg
  · exact hg
  · next h1 h2 =>
    have := hg.trans (grows_includeOffset hg.sound ⟨h1, h2⟩ leaf.offset)
    rwa [List.append_nil] at this

/-- The place of the content of an item is vacant as long as the item takes content. -/
theorem fits_contentPlace {n focus item : Node} (hi : focus.items.getLast? = some item)
    (ht : takesContent item = true) : Frame.Fits n ⟨focus, contentPlace item⟩ := by
  have hv : item.value = none := by
    simp only [takesContent, Bool.and_eq_true, Option.isNone_iff_eq_none] at ht
    exact ht.1
  unfold contentPlace
  split
  · exact ⟨item, hi, hv⟩
  · split
    · next h =>
      simp only [Bool.and_eq_true, Option.isNone_iff_eq_none] at h
      exact ⟨item, hi, h.1⟩
    · exact ⟨item, hi, hv⟩

theorem getLast?_modifyItem {b : Builder} {f : Node → Node} {item : Node}
    (h : b.focus.items.getLast? = some item) : (b.modifyItem f).focus.items.getLast? = some (f item) := by
  obtain ⟨init, hinit⟩ := List.getLast?_eq_some_iff.1 h
  simp [modifyItem, modifyFocus, hinit, mapLast_concat]

theorem grows_openContent {b : Builder} (hb : b.Sound) {n : Node} (hn : n.Collects) :
    Grows b (b.openContent n) n.units := by
  unfold openContent
  have hdoc : Grows b (b.toOpenDocument.openAt .value n) n.units := by
    obtain ⟨hg, -, hv⟩ := grows_toOpenDocument hb
    exact hg.trans (grows_openAt hg.sound hv hn)
  split
  · exact hdoc
  · exact hdoc
  · next h1 h2 =>
    -- In a collection the last item takes the content, or a new one does.
    obtain ⟨hg, hk, item, hi, ht⟩ := grows_ensureItem hb ⟨h1, h2⟩ n.offset
    have hg' := grows_includeOffset hg.sound ⟨fun h => h1 (hk ▸ h), fun h => h2 (hk ▸ h)⟩ n.offset
    have hi' := getLast?_modifyItem (f := includeOffset n.offset) hi
    refine (hg.trans hg').trans (grows_openAt hg'.sound ?_ hn)
    rw [hi']
    exact fits_contentPlace hi' ht

theorem grows_content {b : Builder} (hb : b.Sound) {n : Node} (hn : n.Collects) :
    Grows b (b.content n) n.units := by
  have hg := grows_openContent hb hn
  have := hg.trans (grows_close hg.sound)
  rwa [List.append_nil] at this

theorem focus_openContent (b : Builder) (n : Node) : (b.openContent n).focus = n := by
  unfold openContent
  split <;> rfl

/-- An item that holds nothing but one leaf has the units of the leaf. -/
theorem grows_addItem_with {b : Builder} (hb : b.Sound) (hf : b.focus.HoldsItems) {item : Node} {us : List LexicalUnit}
    (hi : item.kind = .item) (hu : ∀ u, item.tally u = us.count u) : Grows b (b.addItem item) us where
  sound := (grows_addItem hb hf hi).sound
  tally u := by rw [(grows_addItem hb hf hi).tally, ← Node.tally, hu]
  keeps := (grows_addItem hb hf hi).keeps

theorem grows_newItem {b : Builder} (hb : b.Sound) (hf : b.focus.HoldsItems) (leaf : Node) :
    Grows b (b.newItem leaf) leaf.units :=
  grows_addItem_with hb hf rfl fun u => by rw [Node.tally_eq]; simp [Node.unit?, Node.tally]

/-! ## Indicators -/

theorem holdsItems_of_kind {n : Node} {kind : NodeKind} (h : n.kind = kind) (hs : kind ≠ .stream)
    (hd : kind ≠ .document) : n.HoldsItems := ⟨h ▸ hs, h ▸ hd⟩

theorem grows_key {b : Builder} (hb : b.Sound) (leaf : Node) : Grows b (b.key leaf) leaf.units := by
  unfold key
  split
  · next hk => exact grows_newItem hb (holdsItems_of_kind hk (by simp) (by simp)) leaf
  · next hk =>
    split
    · next h =>
      obtain ⟨item, hi, -⟩ := exists_last_of_any h
      exact grows_addItemStart hb leaf hi
    · exact grows_newItem hb (holdsItems_of_kind hk (by simp) (by simp)) leaf
  · exact grows_beside hb leaf

theorem grows_valueIndicator {b : Builder} (hb : b.Sound) (leaf : Node) :
    Grows b (b.valueIndicator leaf) leaf.units := by
  -- In a collection the last item takes the indicator, or a new one does.
  have main (hf : b.focus.HoldsItems) :
      Grows b (if b.focus.items.getLast?.any takesIndicator then
        b.modifyItem fun item => { item with separator := item.separator ++ [leaf] }
        else b.addItem { kind := .item, offset := leaf.offset, separator := [leaf] }) leaf.units := by
    split
    · next h =>
      obtain ⟨item, hi, -⟩ := exists_last_of_any h
      exact grows_addItemSeparator hb leaf hi
    · exact grows_addItem_with hb hf rfl fun u => by rw [Node.tally_eq]; simp [Node.unit?, Node.tally]
  unfold valueIndicator
  split
  · next hk => exact main (holdsItems_of_kind hk (by simp) (by simp))
  · next hk => exact main (holdsItems_of_kind hk (by simp) (by simp))
  · exact grows_beside hb leaf

theorem grows_entryIndicator {b : Builder} (hb : b.Sound) (leaf : Node) :
    Grows b (b.entryIndicator leaf) leaf.units := by
  unfold entryIndicator
  split
  · next hk => exact grows_newItem hb (holdsItems_of_kind hk (by simp) (by simp)) leaf
  -- In a mapping an indentless sequence is opened, which is no unit itself.
  · have hg := grows_openContent hb
      (n := { kind := .blockSequence, offset := leaf.offset, indentless := true }) (Node.collects_of_nil rfl)
    have hf := holdsItems_of_kind (congrArg Node.kind (focus_openContent b
      { kind := .blockSequence, offset := leaf.offset, indentless := true })) (by simp) (by simp)
    have := hg.trans (grows_newItem hg.sound hf leaf)
    have hu : ({ kind := .blockSequence, offset := leaf.offset, indentless := true } : Node).units = [] := by
      rw [Node.units_eq]
      simp [Node.unit?]
    rwa [hu] at this
  · exact grows_beside hb leaf

theorem grows_comma {b : Builder} (hb : b.Sound) (leaf : Node) : Grows b (b.comma leaf) leaf.units := by
  unfold comma
  split
  · next hk =>
    split
    · next h =>
      obtain ⟨item, hi, -⟩ := exists_last_of_any h
      exact grows_addItemStop hb leaf hi
    · exact grows_addItem_with hb (holdsItems_of_kind hk (by simp) (by simp)) rfl
        fun u => by rw [Node.tally_eq]; simp [Node.unit?, Node.tally]
  · exact grows_beside hb leaf

theorem grows_flowEnd {b : Builder} (hb : b.Sound) (leaf : Node) : Grows b (b.flowEnd leaf) leaf.units := by
  unfold flowEnd
  cases h : b.closeTo? (·.kind == .flowCollection) with
  | none => exact grows_beside hb leaf
  | some b' =>
    obtain ⟨hg, -⟩ := grows_closeTo? hb h
    have hs := grows_addStop hg.sound leaf
    have := (hg.trans hs).trans (grows_close hs.sound)
    rwa [List.append_nil] at this

theorem grows_blockEnd {b : Builder} (hb : b.Sound) : Grows b b.blockEnd [] := by
  have hi := grows_closeIndentless hb
  unfold blockEnd
  simp only
  cases h : b.closeIndentless.closeTo? fun n => n.kind == .blockMap || n.kind == .blockSequence with
  | none => exact hi
  | some b' =>
    obtain ⟨hg, -⟩ := grows_closeTo? hi.sound h
    exact (hi.trans hg).trans (grows_close hg.sound)

/-! ## Tokens -/

/-- A flow collection is started by its bracket and stands for nothing itself. -/
theorem grows_flowStart {b : Builder} (hb : b.Sound) (leaf : Node) :
    Grows b (b.openContent { kind := .flowCollection, offset := leaf.offset, start := [leaf] }) leaf.units := by
  have hg := grows_openContent hb
    (n := { kind := .flowCollection, offset := leaf.offset, start := [leaf] }) (Node.collects_of_nil rfl)
  have hu : ({ kind := .flowCollection, offset := leaf.offset, start := [leaf] } : Node).units = leaf.units := by
    rw [Node.units_eq]
    simp [Node.unit?]
  rwa [hu] at hg

theorem grows_feedLeaf {b : Builder} (hb : b.Sound) {leaf : Node} (hl : leaf.items = []) :
    Grows b (b.feedLeaf leaf) leaf.units := by
  have hi := grows_closeIndentless hb
  unfold feedLeaf
  split
  -- Documents.
  · exact grows_documentStart hb leaf
  · exact grows_documentStart hb leaf
  · obtain ⟨hg, -⟩ := grows_toDocument hb
    exact hg.trans (grows_addStop hg.sound leaf)
  -- Items.
  · exact hi.trans (grows_key hi.sound leaf)
  · exact hi.trans (grows_key hi.sound leaf)
  · exact hi.trans (grows_valueIndicator hi.sound leaf)
  · exact grows_entryIndicator hb leaf
  · exact grows_comma hb leaf
  -- Flow collections.
  · exact grows_flowStart hb leaf
  · exact grows_flowStart hb leaf
  · exact grows_flowEnd hb leaf
  · exact grows_flowEnd hb leaf
  -- Properties and content.
  · exact grows_property hb leaf
  · exact grows_property hb leaf
  · exact grows_content hb (Node.collects_of_nil hl)

/-- A tree grows by the lexical unit of the token that it is fed. -/
theorem grows_feed {b : Builder} (hb : b.Sound) (t : Yaml.Token) (offset : Nat) (source : String) :
    Grows b (b.feed t offset source) (unitOf? t offset source).toList := by
  unfold feed
  split
  · next hk => simpa [unitOf?, nodeKind?, hk] using grows_blockEnd hb
  · next hk =>
    have := grows_openContent hb (n := { kind := .blockMap, offset }) (Node.collects_of_nil rfl)
    rw [Node.units_eq] at this
    simpa [unitOf?, nodeKind?, hk, startsBlock, valueOf?, Node.unit?] using this
  · next hk =>
    have := grows_openContent hb (n := { kind := .blockSequence, offset }) (Node.collects_of_nil rfl)
    rw [Node.units_eq] at this
    simpa [unitOf?, nodeKind?, hk, startsBlock, valueOf?, Node.unit?] using this
  · next h1 h2 h3 =>
    -- Any other token has a leaf, or no unit at all.
    rw [leaf?_eq_map (by cases hk : t.kind <;> simp_all [startsBlock])]
    cases hu : unitOf? t offset source with
    | none => exact .refl hb
    | some u =>
      have hl : u.leaf.items = [] := rfl
      have := grows_feedLeaf hb hl
      rwa [units_leaf (isLeaf_of_unitOf? (by cases hk : t.kind <;> simp_all [startsBlock]) hu)] at this

end Builder

/-! ## A whole history -/

/-- What a builder goes through: it is fed a token of the part of the text that starts at `base`,
or reading is resumed after a fault. -/
inductive Act where
  | feed (base : Nat) (token : Yaml.Token)
  | resume

/-- The lexical unit that an act brings in. -/
def Act.unit? (t : Text) : Act → Option LexicalUnit
  | .feed base token =>
    unitOf? token (base + token.start.offset)
      (String.ofList (t.slice (base + token.start.offset) (base + token.stop.offset)))
  | .resume => none

def Act.perform (t : Text) (b : Builder) : Act → Builder
  | .feed base token =>
    b.feed token (base + token.start.offset)
      (String.ofList (t.slice (base + token.start.offset) (base + token.stop.offset)))
  | .resume => b.closeAll

/-- The builder that acts lead to. -/
def perform (t : Text) (acts : List Act) : Builder := acts.foldl (Act.perform t) (.start t.length)

theorem grows_act (t : Text) {b : Builder} (hb : b.Sound) (a : Act) :
    Builder.Grows b (a.perform t b) (a.unit? t).toList := by
  cases a with
  | feed base token => exact Builder.grows_feed hb _ _ _
  | resume => exact Builder.grows_closeAll hb

theorem grows_acts (t : Text) {b : Builder} (hb : b.Sound) (acts : List Act) :
    Builder.Grows b (acts.foldl (Act.perform t) b) (acts.filterMap (Act.unit? t)) := by
  induction acts generalizing b with
  | nil => exact .refl hb
  | cons a acts ih =>
    have hg := grows_act t hb a
    have := hg.trans (ih hg.sound)
    rw [List.foldl_cons, List.filterMap_cons]
    cases h : a.unit? t <;> simpa [h] using this

theorem sound_start (size : Nat) : (Builder.start size).Sound := ⟨rfl, Node.collects_of_nil rfl⟩

/-- Feeding the tokens of a part of a text is a history. -/
theorem feedAll_eq_foldl (t : Text) (base : Nat) (b : Builder) (tokens : List Yaml.Released) :
    feedAll t base b tokens = (tokens.map fun r => Act.feed base r.token).foldl (Act.perform t) b := by
  rw [List.foldl_map]
  rfl

/-- An act that feeds a token of the part of a text that starts at its base. -/
def Act.IsOf (t : Text) : Act → Prop
  | .feed base token => ∃ r ∈ (Yaml.TokenStream.ofText (t.drop base)).tokens, r.token = token
  | .resume => True

/-- The tree of a text is the result of a history, in which tokens of the text are fed. -/
theorem root_grow {t : Text} {offset : Nat} {b : Builder} {halts : List Halt} {root : Node}
    (h : (grow t offset b halts).root = .ok root) :
    ∃ acts : List Act, root = (acts.foldl (Act.perform t) b).root ∧ ∀ a ∈ acts, a.IsOf t := by
  have part (offset : Nat) (b : Builder) : ∃ acts : List Act,
      (feedAll t offset b (Yaml.TokenStream.ofText (t.drop offset)).tokens).closeAll =
        acts.foldl (Act.perform t) b ∧ ∀ a ∈ acts, a.IsOf t := by
    refine ⟨(Yaml.TokenStream.ofText (t.drop offset)).tokens.map (fun r => Act.feed offset r.token) ++ [.resume],
      by rw [feedAll_eq_foldl, List.foldl_append]; rfl, fun a ha => ?_⟩
    rcases List.mem_append.1 ha with ha | ha
    · obtain ⟨r, hr, rfl⟩ := List.mem_map.1 ha
      exact ⟨r, hr, rfl⟩
    · rw [List.mem_singleton.1 ha]
      trivial
  have stop {offset : Nat} {b : Builder}
      (h : (Except.ok (feedAll t offset b (Yaml.TokenStream.ofText (t.drop offset)).tokens).closeAll.root :
        Except Yaml.Failure Node) = .ok root) :
      ∃ acts : List Act, root = (acts.foldl (Act.perform t) b).root ∧ ∀ a ∈ acts, a.IsOf t := by
    obtain ⟨acts, ha, hof⟩ := part offset b
    exact ⟨acts, by rw [← ha]; exact (Except.ok.inj h).symm, hof⟩
  fun_induction grow t offset b halts with
  | case1 => exact stop h
  | case2 offset b _ _ _ _ _ _ _ _ _ _ ih =>
    obtain ⟨acts, ha, hof⟩ := part offset b
    obtain ⟨acts', ha', hof'⟩ := ih h
    exact ⟨acts ++ acts', by rw [ha', List.foldl_append, ← ha], List.forall_mem_append.2 ⟨hof, hof'⟩⟩
  | case3 => exact stop h
  | case4 => exact stop h
  | case5 => exact nomatch h

/-- What grew out of nothing stands for what it grew by. -/
theorem Builder.Grows.units {size : Nat} {b : Builder} {us : List LexicalUnit} (h : Grows (.start size) b us) :
    b.root.units.Perm us := by
  have h0 : (Builder.start size).root.units = [] := by
    rw [Node.units_eq]
    simp [Builder.root, Builder.start, Builder.fillAll, Node.unit?]
  refine List.perm_iff_count.2 fun u => ?_
  have := h.tally u
  rwa [Node.tally, Node.tally, h0, List.count_nil, Nat.zero_add] at this

/-- Every node of the tree of a text stands for a token of the text, or only groups others. -/
theorem unit?_of_build {t : Text} {root : Node} (h : (build t).root = .ok root) {u : LexicalUnit}
    (hu : u ∈ root.units) : ∃ a : Act, a.IsOf t ∧ a.unit? t = some u := by
  obtain ⟨acts, rfl, hof⟩ := root_grow h
  have hunits := (grows_acts t (sound_start t.length) acts).units
  obtain ⟨a, ha, hu⟩ := List.mem_filterMap.1 (hunits.mem_iff.1 hu)
  exact ⟨a, hof a ha, hu⟩

/-- Whatever tokens a tree is grown by and however often reading is resumed, every token but the
ends of the stream and of blocks is shown by a node of its own, no node shows anything else, and
what has been placed is never overwritten. -/
theorem units_perform (t : Text) (acts : List Act) :
    (perform t acts).root.units.Perm (acts.filterMap (Act.unit? t)) ∧
      ∀ later, (perform t acts).root.IsKeptBy (perform t (acts ++ later)).root := by
  have hg := grows_acts t (sound_start t.length) acts
  refine ⟨hg.units, fun later => ?_⟩
  rw [perform, perform, List.foldl_append]
  exact (grows_acts t hg.sound later).keeps

end YamlStyle.Tree
