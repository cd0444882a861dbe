import YamlStyle.Proofs.Tree.Address

/-!
# Filling an open node into its place

A node that is being filled waits to be put into a place of the node around it. If it fits, the
place is vacant: filling it keeps what was there and adds the units of the node (`fill_appends`).
-/

namespace YamlStyle

namespace Node

/-- What items a node may hold: a stream holds documents, a document none, and a collection
nothing but items. -/
def Collects (n : Node) : Prop :=
  match n.kind with
  | .stream => ∀ d ∈ n.items, d.kind = .document ∧ d.items = []
  | .document => n.items = []
  | _ => ∀ i ∈ n.items, i.kind = .item

theorem collects_of_nil {n : Node} (h : n.items = []) : n.Collects := by
  unfold Collects
  split <;> simp [h]

/-- Whether items suit a node depends on their kinds and items alone. -/
theorem Collects.congr {n m : Node} (h : n.Collects) (hk : m.kind = n.kind)
    (hi : m.items.map (fun i => (i.kind, i.items)) = n.items.map fun i => (i.kind, i.items)) : m.Collects := by
  have key : ∀ P : NodeKind × List Node → Prop,
      (∀ i ∈ n.items, P (i.kind, i.items)) → ∀ i ∈ m.items, P (i.kind, i.items) := by
    intro P hP i him
    have : (i.kind, i.items) ∈ n.items.map fun i => (i.kind, i.items) := hi ▸ List.mem_map_of_mem him
    obtain ⟨j, hj, hji⟩ := List.mem_map.1 this
    exact hji ▸ hP j hj
  unfold Collects at h ⊢
  rw [hk]
  split at h
  · exact key (fun x => x.1 = .document ∧ x.2 = []) h
  · rw [h, List.map_nil, List.map_eq_nil_iff] at hi
    exact hi
  · exact key (fun x => x.1 = .item) h

theorem collects_stream_iff {n : Node} (h : n.kind = .stream) :
    n.Collects ↔ ∀ d ∈ n.items, d.kind = .document ∧ d.items = [] := by
  simp only [Collects, h]

/-- Whether a node holds items and nothing else as items. -/
def HoldsItems (n : Node) : Prop := n.kind ≠ .stream ∧ n.kind ≠ .document

theorem HoldsItems.collects_iff {n : Node} (h : n.HoldsItems) : n.Collects ↔ ∀ i ∈ n.items, i.kind = .item := by
  unfold Collects
  split
  · next hk => exact absurd hk h.1
  · next hk => exact absurd hk h.2
  · rfl

/-- Putting back the items of a node changes nothing. -/
theorem with_items_eq (n : Node) {is : List Node} (h : is = n.items) : { n with items := is } = n := by
  subst h
  cases n
  rfl

end Node

namespace Tree

/-! ## The last item -/

theorem mapLast_concat (f : Node → Node) (ns : List Node) (n : Node) :
    mapLast f (ns ++ [n]) = ns ++ [f n] := by
  induction ns with
  | nil => rfl
  | cons m ns ih =>
    rcases h : ns ++ [n] with _ | ⟨k, ks⟩
    · simp at h
    · rw [List.cons_append, h, mapLast, ← h, ih, List.cons_append]
      simp

/-- Changing the last item changes one part, and in it one node. -/
theorem isKeptBy_mapLast {n item : Node} {f : Node → Node} (h : n.items.getLast? = some item)
    (hf : item.IsKeptBy (f item)) : n.IsKeptBy { n with items := mapLast f n.items } := by
  obtain ⟨init, hinit⟩ := List.getLast?_eq_some_iff.1 h
  refine (Node.changesOnly_items n _).isKeptBy ?_
  simp only [Node.part, hinit, mapLast_concat]
  exact Node.areKeptBy_concat init hf

theorem tally_mapLast {n item : Node} {f : Node → Node} {u : LexicalUnit} {k : Nat}
    (h : n.items.getLast? = some item) (hf : (f item).tally u = item.tally u + k) :
    ({ n with items := mapLast f n.items } : Node).tally u = n.tally u + k := by
  obtain ⟨init, hinit⟩ := List.getLast?_eq_some_iff.1 h
  have := (Node.changesOnly_items n (mapLast f n.items)).tally u
  simp only [Node.part, hinit, mapLast_concat, Node.tallyAll_append, Node.tallyAll_cons, Node.tallyAll_nil] at this ⊢
  omega

theorem collects_mapLast {n : Node} {f : Node → Node} (h : n.Collects)
    (hf : ∀ i, (f i).kind = i.kind ∧ (f i).items = i.items) :
    ({ n with items := mapLast f n.items } : Node).Collects := by
  refine h.congr rfl ?_
  rcases List.eq_nil_or_concat n.items with h0 | ⟨init, item, h0⟩
  · simp [h0, mapLast]
  · simp [h0, mapLast_concat, hf]

/-! ## Filling a place -/

/-- Whether an open node fits the place that waits for it in the node around it. -/
def Frame.Fits (inner : Node) (f : Frame) : Prop :=
  match f.place with
  | .newItem => f.node.kind = .stream ∧ inner.kind = .document
  | .value => f.node.value = none
  | .itemKey => ∃ item, f.node.items.getLast? = some item ∧ item.key = none
  | .itemValue => ∃ item, f.node.items.getLast? = some item ∧ item.value = none

theorem Frame.Fits.congr {inner inner' : Node} {f : Frame} (h : f.Fits inner) (hk : inner'.kind = inner.kind) :
    f.Fits inner' := by
  unfold Fits at h ⊢
  split at h <;> simp_all

theorem kind_fill (f : Frame) (inner : Node) : (f.fill inner).kind = f.node.kind := by
  unfold Frame.fill Place.fill
  split <;> rfl

/-- Filling a vacant place overwrites nothing and adds the units of what is filled in. -/
theorem fill_appends {f : Frame} {inner : Node} (h : f.Fits inner) :
    f.node.IsKeptBy (f.fill inner) ∧ ∀ u, (f.fill inner).tally u = f.node.tally u + inner.units.count u := by
  obtain ⟨n, place⟩ := f
  cases place with
  | newItem => exact (Node.changesOnly_items n _).appended rfl
  | value =>
    have hv : n.value = none := h
    exact (Node.changesOnly_value n (some inner)).appended (by simp [Node.part, hv])
  | itemKey =>
    obtain ⟨item, hitem, hk⟩ := h
    obtain ⟨hkept, ht⟩ := (Node.changesOnly_key item (some inner)).appended (k := inner) (by simp [Node.part, hk])
    exact ⟨isKeptBy_mapLast hitem hkept, fun u => tally_mapLast hitem (ht u)⟩
  | itemValue =>
    obtain ⟨item, hitem, hv⟩ := h
    obtain ⟨hkept, ht⟩ := (Node.changesOnly_value item (some inner)).appended (k := inner) (by simp [Node.part, hv])
    exact ⟨isKeptBy_mapLast hitem hkept, fun u => tally_mapLast hitem (ht u)⟩

/-- A node that grows while it is open makes what it is filled into grow. -/
theorem isKeptBy_fill_congr (f : Frame) {inner inner' : Node} (h : inner.IsKeptBy inner') :
    (f.fill inner).IsKeptBy (f.fill inner') := by
  obtain ⟨n, place⟩ := f
  have last : ∀ g g' : Node → Node, (∀ i, (g i).IsKeptBy (g' i)) →
      Node.IsKeptBy { n with items := mapLast g n.items } { n with items := mapLast g' n.items } := by
    intro g g' hg
    refine (Node.changesOnly_items { n with items := mapLast g n.items } (mapLast g' n.items)).isKeptBy ?_
    simp only [Node.part]
    rcases List.eq_nil_or_concat n.items with h0 | ⟨init, item, h0⟩
    · rw [h0]
      exact .refl _
    · rw [h0, List.concat_eq_append, mapLast_concat, mapLast_concat]
      exact Node.areKeptBy_concat init (hg item)
  cases place with
  | newItem =>
    exact (Node.changesOnly_items { n with items := n.items ++ [inner] } (n.items ++ [inner'])).isKeptBy
      (Node.areKeptBy_concat _ h)
  | value =>
    exact (Node.changesOnly_value { n with value := some inner } (some inner')).isKeptBy (Node.areKeptBy_some h)
  | itemKey =>
    exact last _ _ fun i =>
      (Node.changesOnly_key { i with key := some inner } (some inner')).isKeptBy (Node.areKeptBy_some h)
  | itemValue =>
    exact last _ _ fun i =>
      (Node.changesOnly_value { i with value := some inner } (some inner')).isKeptBy (Node.areKeptBy_some h)

theorem collects_fill {f : Frame} {inner : Node} (hf : f.Fits inner) (hi : inner.Collects)
    (hn : f.node.Collects) : (f.fill inner).Collects := by
  obtain ⟨n, place⟩ := f
  cases place with
  | newItem =>
    obtain ⟨hs, hd⟩ : n.kind = .stream ∧ inner.kind = .document := hf
    unfold Node.Collects at hn hi ⊢
    simp only [Frame.fill, Place.fill, hs, hd] at hn hi ⊢
    intro d hmem
    rcases List.mem_append.1 hmem with hmem | hmem
    · exact hn d hmem
    · rw [List.mem_singleton.1 hmem]
      exact ⟨hd, hi⟩
  | value => exact hn.congr rfl rfl
  | itemKey => exact collects_mapLast hn fun _ => ⟨rfl, rfl⟩
  | itemValue => exact collects_mapLast hn fun _ => ⟨rfl, rfl⟩

end Tree

end YamlStyle
