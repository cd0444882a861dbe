import YamlStyle.Proofs.Tree.Units

/-!
# Nodes that stay where they are

An address leads from the root of a tree to a node, part by part. A tree keeps another if at
every address of the other it has the same node, which may have more inside it by then. So a
tree that keeps another has overwritten nothing.
-/

namespace YamlStyle.Node

/-- Whether two nodes are the same but for what is inside them. An item may turn out to start
earlier than its first part showed. -/
structure IsSame (n m : Node) : Prop where
  kind : m.kind = n.kind
  source : m.source = n.source
  resolved : m.resolved = n.resolved
  indentless : m.indentless = n.indentless
  offset : n.kind = .item ∨ m.offset = n.offset

/-- The way from a node to one inside it: the part, and the place in that part. -/
abbrev Address := List (Part × Nat)

/-- The node at an address. -/
def at? (n : Node) : Address → Option Node
  | [] => some n
  | (p, i) :: rest => (n.part p)[i]?.bind (·.at? rest)

/-- Whether each node of one tree is in another at the same address. -/
def IsKeptBy (n m : Node) : Prop :=
  ∀ (a : Address) (x : Node), n.at? a = some x → ∃ y, m.at? a = some y ∧ x.IsSame y

/-- Whether each of some nodes is kept by the node at its place in another list. -/
def AreKeptBy (ns ms : List Node) : Prop :=
  ∀ (i : Nat) (x : Node), ns[i]? = some x → ∃ y, ms[i]? = some y ∧ x.IsKeptBy y

theorem IsSame.refl (n : Node) : IsSame n n := ⟨rfl, rfl, rfl, rfl, .inr rfl⟩

theorem IsSame.trans {n m k : Node} (h : IsSame n m) (h' : IsSame m k) : IsSame n k where
  kind := h'.kind.trans h.kind
  source := h'.source.trans h.source
  resolved := h'.resolved.trans h.resolved
  indentless := h'.indentless.trans h.indentless
  offset := by
    rcases h.offset with h1 | h1
    · exact .inl h1
    · rcases h'.offset with h2 | h2
      · exact .inl (h.kind ▸ h2)
      · exact .inr (h2.trans h1)

theorem IsKeptBy.refl (n : Node) : IsKeptBy n n := fun _ x hx => ⟨x, hx, .refl x⟩

theorem IsKeptBy.trans {n m k : Node} (h : IsKeptBy n m) (h' : IsKeptBy m k) : IsKeptBy n k := by
  intro a x hx
  obtain ⟨y, hy, hxy⟩ := h a x hx
  obtain ⟨z, hz, hyz⟩ := h' a y hy
  exact ⟨z, hz, hxy.trans hyz⟩

theorem IsKeptBy.isSame {n m : Node} (h : IsKeptBy n m) : IsSame n m := by
  obtain ⟨y, hy, hs⟩ := h [] n rfl
  rw [at?, Option.some.injEq] at hy
  exact hy ▸ hs

theorem AreKeptBy.refl (ns : List Node) : AreKeptBy ns ns := fun _ x hx => ⟨x, hx, .refl x⟩

theorem areKeptBy_append (ns ms : List Node) : AreKeptBy ns (ns ++ ms) := by
  intro i x hx
  have hi := (List.getElem?_eq_some_iff.1 hx).1
  exact ⟨x, by rw [List.getElem?_append_left hi, hx], .refl x⟩

/-- A node is kept by one that is the same and keeps each of its parts. -/
theorem isKeptBy_of_parts {n m : Node} (h : IsSame n m) (hp : ∀ p, AreKeptBy (n.part p) (m.part p)) :
    IsKeptBy n m := by
  rintro (_ | ⟨⟨p, i⟩, rest⟩) x hx
  · rw [at?, Option.some.injEq] at hx
    exact ⟨m, rfl, hx ▸ h⟩
  · obtain ⟨c, hc, hcx⟩ := Option.bind_eq_some_iff.1 hx
    obtain ⟨d, hd, hcd⟩ := hp p i c hc
    obtain ⟨y, hy, hxy⟩ := hcd rest x hcx
    exact ⟨y, by rw [at?, hd, Option.bind_some, hy], hxy⟩

/-! ## Changes of one part -/

/-- Whether two nodes differ in one part at most. -/
structure ChangesOnly (p : Part) (n m : Node) : Prop where
  isSame : IsSame n m
  unit : m.unit? = n.unit?
  parts : ∀ q, q ≠ p → m.part q = n.part q

theorem ChangesOnly.isKeptBy {p : Part} {n m : Node} (h : ChangesOnly p n m)
    (hp : AreKeptBy (n.part p) (m.part p)) : IsKeptBy n m := by
  refine isKeptBy_of_parts h.isSame fun q => ?_
  by_cases hq : q = p
  · exact hq ▸ hp
  · rw [h.parts q hq]
    exact .refl _

theorem ChangesOnly.tally {p : Part} {n m : Node} (h : ChangesOnly p n m) (u : Tree.LexicalUnit) :
    m.tally u + tallyAll u (n.part p) = n.tally u + tallyAll u (m.part p) := by
  have hs := h.parts .start
  have hk := h.parts .key
  have hse := h.parts .separator
  have hv := h.parts .value
  have hi := h.parts .items
  have hst := h.parts .stop
  rw [tally_eq, tally_eq u n, h.unit]
  cases p <;> simp_all only [part, ne_eq, reduceCtorEq, not_false_eq_true, not_true_eq_false,
    forall_const, false_implies] <;> omega

/-- A node that joins the others of a part overwrites nothing and adds its units. -/
theorem ChangesOnly.appended {p : Part} {n m k : Node} (h : ChangesOnly p n m) (hp : m.part p = n.part p ++ [k]) :
    IsKeptBy n m ∧ ∀ u, m.tally u = n.tally u + k.units.count u := by
  refine ⟨h.isKeptBy (hp ▸ areKeptBy_append _ _), fun u => ?_⟩
  have := h.tally u
  rw [hp, tallyAll_append, tallyAll_cons, tallyAll_nil] at this
  rw [← Node.tally]
  omega

theorem changesOnly_start (n : Node) (ns : List Node) : ChangesOnly .start n { n with start := ns } :=
  ⟨⟨rfl, rfl, rfl, rfl, .inr rfl⟩, rfl, fun q hq => by cases q <;> simp_all [part]⟩

theorem changesOnly_key (n : Node) (k : Option Node) : ChangesOnly .key n { n with key := k } :=
  ⟨⟨rfl, rfl, rfl, rfl, .inr rfl⟩, rfl, fun q hq => by cases q <;> simp_all [part]⟩

theorem changesOnly_separator (n : Node) (ns : List Node) :
    ChangesOnly .separator n { n with separator := ns } :=
  ⟨⟨rfl, rfl, rfl, rfl, .inr rfl⟩, rfl, fun q hq => by cases q <;> simp_all [part]⟩

theorem changesOnly_value (n : Node) (v : Option Node) : ChangesOnly .value n { n with value := v } :=
  ⟨⟨rfl, rfl, rfl, rfl, .inr rfl⟩, rfl, fun q hq => by cases q <;> simp_all [part]⟩

theorem changesOnly_items (n : Node) (ns : List Node) : ChangesOnly .items n { n with items := ns } :=
  ⟨⟨rfl, rfl, rfl, rfl, .inr rfl⟩, rfl, fun q hq => by cases q <;> simp_all [part]⟩

theorem changesOnly_stop (n : Node) (ns : List Node) : ChangesOnly .stop n { n with stop := ns } :=
  ⟨⟨rfl, rfl, rfl, rfl, .inr rfl⟩, rfl, fun q hq => by cases q <;> simp_all [part]⟩

theorem areKeptBy_concat (ns : List Node) {n m : Node} (h : IsKeptBy n m) :
    AreKeptBy (ns ++ [n]) (ns ++ [m]) := by
  intro i x hx
  rcases Nat.lt_or_ge i ns.length with hi | hi
  · rw [List.getElem?_append_left hi] at hx ⊢
    exact ⟨x, hx, .refl x⟩
  · rw [List.getElem?_append_right hi] at hx ⊢
    obtain ⟨h0, rfl⟩ : i - ns.length = 0 ∧ n = x := by simpa [List.getElem?_singleton] using hx
    exact ⟨m, by rw [h0]; rfl, h⟩

/-- A part that held one node holds one that keeps it. -/
theorem areKeptBy_some {n m : Node} (h : IsKeptBy n m) :
    AreKeptBy (some n).toList (some m).toList := areKeptBy_concat [] h

end YamlStyle.Node
