import YamlStyle.Proofs.Yaml.Layout

/-!
# Possible keys

A possible key remembers a token that has arrived, by its number. When a colon claims it, tokens
are put before that one; what has arrived since must still fit. Only a key outside flow
collections can change the blocks, and what follows such a key stays on its line.
-/

namespace YamlStyle.Yaml

open Layout

/-- A possible key at flow depth `d`, whose token arrived as `a` after `pre`. -/
structure Pending (d : Nat) (key : SimpleKey) (pre : List Arrival) (a : Arrival) : Prop where
  number : key.number = position pre a
  mark : a.token.start = key.mark
  keyable : a.token.kind.isKeyable = true
  fits : (Layout.start.afterAll pre).Fits a
  depth : (Layout.start.afterAll pre).depth = d
  fresh : ∀ x ∈ (Layout.start.afterAll pre).last, x.start.offset < a.token.start.offset

/-- A possible key outside flow collections. Only its own token may fail to be admitted, and
only if the key is required. -/
structure Base (key : SimpleKey) (pre : List Arrival) (a : Arrival) (post : List Arrival) : Prop where
  earlier : Walks Admits .start pre
  optional : key.required = false → ¬(Layout.start.afterAll pre).Misses a
  later : Walks Admits ((Layout.start.afterAll pre).after a) post
  line : Walks (Inline key.mark.column) ((Layout.start.afterAll pre).after a) post

/-- What holds of the possible keys, by flow depth, and of the arrivals. -/
structure KeysHold (keys : List (Nat × SimpleKey)) (as : List Arrival) : Prop where
  sorted : keys.Pairwise fun x y => x.1 < y.1 ∧ x.2.number < y.2.number
  pending : ∀ x ∈ keys, ∃ pre a post, as = pre ++ a :: post ∧ Pending x.1 x.2 pre a ∧
    (x.1 = 0 → Base x.2 pre a post)
  free : (∀ x ∈ keys, x.1 ≠ 0) → Walks Admits .start as

namespace KeysHold

variable {keys : List (Nat × SimpleKey)} {as : List Arrival} {b : Arrival}

theorem nil : KeysHold [] [] := ⟨.nil, fun x hx => by simp at hx, fun _ => trivial⟩

/-- Without a required key all arrivals are admitted. -/
theorem walks (h : KeysHold keys as) (hr : ∀ x ∈ keys, x.1 = 0 → x.2.required = false) : Walks Admits .start as := by
  by_cases hbase : ∃ x ∈ keys, x.1 = 0
  · obtain ⟨x, hx, h0⟩ := hbase
    obtain ⟨pre, a, post, rfl, hp, hb⟩ := h.pending x hx
    have hb := hb h0
    exact walks_append.2 ⟨hb.earlier, ⟨hp.fits, hb.optional (hr x hx h0)⟩, hb.later⟩
  · exact h.free fun x hx h0 => hbase ⟨x, hx, h0⟩

/-- Possible keys are forgotten, required ones excepted. -/
theorem filter (h : KeysHold keys as) {p : Nat × SimpleKey → Bool}
    (hr : ∀ x ∈ keys, p x = false → x.2.required = false) : KeysHold (keys.filter p) as where
  sorted := h.sorted.filter p
  pending x hx := h.pending x (List.mem_filter.1 hx).1
  free hfree := h.walks fun x hx h0 => hr x hx (by
    cases hp : p x with
    | false => rfl
    | true => exact absurd h0 (hfree x (List.mem_filter.2 ⟨hx, hp⟩)))

/-- A possible key stays one with one more arrival, which comes on its line unless it is in a flow
collection. -/
theorem pending_append (h : KeysHold keys as) (hb : (Layout.start.afterAll as).Admits b) {x : Nat × SimpleKey}
    (hx : x ∈ keys) (hline : x.1 = 0 → (Layout.start.afterAll as).Inline x.2.mark.column b) :
    ∃ pre a post, as ++ [b] = pre ++ a :: post ∧ Pending x.1 x.2 pre a ∧ (x.1 = 0 → Base x.2 pre a post) := by
  obtain ⟨pre, a, post, rfl, hp, hbase⟩ := h.pending x hx
  refine ⟨pre, a, post ++ [b], by simp, hp, fun h0 => ?_⟩
  have hbase := hbase h0
  have hl := hline h0
  rw [afterAll_append, afterAll_cons] at hb hl
  exact ⟨hbase.earlier, hbase.optional, walks_append.2 ⟨hbase.later, hb, trivial⟩,
    walks_append.2 ⟨hbase.line, hl, trivial⟩⟩

/-- One more arrival, on the line of a key outside flow collections if there is one. -/
theorem arrive (h : KeysHold keys as) (hb : (Layout.start.afterAll as).Admits b)
    (hline : ∀ x ∈ keys, x.1 = 0 → (Layout.start.afterAll as).Inline x.2.mark.column b) :
    KeysHold keys (as ++ [b]) where
  sorted := h.sorted
  pending x hx := h.pending_append hb hx (hline x hx)
  free hfree := walks_append.2 ⟨h.free hfree, hb, trivial⟩

/-- An arrival that is a possible key itself, deeper than all others. -/
theorem save (h : KeysHold keys as) {d : Nat} {key : SimpleKey} (hp : Pending d key as b)
    (hkeys : ∀ x ∈ keys, x.1 < d ∧ x.2.number < key.number)
    (hopt : key.required = false → ¬(Layout.start.afterAll as).Misses b)
    (hline : ∀ x ∈ keys, x.1 = 0 → (Layout.start.afterAll as).Inline x.2.mark.column b) :
    KeysHold (keys ++ [(d, key)]) (as ++ [b]) where
  sorted := by
    refine List.pairwise_append.2 ⟨h.sorted, by simp, fun x hx y hy => ?_⟩
    rw [List.mem_singleton.1 hy]
    exact hkeys x hx
  pending x hx := by
    rcases List.mem_append.1 hx with hx | hx
    · -- A key further out: this one is inside a flow collection.
      have hd := hkeys x hx
      have hadmits : (Layout.start.afterAll as).Admits b := ⟨hp.fits, fun hm => by
        have := hm.depth
        rw [hp.depth] at this
        omega⟩
      exact h.pending_append hadmits hx (hline x hx)
    · -- The key of the arrival itself.
      rw [List.mem_singleton.1 hx]
      refine ⟨as, b, [], rfl, hp, fun h0 => ⟨h.free fun x hx => ?_, hopt, trivial, trivial⟩⟩
      have := (hkeys x hx).1
      simp only at h0
      omega
  free hfree := by
    have hd : d ≠ 0 := hfree (d, key) (by simp)
    refine walks_append.2 ⟨h.free fun x hx => hfree x (by simp [hx]), ⟨hp.fits, fun hm => hd ?_⟩, trivial⟩
    rw [← hp.depth, hm.depth]

/-! ## A colon claims a key -/

variable {d : Nat} {key : SimpleKey}

theorem number_lt (h : KeysHold keys as) {x y : Nat × SimpleKey} (hx : x ∈ keys) (hy : y ∈ keys) (hd : x.1 < y.1) :
    x.2.number < y.2.number := by
  refine List.Pairwise.forall_of_forall_of_flip (R := fun x y : Nat × SimpleKey => x.1 < y.1 → x.2.number < y.2.number)
    ?_ ?_ ?_ hx hy hd
  · intro x _ hlt
    exact absurd hlt (Nat.lt_irrefl _)
  · exact h.sorted.imp fun hxy _ => hxy.2
  · refine h.sorted.imp fun {x y} hxy hlt => ?_
    have := hxy.1
    omega

/-- There is one key at most at each depth. -/
theorem lookup_eq (h : KeysHold keys as) {x : Nat × SimpleKey} (hx : x ∈ keys) : keys.lookup x.1 = some x.2 := by
  have hs := h.sorted
  clear h
  induction keys with
  | nil => simp at hx
  | cons y keys ih =>
    obtain ⟨d, key⟩ := y
    rcases List.mem_cons.1 hx with rfl | hx
    · simp
    · have hlt := (List.rel_of_pairwise_cons hs hx).1
      have hne : (x.1 == d) = false := by
        simp only [beq_eq_false_iff_ne]
        omega
      rw [List.lookup_cons, hne]
      exact ih hx hs.of_cons

theorem mem_of_lookup {d : Nat} (h : keys.lookup d = some key) : (d, key) ∈ keys := by
  obtain ⟨l, r, rfl, -⟩ := List.lookup_eq_some_iff.1 h
  simp

theorem lt_of_mem_filter (hd : ∀ x ∈ keys, x.1 ≤ d) {x : Nat × SimpleKey} (hx : x ∈ keys.filter (·.1 != d)) :
    x ∈ keys ∧ x.1 < d := by
  obtain ⟨hmem, hne⟩ := List.mem_filter.1 hx
  have hne : x.1 ≠ d := by simpa using hne
  have hle := hd x hmem
  exact ⟨hmem, by omega⟩

/-- The innermost key is claimed: a key is put before its token. -/
theorem claim (h : KeysHold keys as) (hkey : (d, key) ∈ keys) (hd : ∀ x ∈ keys, x.1 ≤ d) :
    ∃ pre a post, as = pre ++ a :: post ∧ Pending d key pre a ∧ (d = 0 → Base key pre a post) ∧
      KeysHold (keys.filter (·.1 != d)) (pre ++ keyed a ++ post) := by
  obtain ⟨pre, a, post, rfl, hp, hbase⟩ := h.pending _ hkey
  refine ⟨pre, a, post, rfl, hp, hbase, h.sorted.filter _, fun x hx => ?_, fun hfree => ?_⟩
  · -- A key further out: the claimed token is among the later arrivals.
    obtain ⟨hmem, hlt⟩ := lt_of_mem_filter hd hx
    obtain ⟨pre', a', post', heq, hp', hbase'⟩ := h.pending x hmem
    have hnum := h.number_lt hmem hkey hlt
    rw [hp'.number, hp.number] at hnum
    obtain ⟨mid, rfl, rfl⟩ := append_cons_eq_of_position_lt heq hnum
    have hdepth := hp.depth
    have hfresh := hp.fresh
    rw [afterAll_append, afterAll_cons] at hdepth hfresh
    refine ⟨pre', a', mid ++ keyed a ++ post, by simp, hp', fun h0 => ?_⟩
    have hbase' := hbase' h0
    refine ⟨hbase'.earlier, hbase'.optional, walks_insert_keyed hbase'.later hp.keyable hfresh,
      walks_inline_insert_keyed hbase'.line ?_⟩
    omega
  · by_cases h0 : d = 0
    · have hbase := hbase h0
      rw [List.append_assoc, walks_append, walks_append, afterAll_keyed]
      exact ⟨hbase.earlier, walks_keyed hp.fits hp.keyable fun x hx => .inl (hp.fresh x hx), hbase.later⟩
    · refine walks_insert_keyed (h.free fun x hx hx0 => ?_) hp.keyable hp.fresh
      refine hfree x (List.mem_filter.2 ⟨hx, ?_⟩) hx0
      simp only [bne_iff_ne, ne_eq, hx0]
      omega

/-- A key outside flow collections that is deeper than the block around it opens a mapping. -/
theorem claim_mapped {pre post : List Arrival} {a : Arrival} (hp : Pending 0 key pre a) (hb : Base key pre a post)
    (hdeep : ∀ b ∈ ((Layout.start.afterAll pre).within a).head?, b.column < a.token.start.column) :
    KeysHold [] (pre ++ mapped a ++ post) := by
  refine ⟨.nil, fun x hx => by simp at hx, fun _ => ?_⟩
  rw [List.append_assoc, walks_append, walks_append, afterAll_mapped hp.keyable, hp.mark]
  exact ⟨hb.earlier, walks_mapped hp.fits hp.keyable hp.depth hp.fresh hdeep, walks_inner hb.line hb.later⟩

end KeysHold

end YamlStyle.Yaml
