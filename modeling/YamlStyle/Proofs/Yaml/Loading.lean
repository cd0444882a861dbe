import YamlStyle.Proofs.Yaml.Ensures
import YamlStyle.Yaml.Load

/-!
# Keys of loaded maps

Whatever is loaded, no map has two keys that are the same. Each step of loading keeps this of all the
cells that there are (`Load.Gives`), so it holds of the store in the end, and of the values seen in it
(`Value.isDistinct_ofLoaded`).
-/

namespace YamlStyle.Yaml

/-- No two keys are the same. -/
def AreDistinct {α : Type} (pairs : List (Item × α)) : Prop := pairs.Pairwise fun p q => p.1.isSame q.1 = false

def Cell.IsDistinct : Cell → Prop
  | map pairs | ordered pairs => AreDistinct pairs
  | list _ | set _ => True

/-- No map in a store has two keys that are the same. -/
def Store.IsDistinct (s : Store) : Prop := ∀ c ∈ s, c.IsDistinct

namespace Item

variable {pairs : List (Item × Item)} {key value : Item}

theorem areDistinct_concat (h : AreDistinct pairs) (hnone : lookup? pairs key = none) (value : Item) :
    AreDistinct (pairs ++ [(key, value)]) := by
  refine List.pairwise_append.2 ⟨h, List.pairwise_singleton _ _, fun p hp q hq => ?_⟩
  cases List.mem_singleton.1 hq
  rw [lookup?, Option.map_eq_none_iff, List.find?_eq_none] at hnone
  simpa using hnone p hp

theorem areDistinct_insert (h : AreDistinct pairs) (key value : Item) : AreDistinct (insert pairs key value) := by
  unfold insert
  split
  · refine List.pairwise_map.2 (h.imp fun {p q} hpq => ?_)
    split <;> split <;> exact hpq
  · next hnone =>
    exact areDistinct_concat h (by simpa using hnone) value

end Item

namespace Load

variable {α β : Type} {P : α → Prop} {Q : β → Prop}

/-- Whatever the computation gives satisfies `P`, and it keeps the keys of all maps distinct. -/
def Gives (x : Load α) (P : α → Prop) : Prop :=
  ∀ s, s.store.IsDistinct → Ensures x s fun a s' => s'.store.IsDistinct ∧ P a

abbrev Keeps (x : Load α) : Prop := Gives x fun _ => True

theorem gives_pure {a : α} (h : P a) : Gives (pure a) P := fun _ hs => (ensures_pure a).2 ⟨hs, h⟩

theorem keeps_pure (a : α) : Keeps (pure a) := gives_pure trivial

theorem gives_throw (f : LoadFailure) : Gives (throw f : Load α) P := fun _ _ => ensures_throw f

theorem Gives.bind {x : Load α} {f : α → Load β} (hx : Gives x P) (hf : ∀ a, P a → Gives (f a) Q) :
    Gives (x >>= f) Q :=
  fun s hs => ensures_bind.2 ((hx s hs).imp fun a s' h => hf a h.2 s' h.1)

theorem Keeps.bind {x : Load α} {f : α → Load β} (hx : Keeps x) (hf : ∀ a, Gives (f a) Q) : Gives (x >>= f) Q :=
  Gives.bind hx fun a _ => hf a

theorem gives_get : Gives get fun s => s.store.IsDistinct := fun _ hs => ensures_get.2 ⟨hs, hs⟩

theorem keeps_get : Keeps get := fun _ hs => ensures_get.2 ⟨hs, trivial⟩

theorem keeps_modify {f : Loader → Loader} (hf : ∀ s, s.store.IsDistinct → (f s).store.IsDistinct) :
    Keeps (modify f) := fun s hs => (ensures_modify f).2 ⟨hf s hs, trivial⟩

theorem gives_ite {b : Prop} [Decidable b] {x y : Load α} (hx : b → Gives x P) (hy : ¬b → Gives y P) :
    Gives (if b then x else y) P := by
  split
  · next h => exact hx h
  · next h => exact hy h

/-- A check that fails or does nothing. -/
theorem gives_check {b : Prop} [Decidable b] {x : Load PUnit} {y : PUnit → Load α} (hx : Keeps x)
    (hy : ∀ u, Gives (y u) P) : Gives (if b then x >>= y else y ⟨⟩) P :=
  gives_ite (fun _ => hx.bind hy) fun _ => hy ⟨⟩

theorem keeps_mapM {f : α → Load β} (hf : ∀ a, Keeps (f a)) (xs : List α) : Keeps (xs.mapM f) := by
  induction xs with
  | nil => exact keeps_pure _
  | cons x xs ih =>
    rw [List.mapM_cons]
    exact (hf x).bind fun _ => ih.bind fun _ => keeps_pure _

theorem keeps_findM? {f : α → Load Bool} (hf : ∀ a, Keeps (f a)) (xs : List α) : Keeps (xs.findM? f) := by
  induction xs with
  | nil => exact keeps_pure _
  | cons x xs ih =>
    rw [List.findM?]
    refine (hf x).bind fun found => ?_
    cases found
    · exact ih
    · exact keeps_pure _

theorem gives_foldlM {f : β → α → Load β} (hf : ∀ b a, Q b → Gives (f b a) Q) {b : β} (hb : Q b) (xs : List α) :
    Gives (xs.foldlM f b) Q := by
  induction xs generalizing b with
  | nil => exact gives_pure hb
  | cons x xs ih =>
    rw [List.foldlM_cons]
    exact (hf b x hb).bind fun _ hc => ih hc

theorem keeps_forIn {f : α → β → Load (ForInStep β)} (hf : ∀ a b, Keeps (f a b)) (xs : List α) (b : β) :
    Keeps (forIn xs b f) := by
  induction xs generalizing b with
  | nil => exact keeps_pure _
  | cons x xs ih =>
    rw [List.forIn_cons]
    refine (hf x b).bind fun step => ?_
    cases step
    · exact keeps_pure _
    · exact ih _

/-! ## What does not touch the store -/

theorem keeps_datum (id : NodeId) : Keeps (datum id) := keeps_get.bind fun _ => keeps_pure _

theorem keeps_setPairs (id : NodeId) (pairs : List (NodeId × NodeId)) : Keeps (setPairs id pairs) :=
  keeps_modify fun _ hs => hs

theorem gives_failInside (context : Context) (start : Mark) (cause : Cause) (node : NodeId) :
    Gives (failInside context start cause node : Load α) P := (keeps_datum node).bind fun _ => gives_throw _

theorem gives_failSort (wanted : NodeSort) (d : Datum) : Gives (failSort wanted d : Load α) P := gives_throw _

mutual

theorem keeps_flatten (fuel : Nat) (id : NodeId) : Keeps (flatten fuel id) := by
  match fuel with
  | 0 =>
    rw [flatten]
    exact gives_throw _
  | fuel + 1 =>
    rw [flatten]
    refine (keeps_flattenFrom fuel id 0 []).bind fun taken => gives_ite (fun _ => ?_) fun _ => keeps_pure _
    exact Keeps.bind (keeps_modify fun _ hs => hs) fun _ => (keeps_datum id).bind fun _ => keeps_setPairs _ _

theorem keeps_flattenFrom (fuel : Nat) (id : NodeId) (index : Nat) (taken : List (NodeId × NodeId)) :
    Keeps (flattenFrom fuel id index taken) := by
  match fuel with
  | 0 =>
    rw [flattenFrom]
    exact gives_throw _
  | fuel + 1 =>
    rw [flattenFrom]
    refine (keeps_datum id).bind fun d => ?_
    split
    · exact keeps_pure _
    · next key value hpair =>
      have hnext : ∀ u : PUnit, Keeps (do
          setPairs id (d.pairs.eraseIdx index)
          flattenFrom fuel id index (taken ++ (← mergedPairs fuel d.start value))) := fun _ =>
        (keeps_setPairs _ _).bind fun _ => (keeps_mergedPairs fuel d.start value).bind fun _ =>
          keeps_flattenFrom fuel id index _
      refine (keeps_datum key).bind fun _ => gives_ite (fun _ => ?_) fun _ => ?_
      · exact gives_check (gives_failInside _ _ _ _) hnext
      · refine gives_ite (fun _ => ?_) fun _ => keeps_flattenFrom fuel id (index + 1) taken
        exact Keeps.bind (keeps_modify fun _ hs => hs) fun _ => keeps_flattenFrom fuel id (index + 1) taken

theorem keeps_mergedPairs (fuel : Nat) (start : Mark) (id : NodeId) : Keeps (mergedPairs fuel start id) := by
  match fuel with
  | 0 =>
    rw [mergedPairs]
    exact gives_throw _
  | fuel + 1 =>
    rw [mergedPairs]
    refine (keeps_datum id).bind fun d => ?_
    split
    · exact (keeps_flatten fuel id).bind fun _ => (keeps_datum id).bind fun _ => keeps_pure _
    · refine (keeps_mapM (fun item => (keeps_datum item).bind fun d => ?_) _).bind fun _ => keeps_pure _
      have hnext : ∀ u : PUnit, Keeps (do flatten fuel item; return (← datum item).pairs) := fun _ =>
        (keeps_flatten fuel item).bind fun _ => (keeps_datum item).bind fun _ => keeps_pure _
      exact gives_check (gives_failInside _ _ _ _) hnext
    · exact gives_failInside _ _ _ _

end

theorem keeps_scalarText (fuel : Nat) (id : NodeId) : Keeps (scalarText fuel id) := by
  induction fuel generalizing id with
  | zero =>
    rw [scalarText]
    exact gives_throw _
  | succ fuel ih =>
    rw [scalarText]
    refine (keeps_datum id).bind fun d => ?_
    split
    · exact keeps_pure _
    · refine (keeps_findM? (fun _ => (keeps_datum _).bind fun _ => keeps_pure _) _).bind fun found => ?_
      split
      · exact ih _
      · exact gives_failSort _ _
    · exact gives_failSort _ _

theorem keeps_atom (fuel : Nat) (kind : Scalar.Kind) (id : NodeId) : Keeps (atom fuel kind id) := by
  unfold atom
  refine (keeps_datum id).bind fun d => ?_
  split
  · refine (keeps_pure _).bind fun text => keeps_get.bind fun s => ?_
    split
    · exact keeps_pure _
    · exact gives_throw _
  · exact keeps_get.bind fun _ => Gives.bind (P := fun _ => False) (gives_throw _) fun _ h => h.elim
  · refine (keeps_scalarText fuel id).bind fun text => keeps_get.bind fun s => ?_
    split
    · exact keeps_pure _
    · exact gives_throw _

theorem keeps_checkKey (key : Item) : Keeps (checkKey key) := by
  unfold checkKey
  refine keeps_get.bind fun _ => ?_
  split
  · exact gives_throw _
  · exact keeps_pure _

theorem keeps_written (x : Item) : Keeps (written x) := by
  unfold written
  refine keeps_get.bind fun _ => ?_
  split
  · exact keeps_pure _
  · exact gives_throw _

theorem keeps_asKey (start : Mark) (node : NodeId) (x : Item) : Keeps (asKey start node x) := by
  unfold asKey
  split
  · refine keeps_get.bind fun _ => ?_
    split
    · exact keeps_pure _
    · exact gives_failInside _ _ _ _
  · exact keeps_pure _

theorem keeps_onlyPair (c : Collection) (start : Mark) (item : NodeId) : Keeps (onlyPair c start item) := by
  unfold onlyPair
  refine (keeps_datum item).bind fun _ => ?_
  split
  · exact keeps_pure _
  · exact gives_failInside _ _ _ _
  · exact gives_failInside _ _ _ _

theorem keeps_orderedItems (c : Collection) (id : NodeId) : Keeps (orderedItems c id) := by
  unfold orderedItems
  refine (keeps_datum id).bind fun _ => ?_
  split
  · exact keeps_pure _
  · exact gives_failInside _ _ _ _

theorem keeps_checkOrderedKey (cell : CellId) (key : Item) : Keeps (checkOrderedKey cell key) := by
  unfold checkOrderedKey
  refine keeps_get.bind fun _ => ?_
  split
  · exact (keeps_checkKey key).bind fun _ => gives_ite (fun _ => gives_throw _) fun _ => keeps_pure _
  · exact keeps_pure _

/-! ## What touches the store -/

theorem keeps_setCell (id : CellId) {cell : Cell} (h : cell.IsDistinct) : Keeps (setCell id cell) := by
  refine keeps_modify fun s hs c hc => ?_
  rcases Array.mem_or_eq_of_mem_setIfInBounds hc with hc | rfl
  · exact hs c hc
  · exact h

theorem isDistinct_get {s : Store} (hs : s.IsDistinct) (id : CellId) : (s.get id).IsDistinct := by
  unfold Store.get
  rw [Array.getD_eq_getD_getElem?]
  cases hget : s[id]? with
  | none => trivial
  | some c => exact hs c (Array.mem_of_getElem? hget)

theorem keeps_newCell {cell : Cell} (h : cell.IsDistinct) : Keeps (newCell cell) := by
  refine keeps_get.bind fun _ => Keeps.bind (keeps_modify fun s hs c hc => ?_) fun _ => keeps_pure _
  rcases Array.mem_push.1 hc with hc | rfl
  · exact hs c hc
  · exact h

theorem keeps_addPair (cell : CellId) (key value : Item) : Keeps (addPair cell key value) := by
  unfold addPair
  refine gives_get.bind fun s hs => ?_
  have hcell := isDistinct_get hs cell
  split
  · next pairs hpairs =>
    rw [hpairs] at hcell
    exact keeps_setCell cell (Item.areDistinct_insert hcell key value)
  · exact keeps_setCell cell trivial
  · exact keeps_pure _

/-- Adding the pair of two nodes to those of a mapping. -/
theorem gives_addEntry (d : Datum) (taken : List (NodeId × NodeId)) (keyNode : NodeId) {key value : Load Item}
    (hkey : Keeps key) (hvalue : Keeps value) {pairs : List (Item × Item)} (h : AreDistinct pairs) :
    Gives (do
      let key ← asKey d.start keyNode (← key)
      let x ← value
      checkKey key
      match Item.lookup? pairs key with
      | some first =>
        if taken.isEmpty then
          failInside .mapping d.start (.secondKey (← written key) (← written x) (← written first)) keyNode
        else return Item.insert pairs key x
      | none => return pairs ++ [(key, x)]) AreDistinct := by
  refine hkey.bind fun _ => (keeps_asKey d.start keyNode _).bind fun key => hvalue.bind fun x =>
    (keeps_checkKey key).bind fun _ => ?_
  split
  · refine gives_ite (fun _ => ?_) fun _ => gives_pure (Item.areDistinct_insert h key x)
    exact (keeps_written _).bind fun _ => (keeps_written _).bind fun _ => (keeps_written _).bind fun _ =>
      gives_failInside _ _ _ _
  · next hnone => exact gives_pure (Item.areDistinct_concat h hnone x)

mutual

theorem keeps_value (fuel : Nat) (deep : Bool) (id : NodeId) : Keeps (value fuel deep id) := by
  match fuel with
  | 0 =>
    rw [value]
    exact gives_throw _
  | fuel + 1 =>
    rw [value]
    refine keeps_get.bind fun s => ?_
    split
    · exact keeps_pure _
    · have hmade : Keeps (do
          modify fun s => { s with underway := id :: s.underway }
          let x ← newValue fuel id
          modify fun t => { t with
            made := t.made.set! id (some x)
            underway := t.underway.erase id
            isDeep := if deep then s.isDeep else t.isDeep }
          return x) :=
        Keeps.bind (keeps_modify fun _ hs => hs) fun _ => (keeps_newValue fuel id).bind fun _ =>
          Keeps.bind (keeps_modify fun _ hs => hs) fun _ => keeps_pure _
      refine gives_check (keeps_modify fun _ hs => hs) fun _ => ?_
      exact gives_ite (fun _ => keeps_pure _) fun _ => hmade

theorem keeps_newValue (fuel : Nat) (id : NodeId) : Keeps (newValue fuel id) := by
  match fuel with
  | 0 =>
    rw [newValue]
    exact gives_throw _
  | fuel + 1 =>
    rw [newValue]
    refine (keeps_datum id).bind fun d => ?_
    split
    · exact (keeps_atom fuel _ id).bind fun _ => keeps_pure _
    · next c _ _ =>
      have hempty : c.empty.IsDistinct := by
        cases c <;> first | trivial | exact List.Pairwise.nil
      refine (keeps_newCell hempty).bind fun cell => keeps_get.bind fun s => gives_ite (fun _ => ?_) fun _ => ?_
      · exact (keeps_fill fuel c id cell).bind fun _ => keeps_pure _
      · exact Keeps.bind (keeps_modify fun _ hs => hs) fun _ => keeps_pure _
    · exact gives_throw _

theorem keeps_fill (fuel : Nat) (c : Collection) (id : NodeId) (cell : CellId) : Keeps (fill fuel c id cell) := by
  match fuel with
  | 0 =>
    rw [fill]
    exact gives_throw _
  | fuel + 1 =>
    have hitem (c : Collection) (start : Mark) (item : NodeId) :=
      (keeps_onlyPair c start item).bind fun pair => (keeps_value fuel false pair.1).bind fun key =>
        (keeps_checkOrderedKey cell key).bind fun _ => (keeps_value fuel false pair.2).bind fun x =>
          (keeps_addPair cell key x).bind fun _ => keeps_pure (ForInStep.yield PUnit.unit)
    rw [fill.eq_def]
    dsimp only
    split
    · refine (keeps_datum id).bind fun d => gives_check (gives_failSort _ _) fun _ => ?_
      exact (keeps_mapM (keeps_value fuel false) _).bind fun _ => keeps_setCell cell trivial
    · exact (gives_entries fuel id).bind fun _ hpairs => keeps_setCell cell hpairs
    · exact (gives_entries fuel id).bind fun _ _ => keeps_setCell cell trivial
    · exact (keeps_datum id).bind fun d => (keeps_orderedItems _ id).bind fun _ =>
        (keeps_forIn (fun item _ => hitem _ d.start item) _ _).bind fun _ => keeps_pure _
    · exact (keeps_datum id).bind fun d => (keeps_orderedItems _ id).bind fun _ =>
        (keeps_forIn (fun item _ => hitem _ d.start item) _ _).bind fun _ => keeps_pure _

/-- The keys of a mapping are distinct. -/
theorem gives_entries (fuel : Nat) (id : NodeId) : Gives (entries fuel id) AreDistinct := by
  match fuel with
  | 0 =>
    rw [entries]
    exact gives_throw _
  | fuel + 1 =>
    have hpair (d : Datum) (taken : List (NodeId × NodeId)) {pairs : List (Item × Item)} (h : AreDistinct pairs)
        (pair : NodeId × NodeId) :=
      gives_addEntry d taken pair.1 (keeps_value fuel true pair.1) (keeps_value fuel false pair.2) h
    rw [entries]
    dsimp only
    refine (keeps_datum id).bind fun _ => gives_ite (fun _ => ?_) fun _ => ?_
    · exact (keeps_datum id).bind fun _ => Gives.bind (gives_failSort _ _) fun _ => False.elim
    · exact keeps_get.bind fun _ => (keeps_flatten _ id).bind fun _ => (keeps_datum id).bind fun d =>
        keeps_get.bind fun _ => gives_foldlM (fun _ pair h => hpair d _ h pair) List.Pairwise.nil _

end

theorem keeps_fillWaiting (fuel rounds : Nat) : Keeps (fillWaiting fuel rounds) := by
  induction rounds with
  | zero => exact keeps_pure _
  | succ rounds ih =>
    rw [fillWaiting]
    refine keeps_get.bind fun s => gives_ite (fun _ => keeps_pure _) fun _ => ?_
    refine Keeps.bind (keeps_modify fun _ hs => hs) fun _ => Keeps.bind (keeps_forIn (fun x _ => ?_) _ _) fun _ => ih
    exact (keeps_fill fuel x.1 x.2.1 x.2.2).bind fun _ => keeps_pure _

end Load

theorem isDistinct_empty : Store.IsDistinct #[] := fun c hc => absurd hc (Array.not_mem_empty c)

theorem DatumGraph.isDistinct_of_load {g : DatumGraph} {v : Loaded} (h : g.load = .ok v) : v.store.IsDistinct := by
  have hkeeps (fuel rounds : Nat) : Load.Keeps (do
      let root ← Load.value fuel false g.root
      Load.fillWaiting fuel rounds
      return root) :=
    (Load.keeps_value fuel false g.root).bind fun _ => (Load.keeps_fillWaiting fuel rounds).bind fun _ =>
      Load.keeps_pure _
  unfold DatumGraph.load at h
  dsimp only at h
  generalize hrun : StateT.run _ _ = result at h
  cases result with
  | error f => cases h
  | ok r =>
    cases h
    exact (hkeeps _ _ _ isDistinct_empty r.1 r.2 hrun).1

/-- No map of a loaded document has two keys that are the same. -/
theorem isDistinct_of_load {t : Text} {v : Loaded} (h : load t = .ok v) : v.store.IsDistinct := by
  unfold load at h
  cases hg : (DatumGraph.ofText t).mapError LoadFailure.unreadable with
  | error f =>
    rw [hg] at h
    cases h
  | ok g? =>
    rw [hg] at h
    cases g? with
    | none =>
      cases h
      exact isDistinct_empty
    | some g => exact g.isDistinct_of_load h

/-! ## Values -/

/-- No map in a value has two keys that are the same. -/
inductive Value.IsDistinct : Value → Prop
  | atom (a : Atom) : IsDistinct (.atom a)
  | list {xs : List Value} (h : ∀ x ∈ xs, IsDistinct x) : IsDistinct (.list xs)
  | map {pairs : List (Item × Value)} (keys : AreDistinct pairs) (values : ∀ p ∈ pairs, IsDistinct p.2) :
    IsDistinct (.map pairs)
  | other : IsDistinct .other

namespace Value

theorem isDistinct_ofItem {seen : Array Value} (h : ∀ v ∈ seen, v.IsDistinct) (x : Item) :
    (ofItem seen x).IsDistinct := by
  unfold ofItem
  split
  · exact .atom _
  · next id =>
    rw [Array.getD_eq_getD_getElem?]
    cases hget : seen[id]? with
    | none => exact .other
    | some v => exact h v (Array.mem_of_getElem? hget)
  · exact .other

theorem isDistinct_ofCell {seen : Array Value} (h : ∀ v ∈ seen, v.IsDistinct) {c : Cell} (hc : c.IsDistinct) :
    (ofCell seen c).IsDistinct := by
  have hmap {pairs : List (Item × Item)} (hpairs : AreDistinct pairs) :
      (Value.map (pairs.map fun p => (p.1, ofItem seen p.2))).IsDistinct := by
    refine .map (List.pairwise_map.2 hpairs) fun p hp => ?_
    obtain ⟨q, -, rfl⟩ := List.mem_map.1 hp
    exact isDistinct_ofItem h q.2
  cases c with
  | list xs =>
    refine .list fun v hv => ?_
    obtain ⟨x, -, rfl⟩ := List.mem_map.1 hv
    exact isDistinct_ofItem h x
  | map pairs => exact hmap hc
  | ordered pairs => exact hmap hc
  | set xs => exact .other

theorem isDistinct_of_mem_ofStore {s : Store} (hs : s.IsDistinct) {depth : Nat} {v : Value} (hv : v ∈ ofStore s depth) :
    v.IsDistinct := by
  induction depth generalizing v with
  | zero =>
    obtain ⟨c, -, rfl⟩ := Array.mem_map.1 hv
    exact .other
  | succ depth ih =>
    obtain ⟨c, hc, rfl⟩ := Array.mem_map.1 hv
    exact isDistinct_ofCell (fun _ => ih) (hs c hc)

theorem isDistinct_ofLoaded {v : Loaded} (hv : v.store.IsDistinct) (depth : Nat) : (ofLoaded depth v).IsDistinct :=
  isDistinct_ofItem (fun _ => isDistinct_of_mem_ofStore hv) v.root

end Value

end YamlStyle.Yaml
