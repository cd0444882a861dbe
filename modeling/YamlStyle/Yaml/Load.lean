import YamlStyle.Yaml.ScalarValue
import YamlStyle.Yaml.Store

/-!
# Loading values

The value that a text stands for. A node is made into a value once, and is the same value wherever
it is a part of something. The value of a collection is there before its parts are, which are
looked at level by level from the top; only keys are made with all their parts at once. A node
that is needed to make itself is null there.

A loaded value is seen from its outermost part down to a depth. A value may have a part in several
places, or itself as a part, so what is below that depth is left out.
-/

/-! ## Loading -/

namespace YamlStyle.Yaml

/-- The tags of collections. -/
inductive Collection where
  | list | map | set | orderedMap | pairs
  deriving DecidableEq, Repr

namespace Collection

def ofTag? (tag : String) : Option Collection :=
  [("seq", list), ("map", map), ("set", set), ("omap", orderedMap), ("pairs", pairs)].findSome?
    fun (name, c) => if tag == commonTag name then some c else none

/-- The cell of a collection that has not been filled. -/
def empty : Collection → Cell
  | list | pairs => .list []
  | map => .map []
  | orderedMap => .ordered []
  | set => .set []

end Collection

/-- A document that is being loaded. -/
structure Loader where
  version : Version
  nodes : Array Datum
  /-- The pairs that each mapping has taken over from others. -/
  taken : Array (List (NodeId × NodeId))
  store : Store
  made : Array (Option Item)
  /-- The nodes that are being made. -/
  underway : List NodeId
  /-- Whether collections are filled as soon as they are made. -/
  isDeep : Bool
  /-- The collections to fill later, latest first. -/
  waiting : List (Collection × NodeId × CellId)

abbrev Load := StateT Loader (Except LoadFailure)

namespace Load

def datum (id : NodeId) : Load Datum := do return (← get).nodes.getD id .missing

def setPairs (id : NodeId) (pairs : List (NodeId × NodeId)) : Load Unit :=
  modify fun s => { s with nodes := s.nodes.modify id fun d => { d with content := .mapping pairs } }

def setCell (id : CellId) (cell : Cell) : Load Unit :=
  modify fun s => { s with store := s.store.set! id cell }

/-- Fails at a node, inside another that starts at `start`. -/
def failInside {α : Type} (context : Context) (start : Mark) (cause : Cause) (node : NodeId) :
    Load α := do
  throw (.unreadable (.fault ⟨some context, some start, some cause, some (← datum node).start⟩))

/-- Fails at a node that is of another sort than its tag asks for. -/
def failSort {α : Type} (wanted : NodeSort) (d : Datum) : Load α :=
  throw (.here (.expectedNode wanted d.sort) d.start)

/-! ## Nodes in messages -/

/-- How a node is written, its parts in turn. `outer` are the collections that it is written
inside of; the parts of a collection inside itself are left out. -/
def describe (nodes : Array Datum) : Nat → List NodeId → NodeId → String
  | 0, _, _ => ""
  | fuel + 1, outer, id =>
    let d := nodes.getD id .missing
    let all := describe nodes fuel (id :: outer)
    let (kind, value) := match d.content with
      | .scalar text => ("ScalarNode", Text.quoted text.toList)
      | .sequence items =>
        ("SequenceNode", if outer.contains id then "[...]" else
          s!"[{Store.commaList (items.map all)}]")
      | .mapping pairs =>
        ("MappingNode", if outer.contains id then "[...]" else
          s!"[{Store.commaList (pairs.map fun (k, v) => Store.parenthesised [all k, all v])}]")
    s!"{kind}(tag={Text.quoted d.tag.toList}, value={value})"

/-- How the parts of a collection are written. -/
def describeParts (nodes : Array Datum) (id : NodeId) : String :=
  let all := describe nodes (nodes.size + 1) [id]
  let parts := match (nodes.getD id .missing).content with
    | .scalar _ => []
    | .sequence items => items.map all
    | .mapping pairs => pairs.map fun (k, v) => Store.parenthesised [all k, all v]
  s!"[{Store.commaList parts}]"

/-! ## Merge keys -/

def mergeTag : String := commonTag "merge"

def valueTag : String := commonTag "value"

/-- Steps enough to look at every pair once for each pair that it may be taken over by. -/
def flattenFuel (nodes : Array Datum) : Nat := (nodes.size + 4) * (nodes.size + 4) * 64

mutual

/-- Takes over the pairs of the mappings under the merge keys of a mapping. They are put before
its own pairs. -/
def flatten : Nat → NodeId → Load Unit
  | 0, _ => throw .endless
  | fuel + 1, id => do
    let taken ← flattenFrom fuel id 0 []
    if !taken.isEmpty then
      modify fun s => { s with taken := s.taken.set! id taken }
      setPairs id (taken ++ (← datum id).pairs)

/-- Looks at the pairs of a mapping from one on, and gives `taken` with the pairs under merge keys.
A key for the value of the mapping itself becomes a text. -/
def flattenFrom : Nat → NodeId → Nat → List (NodeId × NodeId) → Load (List (NodeId × NodeId))
  | 0, _, _, _ => throw .endless
  | fuel + 1, id, index, taken => do
    let d ← datum id
    match d.pairs[index]? with
    | none => return taken
    | some (key, value) =>
      let tag := (← datum key).tag
      if tag == mergeTag then
        if !taken.isEmpty then failInside .mapping d.start .secondMergeKey key
        setPairs id (d.pairs.eraseIdx index)
        flattenFrom fuel id index (taken ++ (← mergedPairs fuel d.start value))
      else
        if tag == valueTag then
          modify fun s => { s with
            nodes := s.nodes.modify key fun d => { d with tag := commonTag "str" } }
        flattenFrom fuel id (index + 1) taken

/-- The pairs of a node under a merge key of a mapping that starts at `start`: those of a mapping,
or of the mappings of a sequence, the last one first. -/
def mergedPairs : Nat → Mark → NodeId → Load (List (NodeId × NodeId))
  | 0, _, _ => throw .endless
  | fuel + 1, start, id => do
    let d ← datum id
    match d.content with
    | .mapping _ =>
      flatten fuel id
      return (← datum id).pairs
    | .sequence items =>
      let parts ← items.mapM fun item => do
        let sort := (← datum item).sort
        if sort != .mapping then failInside .mapping start (.notMergeableItem sort) item
        flatten fuel item
        return (← datum item).pairs
      return parts.reverse.flatten
    | .scalar _ => failInside .mapping start (.notMergeable d.sort) id

end

/-! ## Values -/

/-- The text of a scalar, or of the scalar that stands for a mapping. -/
def scalarText : Nat → NodeId → Load String
  | 0, _ => throw .endless
  | fuel + 1, id => do
    let d ← datum id
    match d.content with
    | .scalar text => return text
    | .mapping pairs =>
      match ← pairs.findM? fun (key, _) => do return (← datum key).tag == valueTag with
      | some (_, value) => scalarText fuel value
      | none => failSort .scalar d
    | .sequence _ => failSort .scalar d

/-- The atom that a node with the tag of a scalar stands for. -/
def atom (fuel : Nat) (kind : Scalar.Kind) (id : NodeId) : Load Atom := do
  let d ← datum id
  let text ← match kind, d.text? with
    | _, some text => pure text
    | .timestamp, none =>
      throw (.here (.notTimestamp (describeParts (← get).nodes id)) d.start)
    | _, none => scalarText fuel id
  match Scalar.valueOf (← get).version kind text id d.start with
  | .ok a => return a
  | .error f => throw f

/-- Adds a cell to the store. -/
def newCell (cell : Cell) : Load CellId := do
  let id := (← get).store.size
  modify fun s => { s with store := s.store.push cell }
  return id

/-- Fails for an item that cannot be a key. -/
def checkKey (key : Item) : Load Unit := do
  match (← get).store.openPart? key with
  | some kind => throw (.openPart kind)
  | none => return

/-- How an item is written in a message. -/
def written (x : Item) : Load String := do
  match (← get).store.shown? x with
  | some shown => return shown
  | none => throw .unwritable

/-- The key that a list is, as the tuple of its parts; any other collection is none. -/
def asKey (start : Mark) (node : NodeId) (x : Item) : Load Item := do
  match x with
  | .cell id =>
    match (← get).store.get id with
    | .list xs => return .tuple xs
    | _ => failInside .mapping start .unusableKey node
  | x => return x

/-- What an ordered map or pairs are called in messages. -/
def orderedContext (c : Collection) : Context := if c == .pairs then .pairs else .orderedMap

/-- The pair that an item of an ordered map or of pairs is. -/
def onlyPair (c : Collection) (start : Mark) (item : NodeId) : Load (NodeId × NodeId) := do
  let d ← datum item
  match d.content with
  | .mapping [pair] => return pair
  | .mapping pairs => failInside (orderedContext c) start (.expectedOnePair pairs.length) item
  | _ => failInside (orderedContext c) start (.expectedPair d.sort) item

/-- The items of an ordered map or of pairs. -/
def orderedItems (c : Collection) (id : NodeId) : Load (List NodeId) := do
  let d ← datum id
  match d.content with
  | .sequence items => return items
  | _ => failInside (orderedContext c) d.start (.expectedSequenceOfPairs d.sort) id

/-- Adds a pair to an ordered map or to pairs. -/
def addPair (cell : CellId) (key value : Item) : Load Unit := do
  match (← get).store.get cell with
  | .ordered pairs => setCell cell (.ordered (Item.insert pairs key value))
  | .list xs => setCell cell (.list (xs ++ [.tuple [key, value]]))
  | _ => return

/-- Fails for a key of an ordered map that cannot be one, or that the map has already. -/
def checkOrderedKey (cell : CellId) (key : Item) : Load Unit := do
  match (← get).store.get cell with
  | .ordered pairs =>
    checkKey key
    if (Item.lookup? pairs key).isSome then throw .secondOrderedKey
  | _ => return

mutual

/-- The value of a node. The parts of a collection are left for later unless they are asked for,
here or further out. -/
def value : Nat → Bool → NodeId → Load Item
  | 0, _, _ => throw .endless
  | fuel + 1, deep, id => do
    let s ← get
    match s.made.getD id none with
    | some x => return x
    | none =>
      if deep then modify fun s => { s with isDeep := true }
      if s.underway.contains id then return .atom .null
      modify fun s => { s with underway := id :: s.underway }
      let x ← newValue fuel id
      modify fun t => { t with
        made := t.made.set! id (some x)
        underway := t.underway.erase id
        isDeep := if deep then s.isDeep else t.isDeep }
      return x

/-- The value of a node that has none yet. -/
def newValue : Nat → NodeId → Load Item
  | 0, _ => throw .endless
  | fuel + 1, id => do
    let d ← datum id
    match Scalar.Kind.ofTag? d.tag, Collection.ofTag? d.tag with
    | some kind, _ => return .atom (← atom fuel kind id)
    | none, some c =>
      let cell ← newCell c.empty
      if (← get).isDeep then fill fuel c id cell
      else modify fun s => { s with waiting := (c, id, cell) :: s.waiting }
      return .cell cell
    | none, none => throw (.here (.unknownTag d.tag) d.start)

/-- Fills the cell of a collection with the values of its parts. -/
def fill : Nat → Collection → NodeId → CellId → Load Unit
  | 0, _, _, _ => throw .endless
  | fuel + 1, c, id, cell => do
    match c with
    | .list =>
      let d ← datum id
      if d.sort != .sequence then failSort .sequence d
      setCell cell (.list (← d.items.mapM (value fuel false)))
    | .map => setCell cell (.map (← entries fuel id))
    | .set => setCell cell (.set ((← entries fuel id).map (·.1)))
    | .orderedMap | .pairs =>
      let start := (← datum id).start
      for item in ← orderedItems c id do
        let (key, node) ← onlyPair c start item
        let key ← value fuel false key
        checkOrderedKey cell key
        addPair cell key (← value fuel false node)

/-- The pairs of a mapping. A key may occur twice only if the mapping has taken pairs over. -/
def entries : Nat → NodeId → Load (List (Item × Item))
  | 0, _ => throw .endless
  | fuel + 1, id => do
    if (← datum id).sort != .mapping then failSort .mapping (← datum id)
    flatten (flattenFuel (← get).nodes) id
    let d ← datum id
    let taken := (← get).taken.getD id []
    (taken ++ d.pairs).foldlM (fun pairs (keyNode, node) => do
      let key ← asKey d.start keyNode (← value fuel true keyNode)
      let x ← value fuel false node
      checkKey key
      match Item.lookup? pairs key with
      | some first =>
        if taken.isEmpty then
          failInside .mapping d.start (.secondKey (← written key) (← written x) (← written first))
            keyNode
        else return Item.insert pairs key x
      | none => return pairs ++ [(key, x)]) []

end

/-- Fills the collections that wait to be filled, and those that wait because of them, up to a
number of rounds. -/
def fillWaiting (fuel : Nat) : Nat → Load Unit
  | 0 => return
  | rounds + 1 => do
    let waiting := (← get).waiting.reverse
    if waiting.isEmpty then return
    modify fun s => { s with waiting := [] }
    for (c, id, cell) in waiting do fill fuel c id cell
    fillWaiting fuel rounds

end Load

/-- A value and the collections in it. -/
structure Loaded where
  root : Item
  store : Store

/-- The value of the outermost node. Between two nodes on the way to a part there are few steps. -/
def DatumGraph.load (g : DatumGraph) : Except LoadFailure Loaded :=
  let count := g.nodes.size
  let fuel := 4 * count + 4
  let made : Load Item := do
    let root ← Load.value fuel false g.root
    Load.fillWaiting fuel (count + 1)
    return root
  let start : Loader :=
    { version := g.version, nodes := g.nodes, taken := Array.replicate count [], store := #[]
      made := Array.replicate count none, underway := [], isDeep := false, waiting := [] }
  (made.run start).map fun (root, s) => ⟨root, s.store⟩

/-- The value of a text of at most one document; null if there is none. -/
def load (t : Text) : Except LoadFailure Loaded := do
  match ← (DatumGraph.ofText t).mapError .unreadable with
  | some g => g.load
  | none => return ⟨.atom .null, #[]⟩

end YamlStyle.Yaml

/-! ## Values as trees -/

namespace YamlStyle.Yaml

inductive Value where
  | atom (a : Atom)
  | list (xs : List Value)
  | map (pairs : List (Item × Value))
  /-- A collection that is neither a list nor a map. -/
  | other
  deriving Repr, Inhabited

namespace Value

@[match_pattern] abbrev null : Value := .atom .null
@[match_pattern] abbrev bool (b : Bool) : Value := .atom (.bool b)
@[match_pattern] abbrev int (n : Int) : Value := .atom (.int n)
@[match_pattern] abbrev text (s : String) : Value := .atom (.text s)

/-- An item of which the collections have been seen. -/
def ofItem (seen : Array Value) : Item → Value
  | .atom a => .atom a
  | .cell id => seen.getD id .other
  | .tuple _ => .other

/-- A collection of which the parts have been seen. -/
def ofCell (seen : Array Value) : Cell → Value
  | .list xs => .list (xs.map (ofItem seen))
  | .map pairs | .ordered pairs => .map (pairs.map fun (k, v) => (k, ofItem seen v))
  | .set _ => .other

/-- The collections of a store seen down to a depth. -/
def ofStore (s : Store) : Nat → Array Value
  | 0 => s.map fun _ => .other
  | depth + 1 =>
    let seen := ofStore s depth
    s.map (ofCell seen)

/-- A loaded value seen down to a depth. -/
def ofLoaded (depth : Nat) (v : Loaded) : Value := ofItem (ofStore v.store depth) v.root

/-- The value of a key among pairs. -/
def lookup? (pairs : List (Item × Value)) (key : Item) : Option Value :=
  (pairs.find? fun p => p.1.isSame key).map (·.2)

/-- Sets the value of a key. A key that is there already keeps its place. -/
def insert (pairs : List (Item × Value)) (key : Item) (value : Value) : List (Item × Value) :=
  if (lookup? pairs key).isSome then
    pairs.map fun p => if p.1.isSame key then (p.1, value) else p
  else pairs ++ [(key, value)]

/-- The value of a text as a key. -/
def get? (pairs : List (Item × Value)) (name : String) : Option Value :=
  lookup? pairs (.atom (.text name))

/-- How a key is written by itself, if its numbers can be. -/
def shownKey? (key : Item) : Option String := Store.shown? #[] key

end Value

end YamlStyle.Yaml
