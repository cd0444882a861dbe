import YamlStyle.Yaml.Atom

/-!
# Stores of values

Values as they are while a document is being loaded. A collection is a cell of a store, known by
its number, so that it can be a part of others and of itself before its own parts are known. A key
is an atom or a tuple: the parts that a list had when it became a key.

A set of numbers shows its items in an order of its own: each member stands at a place that its
number tells, or if that is taken, at one a little further on, or else at one further away.
-/

/-! ## The order of sets -/

namespace YamlStyle.Yaml

/-- The number of a cell. -/
abbrev CellId := Nat

inductive Item where
  | atom (a : Atom)
  | cell (id : CellId)
  | tuple (xs : List Item)
  deriving Repr, Inhabited

namespace SetOrder

/-- How many places there are for the members of a set. -/
def placeCount (members : Nat) : Nat :=
  if members < 5 then 8 else (2 * members + 1).nextPowerOfTwo

/-- How many places further on a member may stand before it goes further away. -/
def reach : Nat := 9

/-- What a number is known by: it is less than the prime `2 ^ 61 - 1`, and not negative in words
of 64 bits. -/
def wordOf (n : Int) : Nat :=
  let rest : Int := n.natAbs % (Nat.pow 2 61 - 1)
  let signed := if n < 0 then -rest else rest
  ((if signed == -1 then -2 else signed) % Nat.pow 2 64).toNat

/-- The place of the next member, at `place` or after it; `word` tells how far away the next try
is. After as many tries as there are places one is found. -/
def freePlace (size : Nat) (taken : List Nat) : Nat → Nat → Nat → Nat
  | 0, place, _ => place
  | tries + 1, place, word =>
    let near := if place + reach < size then List.range' place (reach + 1) else [place]
    match near.find? (!taken.contains ·) with
    | some free => free
    | none => freePlace size taken tries ((place * 5 + 1 + word / 32) % size) (word / 32)

/-- The places of members that come one after another, latest first. -/
def places (size : Nat) (numbers : List Int) : List Nat :=
  numbers.foldl (fun taken n =>
    let word := wordOf n
    freePlace size taken (2 * size + 13) (word % size) word :: taken) []

end SetOrder

/-- The members of a set in the order in which they are shown. A set with a member that is no whole
number keeps the order it was written in. -/
def Item.setOrder (xs : List Item) : List Item :=
  let number? : Item → Option Int
    | .atom a => a.int?
    | _ => none
  match xs.mapM number? with
  | none => xs
  | some numbers =>
    let places := (SetOrder.places (SetOrder.placeCount xs.length) numbers).reverse
    ((xs.zip places).mergeSort fun x y => x.2 ≤ y.2).map (·.1)

end YamlStyle.Yaml

/-! ## Stores -/

namespace YamlStyle.Yaml

/-- A collection. Maps keep their pairs in order. -/
inductive Cell where
  | list (xs : List Item)
  | map (pairs : List (Item × Item))
  /-- A map of which the order counts. -/
  | ordered (pairs : List (Item × Item))
  | set (xs : List Item)
  deriving Repr, Inhabited

/-- What a cell is called where it cannot be a key. -/
def Cell.kindName : Cell → String
  | list _ => "list"
  | map _ => "dict"
  | ordered _ => "ordereddict"
  | set _ => "set"

namespace Item

mutual

/-- Whether two items are the same as keys. -/
def isSame : Item → Item → Bool
  | atom a, other =>
    match other with
    | atom b => a.isSame b
    | _ => false
  | cell i, other =>
    match other with
    | cell j => i == j
    | _ => false
  | tuple xs, other =>
    match other with
    | tuple ys => areSame xs ys
    | _ => false

def areSame : List Item → List Item → Bool
  | [], ys => ys.isEmpty
  | x :: xs, ys =>
    match ys with
    | [] => false
    | y :: ys => isSame x y && areSame xs ys

end

/-- The value of a key among pairs. -/
def lookup? (pairs : List (Item × Item)) (key : Item) : Option Item :=
  (pairs.find? fun p => isSame p.1 key).map (·.2)

/-- Sets the value of a key. A key that is there already keeps its place. -/
def insert (pairs : List (Item × Item)) (key value : Item) : List (Item × Item) :=
  if (lookup? pairs key).isSome then
    pairs.map fun p => if isSame p.1 key then (p.1, value) else p
  else pairs ++ [(key, value)]

end Item

/-- All collections by number. -/
abbrev Store := Array Cell

namespace Store

def get (s : Store) (id : CellId) : Cell := s.getD id (.list [])

mutual

/-- What the first cell in an item is called; an item with a cell in it cannot be a key. -/
def openPart? (s : Store) : Item → Option String
  | .atom _ => none
  | .cell id => some (s.get id).kindName
  | .tuple xs => openPartIn? s xs

def openPartIn? (s : Store) : List Item → Option String
  | [] => none
  | x :: xs => (openPart? s x).or (openPartIn? s xs)

end

/-! ## Items in messages -/

def commaList (shown : List String) : String := ", ".intercalate shown

def braced (shown : List String) : String := "\x7b" ++ commaList shown ++ "\x7d"

def parenthesised (shown : List String) : String :=
  match shown with
  | [x] => s!"({x},)"
  | xs => s!"({commaList xs})"

/-- How an item is written as part of a value, if its numbers can be. `outer` are the cells that
it is written inside of; a cell inside itself is left out. -/
def inner? (s : Store) : Nat → List CellId → Item → Option String
  | 0, _, _ => none
  | fuel + 1, outer, x =>
    match x with
    | .atom a => a.inner?
    | .tuple xs => (xs.mapM (inner? s fuel outer)).map parenthesised
    | .cell id =>
      let all := inner? s fuel (id :: outer)
      let both (p : Item × Item) : Option (String × String) := do
        return (← all p.1, ← all p.2)
      match s.get id, outer.contains id with
      | .list _, true => some "[...]"
      | .map _, true | .set _, true => some (braced ["..."])
      | .ordered _, true => some "..."
      | .list xs, false => (xs.mapM all).map fun shown => s!"[{commaList shown}]"
      | .map pairs, false =>
        (pairs.mapM both).map fun shown => braced (shown.map fun (k, v) => s!"{k}: {v}")
      | .ordered [], false => some "ordereddict()"
      | .ordered pairs, false => (pairs.mapM both).map fun shown =>
          s!"ordereddict([{commaList (shown.map fun (k, v) => parenthesised [k, v])}])"
      | .set [], false => some "set()"
      | .set xs, false => ((Item.setOrder xs).mapM all).map braced

/-- How an item is written by itself, if its numbers can be. -/
def shown? (s : Store) : Item → Option String
  | .atom a => a.shown?
  | x => inner? s (3 * s.size + 4) [] x

end Store

end YamlStyle.Yaml
