import YamlStyle.Rule.Basic

/-!
# Keys of mappings

Rules against keys that occur twice in a mapping and against keys out of order. Both follow the
starts and ends of collections, so that a key is compared with the keys of its own mapping only.
-/

namespace YamlStyle.Rule

namespace Keys

/-- A collection that is open, with the keys noted for it. -/
structure Collection where
  isMapping : Bool
  keys : List String
  deriving DecidableEq, Repr

/-- The open collections, innermost first. -/
abbrev State := List Collection

def State.follow (s : State) (x : Lexeme) : State :=
  if x.kind.isMappingStart then ⟨true, []⟩ :: s
  else if x.kind.isSequenceStart then ⟨false, []⟩ :: s
  else if x.kind.isCollectionEnd then s.tail
  else s

/-- The scalar that is a key of the innermost mapping, its value, and the keys before it. A pair
in a flow sequence has a key too, but that is no key of a mapping. -/
def key? (w : Window) (s : State) : Option (Lexeme × String × List String) :=
  match w.curr.kind, w.next, s with
  | .key, some next, ⟨true, keys⟩ :: _ =>
    if next.kind == .scalar then next.value.map fun value => (next, value, keys) else none
  | _, _, _ => none

/-- Notes a key of the innermost collection. -/
def State.add (s : State) (key : String) : State :=
  match s with
  | c :: rest => { c with keys := c.keys ++ [key] } :: rest
  | [] => []

end Keys

open Keys

namespace KeyDuplicates

structure Options where
  forbidMerge : Bool
  deriving Repr

def specs : List OptionSpec := [⟨"forbid-duplicated-merge-keys", .ofType .bool, .bool false⟩]

def Options.ofValues (vs : OptionValues) : Options := ⟨vs.bool "forbid-duplicated-merge-keys"⟩

/-- The merge key `<<` may occur more than once, unless that is forbidden. -/
def check (o : Options) (w : Window) (s : State) : State × List Finding :=
  let s := s.follow w.curr
  match key? w s with
  | some (x, key, keys) =>
    if keys.contains key && (key != "<<" || o.forbidMerge) then
      (s, [.atStart x s!"duplication of key \"{key}\" in mapping"])
    else (s.add key, [])
  | none => (s, [])

end KeyDuplicates

namespace KeyOrdering

structure Options where
  ignored : List String
  deriving Repr

def specs : List OptionSpec := [⟨"ignored-keys", .listOf [.anyOf .text], .list []⟩]

def Options.ofValues (vs : OptionValues) : Options := ⟨vs.list "ignored-keys"⟩

/-- Whether a key comes before another by the numbers of their characters. -/
def isLess (a b : String) : Check Bool :=
  if a.toList.contains '\x00' || b.toList.contains '\x00' then throw .unorderedKey
  else pure (decide (a.toList.map Text.codeOf < b.toList.map Text.codeOf))

/-- Whether a key comes before one of some keys. -/
def isLessThanAny (key : String) : List String → Check Bool
  | [] => pure false
  | other :: rest => do if ← isLess key other then return true else isLessThanAny key rest

/-- A key out of order is not compared with later ones. -/
def check (o : Options) (w : Window) (s : State) : Check (State × List Finding) := do
  let s := s.follow w.curr
  match key? w s with
  | some (x, key, keys) =>
    if ← searchAny key.toList o.ignored then return (s, [])
    else if ← isLessThanAny key keys then
      return (s, [.atStart x s!"wrong ordering of key \"{key}\" in mapping"])
    else return (s.add key, [])
  | none => return (s, [])

end KeyOrdering

end YamlStyle.Rule
