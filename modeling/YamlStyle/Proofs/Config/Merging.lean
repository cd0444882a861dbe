import YamlStyle.Config.Load
import YamlStyle.Proofs.Yaml.Loading

/-!
# Entries of rules put together

What the settings of a rule in a configuration and in the one that it extends come to. Under each key
the later setting counts (`get?_foldl_insert`), and each rule has the value of the later entry, or the
settings of both (`lookup_mergeEntries`).
-/

namespace YamlStyle

/-! ## Settings -/

namespace Yaml

variable {pairs own base : List (Item × Value)} {key : Item} {name : String}

theorem Atom.isSame_text {a : Atom} : a.isSame (.text name) = true ↔ a = .text name := by
  cases a with
  | text s => exact beq_iff_eq
  | _ => exact ⟨nofun, nofun⟩

theorem Atom.text_isSame {a : Atom} : Atom.isSame (.text name) a = true ↔ a = .text name := by
  cases a with
  | text s => exact beq_iff_eq.trans eq_comm
  | _ => exact ⟨nofun, nofun⟩

theorem Item.isSame_text : key.isSame (.atom (.text name)) = true ↔ key = .atom (.text name) := by
  cases key <;> simp [isSame, Atom.isSame_text]

theorem Item.text_isSame : Item.isSame (.atom (.text name)) key = true ↔ key = .atom (.text name) := by
  cases key <;> simp [isSame, Atom.text_isSame]

namespace Value

theorem get?_cons_self (v : Value) : get? ((.atom (.text name), v) :: pairs) name = some v := by
  rw [get?, lookup?, List.find?_cons_of_pos (by exact Item.isSame_text.2 rfl)]
  rfl

theorem get?_cons_of_ne (h : key ≠ .atom (.text name)) (v : Value) :
    get? ((key, v) :: pairs) name = get? pairs name := by
  rw [get?, lookup?, List.find?_cons_of_neg (by exact fun hsame => h (Item.isSame_text.1 hsame))]
  rfl

/-- The key of a pair counts, and not where the pair is. -/
theorem get?_map_insert (key : Item) (v : Value) :
    get? (pairs.map fun p => if p.1.isSame key then (p.1, v) else p) name =
      if Item.isSame (.atom (.text name)) key then (get? pairs name).map fun _ => v else get? pairs name := by
  induction pairs with
  | nil => simp [get?, lookup?]
  | cons p pairs ih =>
    obtain ⟨k, x⟩ := p
    rw [List.map_cons]
    by_cases hk : k = .atom (.text name)
    · subst hk
      dsimp only
      split <;> simp [get?_cons_self]
    · rw [get?_cons_of_ne hk, ← ih]
      dsimp only
      split <;> exact get?_cons_of_ne hk _

theorem get?_insert_self (v : Value) : get? (insert pairs (.atom (.text name)) v) name = some v := by
  unfold insert
  split
  · next hsome =>
    rw [get?_map_insert, if_pos (Item.isSame_text.2 rfl)]
    rw [Option.isSome_iff_exists] at hsome
    obtain ⟨x, hx⟩ := hsome
    rw [get?, hx]
    rfl
  · next hnone =>
    rw [get?, lookup?, List.find?_append]
    have hfind : pairs.find? (fun p => p.1.isSame (.atom (.text name))) = none := by
      simpa [lookup?] using hnone
    rw [hfind, List.find?_cons_of_pos (by exact Item.isSame_text.2 rfl)]
    rfl

theorem get?_insert_of_ne (h : key ≠ .atom (.text name)) (v : Value) :
    get? (insert pairs key v) name = get? pairs name := by
  unfold insert
  split
  · rw [get?_map_insert, if_neg (fun hsame => h (Item.text_isSame.1 hsame))]
  · rw [get?, lookup?, List.find?_append, List.find?_cons_of_neg (by exact fun hsame => h (Item.isSame_text.1 hsame))]
    simp [get?, lookup?]

/-- Under each key the later setting counts. -/
theorem get?_foldl_insert (h : AreDistinct own) :
    get? (own.foldl (fun all (k, v) => insert all k v) base) name = (get? own name).or (get? base name) := by
  induction own generalizing base with
  | nil => rfl
  | cons p own ih =>
    obtain ⟨key, v⟩ := p
    obtain ⟨hfirst, hrest⟩ := List.pairwise_cons.1 h
    rw [List.foldl_cons, ih hrest]
    by_cases hkey : key = .atom (.text name)
    · subst hkey
      have hlater : get? own name = none := by
        rw [get?, lookup?, Option.map_eq_none_iff, List.find?_eq_none]
        intro q hq hsame
        have hdiffers := hfirst q hq
        rw [Item.isSame_text.1 hsame, Item.isSame_text.2 rfl] at hdiffers
        cases hdiffers
      rw [hlater, get?_cons_self, get?_insert_self]
      rfl
    · rw [get?_cons_of_ne hkey, get?_insert_of_ne hkey]

end Value

end Yaml

/-! ## Entries -/

namespace Config

open Yaml (Item Value)

variable {base own entries : List (String × Value)} {name : String}

/-- An entry as it is put together with others: a rule that is on without settings has none. -/
def plainEntry : Value → Value
  | .text "enable" => .map []
  | v => v

/-- The entry of a rule that has one here and may have one in the configuration that is extended. -/
def mergedEntry (base : Option Value) (own : Value) : Value :=
  match base, plainEntry own with
  | some (.map base), .map pairs => .map (pairs.foldl (fun all (k, v) => Value.insert all k v) base)
  | _, v => v

theorem mergeEntry_eq (entries : List (String × Value)) (name : String) (own : Value) :
    mergeEntry entries name own =
      if (entries.lookup name).isSome then
        entries.map fun e => if e.1 == name then (name, mergedEntry (entries.lookup name) own) else e
      else entries ++ [(name, mergedEntry (entries.lookup name) own)] := rfl

theorem lookup_cons_of_ne {α : Type} {other : String} (h : other ≠ name) (v : α) (l : List (String × α)) :
    ((name, v) :: l).lookup other = l.lookup other := by
  rw [List.lookup_cons, beq_false_of_ne h]

theorem lookup_eq_none_iff {α : Type} {l : List (String × α)} : l.lookup name = none ↔ name ∉ l.map Prod.fst := by
  rw [← Option.not_isSome_iff_eq_none, List.lookup_isSome_iff, List.mem_map]
  simp only [beq_iff_eq, @eq_comm _ name]

theorem lookup_eq_some_of_mem {α : Type} {l : List (String × α)} (h : (l.map Prod.fst).Nodup) {v : α}
    (hv : (name, v) ∈ l) : l.lookup name = some v := by
  induction l with
  | nil => cases hv
  | cons e l ih =>
    obtain ⟨hfirst, hrest⟩ := List.nodup_cons.1 h
    rcases List.mem_cons.1 hv with rfl | hv
    · exact List.lookup_cons_self
    · rw [lookup_cons_of_ne fun heq => hfirst (List.mem_map.2 ⟨_, hv, heq⟩), ih hrest hv]

theorem lookup_map_entry (entries : List (String × Value)) (name other : String) (v : Value) :
    (entries.map fun e => if e.1 == name then (name, v) else e).lookup other =
      if other = name then (entries.lookup other).map fun _ => v else entries.lookup other := by
  induction entries with
  | nil => simp
  | cons e entries ih =>
    obtain ⟨n, x⟩ := e
    rw [List.map_cons]
    by_cases hother : other = n
    · subst hother
      by_cases hname : other = name <;> simp [hname]
    · rw [lookup_cons_of_ne hother, ← ih]
      split
      · next hname => exact lookup_cons_of_ne (fun heq => hother (heq.trans (eq_of_beq hname).symm)) _ _
      · exact lookup_cons_of_ne hother _ _

theorem lookup_mergeEntry (entries : List (String × Value)) (name other : String) (own : Value) :
    (mergeEntry entries name own).lookup other =
      if other = name then some (mergedEntry (entries.lookup name) own) else entries.lookup other := by
  rw [mergeEntry_eq]
  split
  · next hsome =>
    rw [lookup_map_entry]
    split
    · next heq =>
      subst heq
      obtain ⟨v, hv⟩ := Option.isSome_iff_exists.1 hsome
      rw [hv]
      rfl
    · rfl
  · next hnone =>
    rw [Bool.not_eq_true, Option.isSome_eq_false_iff, Option.isNone_iff_eq_none] at hnone
    rw [List.lookup_append]
    by_cases hother : other = name
    · subst hother
      simp [hnone]
    · rw [if_neg hother, lookup_cons_of_ne hother, List.lookup_nil, Option.or_none]

theorem names_mergeEntry (entries : List (String × Value)) (name : String) (own : Value) :
    (mergeEntry entries name own).map Prod.fst =
      entries.map Prod.fst ++ if name ∈ entries.map Prod.fst then [] else [name] := by
  rw [mergeEntry_eq]
  split
  · next hsome =>
    have hmem : name ∈ entries.map Prod.fst := by
      by_contra hnot
      rw [lookup_eq_none_iff.2 hnot] at hsome
      cases hsome
    rw [if_pos hmem, List.append_nil, List.map_map]
    refine List.map_congr_left fun e _ => ?_
    dsimp only [Function.comp]
    split
    · next heq => exact (eq_of_beq heq).symm
    · rfl
  · next hnone =>
    rw [if_neg (lookup_eq_none_iff.1 (Option.not_isSome_iff_eq_none.1 hnone)), List.map_append]
    rfl

/-- Each rule has the entry of the configuration that it is in, or both put together. -/
theorem lookup_mergeEntries (h : (own.map Prod.fst).Nodup) (other : String) :
    (mergeEntries base own).lookup other =
      match own.lookup other with
      | some v => some (mergedEntry (base.lookup other) v)
      | none => base.lookup other := by
  unfold mergeEntries
  induction own generalizing base with
  | nil => rfl
  | cons e own ih =>
    obtain ⟨name, v⟩ := e
    obtain ⟨hfirst, hrest⟩ := List.nodup_cons.1 h
    rw [List.foldl_cons, ih hrest]
    by_cases hother : other = name
    · subst hother
      simp [lookup_eq_none_iff.2 hfirst, lookup_mergeEntry]
    · rw [lookup_cons_of_ne hother, lookup_mergeEntry, if_neg hother]

/-- The rules are in the order of the configuration that is extended, and then those that are new. -/
theorem names_mergeEntries (h : (own.map Prod.fst).Nodup) :
    (mergeEntries base own).map Prod.fst =
      base.map Prod.fst ++ (own.map Prod.fst).filter fun name => !(base.map Prod.fst).contains name := by
  unfold mergeEntries
  induction own generalizing base with
  | nil => simp
  | cons e own ih =>
    obtain ⟨name, v⟩ := e
    obtain ⟨hfirst, hrest⟩ := List.nodup_cons.1 h
    rw [List.foldl_cons, ih hrest, names_mergeEntry, List.map_cons, List.filter_cons]
    have hfilter : (own.map Prod.fst).filter (fun n => !(base.map Prod.fst ++ [name]).contains n) =
        (own.map Prod.fst).filter fun n => !(base.map Prod.fst).contains n := by
      refine List.filter_congr fun n hn => ?_
      have hne : n ≠ name := fun heq => hfirst (heq ▸ hn)
      simp [hne]
    by_cases hbase : name ∈ base.map Prod.fst
    · simp [hbase]
    · rw [if_neg hbase, hfilter]
      simp [hbase]

end Config

end YamlStyle
