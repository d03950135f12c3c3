import Std.Data.ExtTreeMap

universe u v w

namespace Maps

open Std

variable {Key : Type u} {Value : Type v} {cmp : Key → Key → Ordering} [TransCmp cmp] [LawfulEqCmp cmp]
  [DecidableEq Key]

theorem lookup_insert (map : ExtTreeMap Key Value cmp) (key other : Key) (value : Value) :
    (map.insert key value)[other]? = if key = other then some value else map[other]? := by
  simp [ExtTreeMap.getElem?_insert]

theorem lookup_erase (map : ExtTreeMap Key Value cmp) (key other : Key) :
    (map.erase key)[other]? = if key = other then none else map[other]? := by
  simp [ExtTreeMap.getElem?_erase]

theorem lookup_erase_some {map : ExtTreeMap Key Value cmp} {key other : Key} {value : Value} :
    (map.erase key)[other]? = some value ↔ key ≠ other ∧ map[other]? = some value := by
  rw [lookup_erase]
  split
  · rename_i same
    simp [same]
  · rename_i differs
    simp [differs]

omit [LawfulEqCmp cmp] [DecidableEq Key] in
theorem values_eq_foldr (map : ExtTreeMap Key Value cmp) :
    map.values = map.foldr (fun _ value values => value :: values) [] := by
  obtain ⟨⟨tree⟩⟩ := map
  induction tree using Quotient.inductionOn with
  | h tree => rfl

omit [LawfulEqCmp cmp] [DecidableEq Key] in
theorem values_eq_toList (map : ExtTreeMap Key Value cmp) :
    map.values = map.toList.map Prod.snd := by
  have listed : ∀ entries : List (Key × Value),
      entries.foldr (fun entry values => entry.2 :: values) [] = entries.map Prod.snd := by
    intro entries
    induction entries with
    | nil => rfl
    | cons entry entries ih => rw [List.foldr_cons, ih, List.map_cons]
  rw [values_eq_foldr, ExtTreeMap.foldr_eq_foldr_toList, listed]

omit [DecidableEq Key] in
theorem mem_values {map : ExtTreeMap Key Value cmp} {value : Value} :
    value ∈ map.values ↔ ∃ key : Key, map[key]? = some value := by
  rw [values_eq_toList, List.mem_map]
  constructor
  · intro found
    obtain ⟨⟨key, _⟩, member, rfl⟩ := found
    exact ⟨key, ExtTreeMap.mem_toList_iff_getElem?_eq_some.mp member⟩
  · intro found
    obtain ⟨key, stored⟩ := found
    exact ⟨(key, value), ExtTreeMap.mem_toList_iff_getElem?_eq_some.mpr stored, rfl⟩

omit [DecidableEq Key] in
/-- Values that know their keys are as distinct as these. -/
theorem nodup_values {map : ExtTreeMap Key Value cmp} {keyOf : Value → Key}
    (keyed : ∀ (key : Key) (value : Value), map[key]? = some value → keyOf value = key) :
    (map.values.map keyOf).Nodup := by
  rw [values_eq_toList, List.map_map, List.Nodup, List.pairwise_map]
  apply List.Pairwise.imp_of_mem _ ExtTreeMap.distinct_keys_toList
  intro first second inside otherInside different same
  have key := keyed _ _ (ExtTreeMap.mem_toList_iff_getElem?_eq_some.mp inside)
  have otherKey := keyed _ _ (ExtTreeMap.mem_toList_iff_getElem?_eq_some.mp otherInside)
  exact different (LawfulEqCmp.compare_eq_iff_eq.mpr (key.symm.trans (same.trans otherKey)))

/-- An order to go through the entries of a map in, for maps that promise none. -/
structure Traversal (Key : Type u) (Value : Type v) where
  arrange : List (Key × Value) → List (Key × Value)
  perm : ∀ entries, (arrange entries).Perm entries

namespace Traversal

def ascending : Traversal Key Value := ⟨id, fun _ => .rfl⟩

def descending : Traversal Key Value := ⟨List.reverse, List.reverse_perm⟩

def entries (traversal : Traversal Key Value) (map : ExtTreeMap Key Value cmp) :
    List (Key × Value) :=
  traversal.arrange map.toList

variable {traversal : Traversal Key Value} {map : ExtTreeMap Key Value cmp}

omit [DecidableEq Key] in
theorem mem_entries {entry : Key × Value} :
    entry ∈ traversal.entries map ↔ map[entry.1]? = some entry.2 :=
  (traversal.perm map.toList).mem_iff.trans ExtTreeMap.mem_toList_iff_getElem?_eq_some

omit [DecidableEq Key] in
/-- Values that are known by an id of their own are met once each. -/
theorem pairwise_entries {Id : Type w} (idOf : Value → Id)
    (own : ∀ (key otherKey : Key) (value other : Value), map[key]? = some value →
      map[otherKey]? = some other → idOf value = idOf other → key = otherKey) :
    (traversal.entries map).Pairwise fun first second => idOf first.2 ≠ idOf second.2 := by
  refine (List.Perm.pairwise_iff Ne.symm (traversal.perm map.toList)).mpr ?_
  apply List.Pairwise.imp_of_mem _ ExtTreeMap.distinct_keys_toList
  intro first second inside otherInside different same
  have found := ExtTreeMap.mem_toList_iff_getElem?_eq_some.mp inside
  have otherFound := ExtTreeMap.mem_toList_iff_getElem?_eq_some.mp otherInside
  exact different (LawfulEqCmp.compare_eq_iff_eq.mpr (own _ _ _ _ found otherFound same))

end Traversal
end Maps
