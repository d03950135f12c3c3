import Mathlib.Data.List.Basic

namespace Ring

variable {α : Type*}

/-- What stands in `count` slots of a ring of `capacity` slots, from slot `first` on. -/
def contents (slot : Nat → α) (capacity first count : Nat) : List α :=
  (List.range count).map fun index => slot ((first + index) % capacity)

theorem contents_congr {slot other : Nat → α} {capacity first count : Nat}
    (same : ∀ index < count,
      slot ((first + index) % capacity) = other ((first + index) % capacity)) :
    contents slot capacity first count = contents other capacity first count := by
  apply List.map_congr_left
  intro index member
  exact same index (List.mem_range.mp member)

theorem contents_push (slot : Nat → α) (capacity first count : Nat) :
    contents slot capacity first (count + 1) =
      contents slot capacity first count ++ [slot ((first + count) % capacity)] := by
  simp [contents, List.range_succ]

theorem advance (capacity first count : Nat) :
    ((first + count) % capacity + 1) % capacity = (first + (count + 1)) % capacity := by
  rw [Nat.mod_add_mod, Nat.add_assoc]

theorem contents_pop (slot : Nat → α) {capacity first : Nat} (inside : first < capacity)
    (count : Nat) : contents slot capacity first (count + 1) =
      slot first :: contents slot capacity ((first + 1) % capacity) count := by
  rw [contents, List.range_succ_eq_map, List.map_cons, List.map_map, Nat.add_zero,
    Nat.mod_eq_of_lt inside]
  congr 1
  apply List.map_congr_left
  intro index _
  rw [Function.comp_apply, Nat.mod_add_mod, Nat.add_assoc, Nat.add_comm 1]

/-- The slot behind those in use is none of them. -/
theorem fresh {capacity first count index : Nat} (room : count < capacity) (used : index < count) :
    (first + index) % capacity ≠ (first + count) % capacity := by
  intro same
  have apart : (first + count - (first + index)) % capacity = 0 :=
    Nat.sub_mod_eq_zero_of_mod_eq same.symm
  rw [Nat.add_sub_add_left, Nat.mod_eq_of_lt (by omega)] at apart
  omega

end Ring
