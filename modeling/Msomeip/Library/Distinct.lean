import Mathlib.Data.List.Induction
import Mathlib.Data.List.Nodup

universe u

namespace Distinct

variable {Item : Type u} [DecidableEq Item]

/-- Appends an item to a list that lacks it. -/
def add (items : List Item) (item : Item) : List Item :=
  if item ∈ items then items else items ++ [item]

theorem mem_add {items : List Item} {item other : Item} :
    other ∈ add items item ↔ other ∈ items ∨ other = item := by
  unfold add
  split
  · rename_i known
    exact ⟨.inl, fun member => member.elim id fun same => same ▸ known⟩
  · rw [List.mem_append, List.mem_singleton]

theorem mem_foldl_add {items others : List Item} {item : Item} :
    item ∈ others.foldl add items ↔ item ∈ items ∨ item ∈ others := by
  induction others generalizing items with
  | nil => simp
  | cons other others ih => rw [List.foldl_cons, ih, mem_add, List.mem_cons, or_assoc]

theorem eraseDups_concat (items : List Item) (item : Item) :
    (items ++ [item]).eraseDups = add items.eraseDups item := by
  rw [List.eraseDups_append, add]
  by_cases known : item ∈ items
  · simp [List.removeAll, known]
  · simp [List.removeAll, known, List.eraseDups_cons]

/-- Adding one by one keeps every item where it came first. -/
theorem foldl_add (items others : List Item) :
    others.foldl add items.eraseDups = (items ++ others).eraseDups := by
  induction others generalizing items with
  | nil => simp
  | cons other others ih =>
    rw [List.foldl_cons, ← eraseDups_concat, ih, List.append_assoc, List.singleton_append]

theorem nodup_eraseDups (items : List Item) : items.eraseDups.Nodup := by
  induction items using List.reverseRecOn with
  | nil => exact List.nodup_nil
  | append_singleton items item ih =>
    rw [eraseDups_concat, add]
    split
    · exact ih
    · rename_i fresh
      rw [← List.concat_eq_append]
      exact ih.concat fresh

end Distinct
