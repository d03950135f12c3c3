import Mathlib.Data.List.Basic
import Mathlib.Data.List.Induction
import Mathlib.Order.Lattice

namespace Leases

/-- What can happen to a lease: a value is granted, or the leases that have ended are dropped. -/
inductive Change (Value Time : Type*)
  | grant (value : Value)
  | sweep (now : Time)

variable {Value Time : Type*} [LinearOrder Time]

def Change.apply (ends : Value → Time) : Option Value → Change Value Time → Option Value
  | _, .grant value => some value
  | held, .sweep now => held.filter fun value => now < ends value

/-- What is held after the changes. -/
def held (ends : Value → Time) (changes : List (Change Value Time)) : Option Value :=
  changes.foldl (Change.apply ends) none

/-- A sweep at which the lease of the value has not ended yet. -/
def Spares (ends : Value → Time) (value : Value) (change : Change Value Time) : Prop :=
  ∃ now, change = .sweep now ∧ now < ends value

variable {ends : Value → Time} {changes : List (Change Value Time)} {value : Value}

theorem held_snoc (changes : List (Change Value Time)) (change : Change Value Time) :
    held ends (changes ++ [change]) = change.apply ends (held ends changes) := List.foldl_concat ..

omit [LinearOrder Time] in
theorem snoc_split {front before after : List (Change Value Time)}
    {last middle : Change Value Time} (split : front ++ [last] = before ++ middle :: after) :
    (front = before ∧ last = middle ∧ after = []) ∨
      ∃ rest, after = rest ++ [last] ∧ front = before ++ middle :: rest := by
  rcases List.eq_nil_or_concat after with rfl | ⟨rest, other, rfl⟩
  · obtain ⟨same, ends⟩ := List.append_inj' split rfl
    exact .inl ⟨same, List.head_eq_of_cons_eq ends, rfl⟩
  · rw [List.concat_eq_append, ← List.cons_append, ← List.append_assoc] at split
    obtain ⟨same, ends⟩ := List.append_inj' split rfl
    obtain rfl := List.head_eq_of_cons_eq ends
    exact .inr ⟨rest, List.concat_eq_append, same⟩

/-- What is held was granted, and every change since then was a sweep that spared it. -/
theorem held_iff : held ends changes = some value ↔ ∃ before after,
    changes = before ++ .grant value :: after ∧ ∀ change ∈ after, Spares ends value change := by
  induction changes using List.reverseRecOn with
  | nil => simp [held]
  | append_singleton changes change ih =>
    rw [held_snoc]
    cases change with
    | grant other =>
      constructor
      · intro granted
        obtain rfl := Option.some.inj granted
        exact ⟨changes, [], rfl, by simp⟩
      · rintro ⟨before, after, split, spared⟩
        rcases snoc_split split with ⟨-, same, -⟩ | ⟨rest, rfl, -⟩
        · cases same
          rfl
        · obtain ⟨now, swept, -⟩ := spared (.grant other) (by simp)
          cases swept
    | sweep now =>
      have still : Change.apply ends (held ends changes) (.sweep now) = some value ↔
          held ends changes = some value ∧ now < ends value := by
        simp [Change.apply, Option.filter_eq_some_iff]
      rw [still, ih]
      constructor
      · rintro ⟨⟨before, after, rfl, spared⟩, alive⟩
        refine ⟨before, after ++ [.sweep now], by simp, ?_⟩
        intro change member
        rcases List.mem_append.mp member with earlier | last
        · exact spared change earlier
        · exact ⟨now, List.mem_singleton.mp last, alive⟩
      · rintro ⟨before, after, split, spared⟩
        rcases snoc_split split with ⟨-, same, -⟩ | ⟨rest, rfl, same⟩
        · cases same
        · obtain ⟨other, swept, alive⟩ := spared (.sweep now) (by simp)
          cases swept
          exact ⟨⟨before, rest, same, fun change member => spared change (by simp [member])⟩, alive⟩

end Leases
