import Mathlib.Logic.Function.Basic

universe u

/-- One-shot promises, numbered in the order of their creation. -/
structure Promises (α : Type u) where
  next : Nat := 0
  value : Nat → Option α := fun _ => none

namespace Promises

variable {α : Type u}

def create (promises : Promises α) : Promises α := { promises with next := promises.next + 1 }

def Satisfied (promises : Promises α) (promise : Nat) : Prop := (promises.value promise).isSome

instance (promises : Promises α) (promise : Nat) : Decidable (promises.Satisfied promise) :=
  inferInstanceAs (Decidable (_ = true))

/-- `none` where the promise already has its value: the call throws and changes nothing. -/
def setValue (promises : Promises α) (promise : Nat) (value : α) : Option (Promises α) :=
  if promises.Satisfied promise then none
  else some { promises with value := Function.update promises.value promise (some value) }

theorem setValue_eq_none {promises : Promises α} {promise : Nat} {value : α} :
    promises.setValue promise value = none ↔ promises.Satisfied promise := by
  simp [setValue]

theorem setValue_of_unsatisfied {promises : Promises α} {promise : Nat} (value : α)
    (free : ¬ promises.Satisfied promise) : promises.setValue promise value =
      some { promises with value := Function.update promises.value promise (some value) } := by
  simp [setValue, free]

theorem setValue_some {promises after : Promises α} {promise : Nat} {value : α}
    (set : promises.setValue promise value = some after) :
    ¬ promises.Satisfied promise ∧ after.next = promises.next ∧
      ∀ other, after.Satisfied other ↔ other = promise ∨ promises.Satisfied other := by
  by_cases free : promises.Satisfied promise
  · rw [setValue_eq_none.mpr free] at set
    cases set
  · rw [setValue_of_unsatisfied value free] at set
    cases set
    have others (other : Nat) : Satisfied
        { promises with value := Function.update promises.value promise (some value) } other ↔
          other = promise ∨ promises.Satisfied other := by
      by_cases same : other = promise <;> simp [Satisfied, Function.update, same]
    exact ⟨free, rfl, others⟩

end Promises
