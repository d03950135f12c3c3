import Mathlib.Data.List.Basic
import Msomeip.Library.Memory

universe u v

/-- A value together with the buffer indices that were read to compute it. -/
structure Tracked (α : Type u) where
  val : α
  reads : List Nat

namespace Tracked

instance : Monad Tracked where
  pure a := ⟨a, []⟩
  bind x f := ⟨(f x.val).val, x.reads ++ (f x.val).reads⟩

variable {α β : Type u} {Cell : Type v}

@[simp] theorem val_pure (a : α) : (pure a : Tracked α).val = a := rfl
@[simp] theorem reads_pure (a : α) : (pure a : Tracked α).reads = [] := rfl

@[simp] theorem val_bind (x : Tracked α) (f : α → Tracked β) :
    (x >>= f).val = (f x.val).val := rfl

@[simp] theorem reads_bind (x : Tracked α) (f : α → Tracked β) :
    (x >>= f).reads = x.reads ++ (f x.val).reads := rfl

theorem val_ite {condition : Prop} {_ : Decidable condition} (x y : Tracked α) :
    (if condition then x else y).val = if condition then x.val else y.val :=
  apply_ite val condition x y

def read (memory : Nat → Cell) (index : Nat) : Tracked Cell := ⟨memory index, [index]⟩

@[simp] theorem val_read (memory : Nat → Cell) (index : Nat) :
    (read memory index).val = memory index := rfl

@[simp] theorem reads_read (memory : Nat → Cell) (index : Nat) :
    (read memory index).reads = [index] := rfl

def readRange {Cell : Type u} (memory : Nat → Cell) (offset count : Nat) : Tracked (List Cell) :=
  ⟨Memory.readAt memory offset count, (List.range count).map fun index => offset + index⟩

def Within (x : Tracked α) (size : Nat) : Prop := ∀ index ∈ x.reads, index < size

@[simp] theorem within_pure (a : α) (size : Nat) : (pure a : Tracked α).Within size := by
  simp [Within]

@[simp] theorem within_bind (x : Tracked α) (f : α → Tracked β) (size : Nat) :
    (x >>= f).Within size ↔ x.Within size ∧ (f x.val).Within size := by
  simp only [Within, reads_bind, List.mem_append]
  constructor
  · intro all
    have first : ∀ index ∈ x.reads, index < size := fun index member => all index (.inl member)
    have second : ∀ index ∈ (f x.val).reads, index < size :=
      fun index member => all index (.inr member)
    exact ⟨first, second⟩
  · intro both index member
    rcases member with member | member
    · exact both.1 index member
    · exact both.2 index member

theorem within_ite {condition : Prop} {_ : Decidable condition} (x y : Tracked α) (size : Nat) :
    (if condition then x else y).Within size ↔
      if condition then x.Within size else y.Within size := by
  split <;> rfl

@[simp] theorem within_read (memory : Nat → Cell) (index size : Nat) :
    (read memory index).Within size ↔ index < size := by
  simp [Within]

/-- The memory a pointer to `data` gives access to: past the end stand cells `data` does not
    determine. -/
def buffer (data : List Cell) (beyond : Nat → Cell) : Nat → Cell :=
  fun index => data.getD index (beyond index)

theorem buffer_of_lt (data : List Cell) (beyond : Nat → Cell) (index : Nat)
    (inside : index < data.length) : buffer data beyond index = data[index] := by
  simp [buffer, inside]

def Holds (memory : Nat → Cell) : Nat → List Cell → Prop
  | _, [] => True
  | offset, cell :: data => memory offset = cell ∧ Holds memory (offset + 1) data

@[simp] theorem holds_nil (memory : Nat → Cell) (offset : Nat) : Holds memory offset [] := trivial

@[simp] theorem holds_cons (memory : Nat → Cell) (offset : Nat) (cell : Cell) (data : List Cell) :
    Holds memory offset (cell :: data) ↔
      memory offset = cell ∧ Holds memory (offset + 1) data := Iff.rfl

@[simp] theorem holds_append (memory : Nat → Cell) (offset : Nat) (front data : List Cell) :
    Holds memory offset (front ++ data) ↔
      Holds memory offset front ∧ Holds memory (offset + front.length) data := by
  induction front generalizing offset with
  | nil => simp
  | cons cell front ih =>
    rw [List.cons_append, holds_cons, ih, holds_cons, and_assoc, List.length_cons,
      Nat.add_assoc, Nat.add_comm 1]

theorem holds_iff {memory : Nat → Cell} {offset : Nat} {data : List Cell} :
    Holds memory offset data ↔
      ∀ index (inside : index < data.length), memory (offset + index) = data[index] := by
  induction data generalizing offset with
  | nil => simp
  | cons cell data ih =>
    rw [holds_cons, ih]
    constructor
    · intro both index inside
      cases index with
      | zero => exact both.1
      | succ index =>
        have within : index < data.length := by simpa using inside
        simpa [Nat.add_assoc, Nat.add_comm 1] using both.2 index within
    · intro all
      have head : memory offset = cell := all 0 (by simp)
      apply And.intro head
      intro index inside
      rw [Nat.add_assoc, Nat.add_comm 1]
      exact all (index + 1) (Nat.succ_lt_succ inside)

theorem holds_readAt {memory : Nat → Cell} {offset : Nat} {data : List Cell}
    (holds : Holds memory offset data) : Memory.readAt memory offset data.length = data := by
  apply List.ext_getElem (Memory.readAt_length _ _ _)
  intro index _ inside
  simp only [Memory.readAt, List.getElem_map, List.getElem_range]
  exact holds_iff.mp holds index inside

theorem buffer_holds (data : List Cell) (beyond : Nat → Cell) :
    Holds (buffer data beyond) 0 data := by
  rw [holds_iff]
  intro index inside
  rw [Nat.zero_add, buffer_of_lt data beyond index inside]

end Tracked
