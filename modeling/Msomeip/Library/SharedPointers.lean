import Mathlib.Data.List.Basic

/-- Objects by the order in which they were made, and the owners there are of them: an object lives
    as long as it has one. -/
structure SharedPointers (Object : Type*) where
  objects : List Object := []
  owners : List Nat := []

namespace SharedPointers

variable {Object : Type*}

/-- The next object, without an owner yet. -/
def make (heap : SharedPointers Object) (object : Object) : SharedPointers Object :=
  { heap with objects := heap.objects ++ [object] }

def share (heap : SharedPointers Object) (id : Nat) : SharedPointers Object :=
  { heap with owners := id :: heap.owners }

def release (heap : SharedPointers Object) (id : Nat) : SharedPointers Object :=
  { heap with owners := heap.owners.erase id }

/-- What a weak pointer yields. -/
def lock (heap : SharedPointers Object) (weak : Option Nat) : Option Nat :=
  weak.filter fun id => id ∈ heap.owners

/-- Only what was made has owners. -/
def Valid (heap : SharedPointers Object) : Prop := ∀ id ∈ heap.owners, id < heap.objects.length

variable {heap : SharedPointers Object} {id : Nat}

theorem lock_eq_some {weak : Option Nat} :
    heap.lock weak = some id ↔ weak = some id ∧ id ∈ heap.owners := by
  simp [lock, Option.filter_eq_some_iff]

theorem Valid.unowned (valid : heap.Valid) : heap.objects.length ∉ heap.owners :=
  fun owned => Nat.lt_irrefl _ (valid _ owned)

theorem Valid.make (valid : heap.Valid) (object : Object) : (heap.make object).Valid := by
  intro id owned
  simp only [SharedPointers.make, List.length_append, List.length_singleton]
  exact Nat.lt_succ_of_lt (valid id owned)

theorem Valid.share (valid : heap.Valid) (made : id < heap.objects.length) :
    (heap.share id).Valid := by
  intro other owned
  rcases List.mem_cons.mp owned with rfl | before
  · exact made
  · exact valid other before

theorem Valid.release (valid : heap.Valid) (id : Nat) : (heap.release id).Valid :=
  fun other owned => valid other (List.mem_of_mem_erase owned)

theorem getElem?_make_of_lt (object : Object) (made : id < heap.objects.length) :
    (heap.make object).objects[id]? = heap.objects[id]? := List.getElem?_append_left made

theorem getElem?_make (heap : SharedPointers Object) (object : Object) :
    (heap.make object).objects[heap.objects.length]? = some object := List.getElem?_concat_length

end SharedPointers
