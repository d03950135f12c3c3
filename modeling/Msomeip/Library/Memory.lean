import Mathlib.Data.List.GetD

namespace Memory

variable {Cell : Type*}

def readAt (memory : Nat → Cell) (offset count : Nat) : List Cell :=
  (List.range count).map fun index => memory (offset + index)

/-- The memory after a list of cells has been copied to `offset`. -/
def write (memory : Nat → Cell) (offset : Nat) (cells : List Cell) : Nat → Cell := fun address =>
  if offset ≤ address then cells.getD (address - offset) (memory address) else memory address

@[simp] theorem readAt_length (memory : Nat → Cell) (offset count : Nat) :
    (readAt memory offset count).length = count := by
  simp [readAt]

@[simp] theorem write_nil (memory : Nat → Cell) (offset : Nat) : write memory offset [] = memory := by
  funext address
  simp [write]

theorem write_outside {memory : Nat → Cell} {offset address : Nat} {cells : List Cell}
    (outside : address < offset ∨ offset + cells.length ≤ address) :
    write memory offset cells address = memory address := by
  rw [write]
  split
  · rw [List.getD_eq_default]
    omega
  · rfl

theorem write_inside (memory : Nat → Cell) (offset : Nat) (cells : List Cell) {index : Nat}
    (inside : index < cells.length) : write memory offset cells (offset + index) = cells[index] := by
  rw [write, if_pos (Nat.le_add_right _ _), Nat.add_sub_cancel_left, List.getD_eq_getElem]

/-- A write seen from a base address. -/
theorem write_shift (memory : Nat → Cell) (base offset : Nat) (cells : List Cell) :
    (fun index => write memory (base + offset) cells (base + index)) =
      write (fun index => memory (base + index)) offset cells := by
  funext index
  simp only [write, Nat.add_le_add_iff_left, Nat.add_sub_add_left]

theorem readAt_congr {memory other : Nat → Cell} {offset count : Nat}
    (same : ∀ index < count, memory (offset + index) = other (offset + index)) :
    readAt memory offset count = readAt other offset count := by
  apply List.map_congr_left
  intro index member
  exact same index (List.mem_range.mp member)

theorem readAt_add (memory : Nat → Cell) (offset first second : Nat) :
    readAt memory offset (first + second) =
      readAt memory offset first ++ readAt memory (offset + first) second := by
  simp only [readAt, List.range_add, List.map_append, List.map_map, List.append_cancel_left_eq]
  apply List.map_congr_left
  intro index _
  rw [Function.comp_apply, Nat.add_assoc]

/-- A read of what was written. -/
theorem readAt_write (memory : Nat → Cell) (offset : Nat) (cells : List Cell) :
    readAt (write memory offset cells) offset cells.length = cells := by
  apply List.ext_getElem (readAt_length _ _ _)
  intro index _ inside
  simp only [readAt, List.getElem_map, List.getElem_range]
  exact write_inside memory offset cells inside

theorem readAt_write_apart {memory : Nat → Cell} {offset start count : Nat} {cells : List Cell}
    (apart : start + count ≤ offset ∨ offset + cells.length ≤ start) :
    readAt (write memory offset cells) start count = readAt memory start count := by
  apply readAt_congr
  intro index inside
  apply write_outside
  omega

theorem readAt_write_behind (memory : Nat → Cell) (offset count : Nat) (cells : List Cell) :
    readAt (write memory (offset + count) cells) offset (count + cells.length) =
      readAt memory offset count ++ cells := by
  rw [readAt_add, readAt_write_apart (.inl (Nat.le_refl _)), readAt_write]

theorem write_append (memory : Nat → Cell) (offset : Nat) (front back : List Cell) :
    write (write memory offset front) (offset + front.length) back =
      write memory offset (front ++ back) := by
  funext address
  by_cases before : address < offset + front.length
  · rw [write_outside (.inl before)]
    by_cases inside : offset ≤ address
    · obtain ⟨index, rfl⟩ := Nat.exists_eq_add_of_le inside
      have left : index < front.length := by omega
      have both : index < (front ++ back).length := by
        rw [List.length_append]
        omega
      rw [write_inside _ _ _ left, write_inside _ _ _ both, List.getElem_append_left left]
    · rw [write_outside (.inl (by omega)), write_outside (.inl (by omega))]
  · obtain ⟨index, rfl⟩ := Nat.exists_eq_add_of_le (Nat.not_lt.mp before)
    by_cases inside : index < back.length
    · have both : front.length + index < (front ++ back).length := by
        rw [List.length_append]
        omega
      rw [write_inside _ _ _ inside, Nat.add_assoc, write_inside _ _ _ both,
        List.getElem_append_right (Nat.le_add_right _ _)]
      simp only [Nat.add_sub_cancel_left]
    · have beyond : offset + front.length ≤ offset + front.length + index := Nat.le_add_right _ _
      rw [write_outside (.inr (by omega)), write_outside (.inr beyond), write_outside (.inr (by
        rw [List.length_append]
        omega))]

end Memory
