import Mathlib.Data.List.Basic

namespace Fragments

variable {α : Type*}

/-- Where a chain of fragments that starts at `expected` ends; `none` at the first fragment that
    does not start where the one before it ended. -/
def chainEnd (expected : Nat) : List (Nat × List α) → Option Nat
  | [] => some expected
  | (offset, data) :: rest =>
    if offset = expected then chainEnd (expected + data.length) rest else none

/-- The second fragment starts where the first one ends. -/
def Adjacent (left right : Nat × List α) : Prop := right.1 = left.1 + left.2.length

theorem chainEnd_head {fragments : List (Nat × List α)} {expected last : Nat}
    (chain : chainEnd expected fragments = some last) {first : Nat × List α}
    (head : fragments.head? = some first) : first.1 = expected := by
  cases fragments with
  | nil => cases head
  | cons fragment rest =>
    obtain rfl := Option.some.inj head
    simp only [chainEnd] at chain
    split at chain
    · assumption
    · cases chain

theorem chainEnd_adjacent {fragments : List (Nat × List α)} {expected last : Nat}
    (chain : chainEnd expected fragments = some last) : fragments.IsChain Adjacent := by
  induction fragments generalizing expected with
  | nil => exact .nil
  | cons fragment rest ih =>
    simp only [chainEnd] at chain
    split at chain
    · rename_i starts
      have later := ih chain
      cases rest with
      | nil => exact .singleton fragment
      | cons next rest =>
        have follows := chainEnd_head chain rfl
        exact .cons_cons (by rw [Adjacent, follows, ← starts]) later
    · cases chain

theorem start_le_chainEnd {fragments : List (Nat × List α)} {expected last : Nat}
    (chain : chainEnd expected fragments = some last) : expected ≤ last := by
  induction fragments generalizing expected with
  | nil => exact Nat.le_of_eq (Option.some.inj chain)
  | cons fragment rest ih =>
    simp only [chainEnd] at chain
    split at chain
    · exact Nat.le_trans (Nat.le_add_right _ _) (ih chain)
    · cases chain

/-- A chain without gaps ends behind each of its fragments. -/
theorem fragment_le_chainEnd {fragments : List (Nat × List α)} {expected last : Nat}
    (chain : chainEnd expected fragments = some last) {offset : Nat} {data : List α}
    (member : (offset, data) ∈ fragments) : offset + data.length ≤ last := by
  induction fragments generalizing expected with
  | nil => cases member
  | cons fragment rest ih =>
    simp only [chainEnd] at chain
    split at chain
    · rename_i starts
      rcases List.mem_cons.mp member with rfl | member
      · change offset = expected at starts
        rw [starts]
        exact start_le_chainEnd chain
      · exact ih chain member
    · cases chain

theorem flatMap_pieces (data : List α) (size count : Nat) :
    ((List.range count).flatMap fun index => (data.drop (index * size)).take size) =
      data.take (count * size) := by
  induction count with
  | zero => rw [Nat.zero_mul, List.take_zero, List.range_zero, List.flatMap_nil]
  | succ count ih =>
    rw [List.range_succ, List.flatMap_append, ih, List.flatMap_singleton, Nat.succ_mul,
      List.take_add]

end Fragments
