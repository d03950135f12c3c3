import Mathlib.Data.List.Infix
import Msomeip.Library.BigEndian

namespace Framing

open BigEndian

/-- Data behind its length. -/
def encode (data : List UInt8) : List UInt8 := bytes32 (UInt32.ofNat data.length) ++ data

/-- The data of the frame at the front of a stream, where it is there as a whole and not longer
    than the limit, and what follows it. -/
def next (limit : Nat) : List UInt8 → Option (List UInt8 × List UInt8)
  | b0 :: b1 :: b2 :: b3 :: rest =>
    let length := (word32 b0 b1 b2 b3).toNat
    if length ≤ limit ∧ length ≤ rest.length then some (rest.take length, rest.drop length)
    else none
  | _ => none

@[simp] theorem encode_length (data : List UInt8) : (encode data).length = 4 + data.length := by
  simp [encode]

theorem next_shorter {limit : Nat} {stream data later : List UInt8}
    (found : next limit stream = some (data, later)) : later.length < stream.length := by
  unfold next at found
  split at found
  · simp only at found
    split at found
    · obtain ⟨rfl, rfl⟩ := Prod.mk.inj (Option.some.inj found)
      simp only [List.length_drop, List.length_cons]
      omega
    · cases found
  · cases found

def parse (limit : Nat) (stream : List UInt8) : List (List UInt8) :=
  match _found : next limit stream with
  | none => []
  | some (data, later) => data :: parse limit later
termination_by stream.length
decreasing_by exact next_shorter _found

theorem parse_none {limit : Nat} {stream : List UInt8} (found : next limit stream = none) :
    parse limit stream = [] := by
  rw [parse]
  split
  · rfl
  · rename_i found'
    rw [found] at found'
    cases found'

theorem parse_some {limit : Nat} {stream data later : List UInt8}
    (found : next limit stream = some (data, later)) :
    parse limit stream = data :: parse limit later := by
  rw [parse]
  split
  · rename_i found'
    rw [found] at found'
    cases found'
  · rename_i found'
    rw [found] at found'
    obtain ⟨rfl, rfl⟩ := Prod.mk.inj (Option.some.inj found')
    rfl

theorem next_bytes32 {limit length : Nat} (fits : length < 2 ^ 32) (rest : List UInt8) :
    next limit (bytes32 (UInt32.ofNat length) ++ rest) =
      if length ≤ limit ∧ length ≤ rest.length then some (rest.take length, rest.drop length)
      else none := by
  have count : (UInt32.ofNat length).toNat = length := by
    rw [UInt32.toNat_ofNat']
    exact Nat.mod_eq_of_lt fits
  rw [bytes32]
  simp only [List.cons_append, List.nil_append, next, word32_bytes, count]

theorem parse_encode {limit : Nat} {data : List UInt8} (small : limit < 2 ^ 32)
    (fits : data.length ≤ limit) (rest : List UInt8) :
    parse limit (encode data ++ rest) = data :: parse limit rest := by
  apply parse_some
  rw [encode, List.append_assoc, next_bytes32 (Nat.lt_of_le_of_lt fits small)]
  simp [fits]

/-- A frame that is cut off yields nothing. -/
theorem parse_torn {limit : Nat} {data front : List UInt8} (small : data.length < 2 ^ 32)
    (part : front <+: encode data) (torn : front.length < (encode data).length) :
    parse limit front = [] := by
  apply parse_none
  by_cases short : front.length < 4
  · unfold next
    split
    · simp only [List.length_cons] at short
      omega
    · rfl
  · have counted : bytes32 (UInt32.ofNat data.length) <+: front := by
      apply List.prefix_of_prefix_length_le (List.prefix_append _ data) part
      rw [bytes32_length]
      omega
    obtain ⟨rest, rfl⟩ := counted
    rw [next_bytes32 small, if_neg]
    intro complete
    rw [encode_length, List.length_append, bytes32_length] at torn
    omega

def declared : List UInt8 → Option Nat
  | b0 :: b1 :: b2 :: b3 :: _ => some (word32 b0 b1 b2 b3).toNat
  | _ => none

theorem declared_of_parse {limit : Nat} {stream data : List UInt8} {frames : List (List UInt8)}
    (read : parse limit stream = data :: frames) : declared stream = some data.length := by
  cases found : next limit stream with
  | none =>
    rw [parse_none found] at read
    cases read
  | some pair =>
    obtain ⟨body, later⟩ := pair
    rw [parse_some found] at read
    obtain rfl := List.head_eq_of_cons_eq read
    unfold next at found
    split at found
    · simp only at found
      split at found
      · rename_i fits
        obtain ⟨rfl, -⟩ := Prod.mk.inj (Option.some.inj found)
        rw [declared, List.length_take_of_le fits.2]
      · cases found
    · cases found

theorem bytes32_small {length : Nat} (small : length < 2 ^ 16) :
    bytes32 (UInt32.ofNat length) = [0, 0, UInt8.ofNat (length / 256), UInt8.ofNat length] := by
  have count : (UInt32.ofNat length).toNat = length := by
    rw [UInt32.toNat_ofNat']
    omega
  have d24 := digit32_toNat (UInt32.ofNat length) 24 (by decide)
  have d16 := digit32_toNat (UInt32.ofNat length) 16 (by decide)
  have d8 := digit32_toNat (UInt32.ofNat length) 8 (by decide)
  have d0 := low32_toNat (UInt32.ofNat length)
  rw [count] at d24 d16 d8 d0
  rw [bytes32]
  congr 1
  · apply UInt8.toNat_inj.mp
    rw [d24]
    change length / 2 ^ 24 % 2 ^ 8 = 0
    omega
  congr 1
  · apply UInt8.toNat_inj.mp
    rw [d16]
    change length / 2 ^ 16 % 2 ^ 8 = 0
    omega
  congr 1
  · apply UInt8.toNat_inj.mp
    rw [d8, UInt8.toNat_ofNat']
    rfl
  congr 1
  apply UInt8.toNat_inj.mp
  rw [d0, UInt8.toNat_ofNat']

theorem declared_torn {data front other : List UInt8} (rest : List UInt8)
    (small : data.length < 2 ^ 16) (smallOther : other.length < 2 ^ 16)
    (part : front <+: encode data) (begun : front ≠ []) :
    declared (front ++ (encode other ++ rest)) ∈
      [some data.length, some (data.length / 256 * 256), some 0, some (other.length / 256)] := by
  have high : (UInt8.ofNat (data.length / 256)).toNat = data.length / 256 := by
    rw [UInt8.toNat_ofNat']
    omega
  have highOther : (UInt8.ofNat (other.length / 256)).toNat = other.length / 256 := by
    rw [UInt8.toNat_ofNat']
    omega
  have low : (UInt8.ofNat data.length).toNat = data.length % 256 := UInt8.toNat_ofNat'
  obtain ⟨tail, split⟩ := part
  rw [encode, bytes32_small small] at split
  rw [encode, bytes32_small smallOther]
  rcases front with _ | ⟨b0, _ | ⟨b1, _ | ⟨b2, _ | ⟨b3, front⟩⟩⟩⟩
  · exact (begun rfl).elim
  all_goals
    simp only [List.cons_append, List.nil_append, List.cons.injEq] at split
  · obtain ⟨rfl, -⟩ := split
    have read : (word32 0 0 0 (UInt8.ofNat (other.length / 256))).toNat = other.length / 256 := by
      rw [word32_toNat, highOther]
      simp
    simp [declared, read]
  · obtain ⟨rfl, rfl, -⟩ := split
    have read : (word32 0 0 0 0).toNat = 0 := by decide
    simp [declared, read]
  · obtain ⟨rfl, rfl, rfl, -⟩ := split
    have read : (word32 0 0 (UInt8.ofNat (data.length / 256)) 0).toNat =
        data.length / 256 * 256 := by
      rw [word32_toNat, high]
      simp
    simp [declared, read]
  · obtain ⟨rfl, rfl, rfl, rfl, -⟩ := split
    have read : (word32 0 0 (UInt8.ofNat (data.length / 256)) (UInt8.ofNat data.length)).toNat =
        data.length := by
      rw [word32_toNat, high, low]
      simp only [UInt8.toNat_zero]
      omega
    simp [declared, read]

end Framing
