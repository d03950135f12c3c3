import Msomeip.Library.BigEndian

namespace LittleEndian

def bytes16 (value : UInt16) : List UInt8 :=
  [(value &&& 0xFF).toUInt8, (value >>> 8).toUInt8]

def bytes32 (value : UInt32) : List UInt8 :=
  [(value &&& 0xFF).toUInt8, (value >>> 8).toUInt8, (value >>> 16).toUInt8, (value >>> 24).toUInt8]

def bytes64 (value : UInt64) : List UInt8 :=
  (List.range 8).map fun index => (value >>> UInt64.ofNat (index * 8)).toUInt8

def word16 (b0 b1 : UInt8) : UInt16 :=
  b0.toUInt16 ||| (b1.toUInt16 <<< 8)

def word32 (b0 b1 b2 b3 : UInt8) : UInt32 :=
  b0.toUInt32 ||| (b1.toUInt32 <<< 8) ||| (b2.toUInt32 <<< 16) ||| (b3.toUInt32 <<< 24)

/-- One byte after the other is put in at its place. -/
def word64 (bytes : List UInt8) : UInt64 :=
  bytes.zipIdx.foldl (fun value (byte, index) =>
    value ||| (byte.toUInt64 <<< UInt64.ofNat (index * 8))) 0

@[simp] theorem bytes16_length (value : UInt16) : (bytes16 value).length = 2 := rfl
@[simp] theorem bytes32_length (value : UInt32) : (bytes32 value).length = 4 := rfl
@[simp] theorem bytes64_length (value : UInt64) : (bytes64 value).length = 8 := rfl

theorem bytes64_eq (value : UInt64) : bytes64 value = (BigEndian.bytes64 value).reverse := by
  rw [BigEndian.bytes64, List.map_reverse, List.reverse_reverse, bytes64]

@[simp] theorem word16_bytes (value : UInt16) :
    word16 (value &&& 0xFF).toUInt8 (value >>> 8).toUInt8 = value := by
  rw [word16, UInt16.or_comm]
  exact BigEndian.word16_bytes value

theorem word32_eq (b0 b1 b2 b3 : UInt8) : word32 b0 b1 b2 b3 = BigEndian.word32 b3 b2 b1 b0 := by
  unfold word32 BigEndian.word32
  generalize b1.toUInt32 <<< 8 = second
  generalize b2.toUInt32 <<< 16 = third
  generalize b3.toUInt32 <<< 24 = last
  rw [UInt32.or_comm _ last, UInt32.or_comm _ third, UInt32.or_comm _ second,
    ← UInt32.or_assoc, ← UInt32.or_assoc]

@[simp] theorem word32_bytes (value : UInt32) :
    word32 (value &&& 0xFF).toUInt8 (value >>> 8).toUInt8 (value >>> 16).toUInt8
      (value >>> 24).toUInt8 = value := by
  rw [word32_eq, BigEndian.word32_bytes]

theorem number_cons (byte : UInt8) (bytes : List UInt8) :
    BigEndian.number (byte :: bytes) =
      byte.toNat * 2 ^ (8 * bytes.length) + BigEndian.number bytes := by
  induction bytes using List.reverseRecOn with
  | nil => simp [BigEndian.number]
  | append_singleton front last ih =>
    rw [← List.cons_append, BigEndian.number_snoc, BigEndian.number_snoc, ih, List.length_append,
      List.length_singleton, Nat.mul_succ, Nat.pow_add, Nat.add_mul, Nat.mul_assoc, Nat.add_assoc]

/-- The place of a byte is the number of bytes before it. -/
theorem word64_toNat {bytes : List UInt8} (fits : bytes.length ≤ 8) :
    (word64 bytes).toNat = BigEndian.number bytes.reverse := by
  induction bytes using List.reverseRecOn with
  | nil => rfl
  | append_singleton front last ih =>
    rw [List.length_append, List.length_singleton] at fits
    have before := ih (by omega)
    have bound := BigEndian.number_lt front.reverse
    rw [List.length_reverse] at bound
    have place : (UInt64.ofNat (front.length * 8)).toNat = 8 * front.length := by
      rw [UInt64.toNat_ofNat_of_lt' (by change front.length * 8 < 2 ^ 64; omega), Nat.mul_comm]
    have inside : 8 * front.length % 64 = 8 * front.length := Nat.mod_eq_of_lt (by omega)
    have last_place := BigEndian.shift_fits last (8 * front.length) 64 (by omega)
    rw [word64, List.zipIdx_append, List.foldl_append]
    change (word64 front ||| last.toUInt64 <<< UInt64.ofNat ((0 + front.length) * 8)).toNat = _
    rw [Nat.zero_add, UInt64.toNat_or, UInt64.toNat_shiftLeft, place, inside,
      UInt8.toNat_toUInt64, last_place, before, Nat.or_comm,
      BigEndian.or_eq_add _ _ _ bound, List.reverse_append, List.reverse_singleton,
      List.singleton_append, number_cons, List.length_reverse]

@[simp] theorem word64_bytes (value : UInt64) : word64 (bytes64 value) = value := by
  apply UInt64.toNat_inj.mp
  rw [word64_toNat (by simp), bytes64_eq, List.reverse_reverse, BigEndian.number_bytes64]

end LittleEndian
