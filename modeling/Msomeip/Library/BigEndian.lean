import Mathlib.Data.List.Induction
import Mathlib.Data.Nat.Bitwise

namespace BigEndian

def bytes16 (value : UInt16) : List UInt8 :=
  [(value >>> 8).toUInt8, (value &&& 0xFF).toUInt8]

def bytes24 (value : UInt32) : List UInt8 :=
  [(value >>> 16).toUInt8, (value >>> 8).toUInt8, (value &&& 0xFF).toUInt8]

def bytes32 (value : UInt32) : List UInt8 :=
  [(value >>> 24).toUInt8, (value >>> 16).toUInt8, (value >>> 8).toUInt8, (value &&& 0xFF).toUInt8]

def bytes64 (value : UInt64) : List UInt8 :=
  (List.range 8).reverse.map fun index => (value >>> UInt64.ofNat (index * 8)).toUInt8

def word16 (b0 b1 : UInt8) : UInt16 :=
  (b0.toUInt16 <<< 8) ||| b1.toUInt16

def word24 (b0 b1 b2 : UInt8) : UInt32 :=
  (b0.toUInt32 <<< 16) ||| (b1.toUInt32 <<< 8) ||| b2.toUInt32

def word32 (b0 b1 b2 b3 : UInt8) : UInt32 :=
  (b0.toUInt32 <<< 24) ||| (b1.toUInt32 <<< 16) ||| (b2.toUInt32 <<< 8) ||| b3.toUInt32

/-- One byte after the other is shifted in from the right. -/
def word64 (bytes : List UInt8) : UInt64 :=
  bytes.foldl (fun value byte => (value <<< 8) ||| byte.toUInt64) 0

/-- The number that the bytes are the digits of, the most significant one first. -/
def number (bytes : List UInt8) : Nat :=
  bytes.foldl (fun value byte => value * 2 ^ 8 + byte.toNat) 0

@[simp] theorem bytes16_length (value : UInt16) : (bytes16 value).length = 2 := rfl
@[simp] theorem bytes32_length (value : UInt32) : (bytes32 value).length = 4 := rfl
@[simp] theorem bytes64_length (value : UInt64) : (bytes64 value).length = 8 := rfl

theorem or_eq_add (high low width : Nat) (fits : low < 2 ^ width) :
    high * 2 ^ width ||| low = high * 2 ^ width + low := by
  rw [← Nat.shiftLeft_eq, Nat.shiftLeft_add_eq_or_of_lt fits]

theorem shift_fits (byte : UInt8) (shift width : Nat) (fits : shift + 8 ≤ width) :
    byte.toNat <<< shift % 2 ^ width = byte.toNat * 2 ^ shift := by
  rw [Nat.shiftLeft_eq]
  apply Nat.mod_eq_of_lt
  calc byte.toNat * 2 ^ shift
      < 2 ^ 8 * 2 ^ shift := Nat.mul_lt_mul_of_pos_right byte.toNat_lt (Nat.two_pow_pos shift)
    _ = 2 ^ (shift + 8) := by rw [← Nat.pow_add, Nat.add_comm]
    _ ≤ 2 ^ width := Nat.pow_le_pow_right (by decide) fits

theorem word16_toNat (b0 b1 : UInt8) :
    (word16 b0 b1).toNat = b0.toNat * 2 ^ 8 + b1.toNat := by
  simp only [word16, UInt16.toNat_or, UInt16.toNat_shiftLeft, UInt8.toNat_toUInt16]
  change b0.toNat <<< 8 % 2 ^ 16 ||| b1.toNat = _
  rw [shift_fits b0 8 16 (by decide), or_eq_add _ _ 8 b1.toNat_lt]

theorem word24_toNat (b0 b1 b2 : UInt8) :
    (word24 b0 b1 b2).toNat = b0.toNat * 2 ^ 16 + b1.toNat * 2 ^ 8 + b2.toNat := by
  have h1 := b1.toNat_lt
  have h2 := b2.toNat_lt
  simp only [word24, UInt32.toNat_or, UInt32.toNat_shiftLeft, UInt8.toNat_toUInt32]
  change b0.toNat <<< 16 % 2 ^ 32 ||| b1.toNat <<< 8 % 2 ^ 32 ||| b2.toNat = _
  rw [shift_fits b0 16 32 (by decide), shift_fits b1 8 32 (by decide),
    or_eq_add _ _ 16 (by omega)]
  have joined : b0.toNat * 2 ^ 16 + b1.toNat * 2 ^ 8 = (b0.toNat * 2 ^ 8 + b1.toNat) * 2 ^ 8 := by
    omega
  rw [joined, or_eq_add _ _ 8 h2]

theorem word32_toNat (b0 b1 b2 b3 : UInt8) :
    (word32 b0 b1 b2 b3).toNat =
      b0.toNat * 2 ^ 24 + b1.toNat * 2 ^ 16 + b2.toNat * 2 ^ 8 + b3.toNat := by
  have h1 := b1.toNat_lt
  have h2 := b2.toNat_lt
  have h3 := b3.toNat_lt
  have first : b0.toNat * 2 ^ 24 ||| b1.toNat * 2 ^ 16 =
      (b0.toNat * 2 ^ 8 + b1.toNat) * 2 ^ 16 := by
    rw [or_eq_add b0.toNat (b1.toNat * 2 ^ 16) 24 (by omega)]
    omega
  have second : (b0.toNat * 2 ^ 8 + b1.toNat) * 2 ^ 16 ||| b2.toNat * 2 ^ 8 =
      (b0.toNat * 2 ^ 16 + b1.toNat * 2 ^ 8 + b2.toNat) * 2 ^ 8 := by
    rw [or_eq_add (b0.toNat * 2 ^ 8 + b1.toNat) (b2.toNat * 2 ^ 8) 16 (by omega)]
    omega
  simp only [word32, UInt32.toNat_or, UInt32.toNat_shiftLeft, UInt8.toNat_toUInt32]
  change b0.toNat <<< 24 % 2 ^ 32 ||| b1.toNat <<< 16 % 2 ^ 32 ||| b2.toNat <<< 8 % 2 ^ 32 |||
    b3.toNat = _
  rw [shift_fits b0 24 32 (by decide), shift_fits b1 16 32 (by decide),
    shift_fits b2 8 32 (by decide), first, second,
    or_eq_add (b0.toNat * 2 ^ 16 + b1.toNat * 2 ^ 8 + b2.toNat) b3.toNat 8 h3]
  omega

theorem digit16_toNat (value : UInt16) :
    (value >>> 8).toUInt8.toNat = value.toNat / 2 ^ 8 ∧
      (value &&& 0xFF).toUInt8.toNat = value.toNat % 2 ^ 8 := by
  have bound := value.toNat_lt
  constructor
  · simp only [UInt16.toNat_toUInt8, UInt16.toNat_shiftRight]
    change value.toNat >>> 8 % 2 ^ 8 = _
    rw [Nat.shiftRight_eq_div_pow]
    omega
  · simp only [UInt16.toNat_toUInt8, UInt16.toNat_and]
    change (value.toNat &&& 2 ^ 8 - 1) % 2 ^ 8 = _
    rw [Nat.and_two_pow_sub_one_eq_mod, Nat.mod_mod]

theorem digit32_toNat (value shift : UInt32) (small : shift.toNat < 32) :
    (value >>> shift).toUInt8.toNat = value.toNat / 2 ^ shift.toNat % 2 ^ 8 := by
  simp only [UInt32.toNat_toUInt8, UInt32.toNat_shiftRight, Nat.mod_eq_of_lt small,
    Nat.shiftRight_eq_div_pow]

theorem low32_toNat (value : UInt32) :
    (value &&& 0xFF).toUInt8.toNat = value.toNat % 2 ^ 8 := by
  simp only [UInt32.toNat_toUInt8, UInt32.toNat_and]
  change (value.toNat &&& 2 ^ 8 - 1) % 2 ^ 8 = _
  rw [Nat.and_two_pow_sub_one_eq_mod, Nat.mod_mod]

@[simp] theorem word16_bytes (value : UInt16) :
    word16 (value >>> 8).toUInt8 (value &&& 0xFF).toUInt8 = value := by
  apply UInt16.toNat_inj.mp
  rw [word16_toNat, (digit16_toNat value).1, (digit16_toNat value).2]
  omega

theorem word24_bytes_mod (value : UInt32) :
    word24 (value >>> 16).toUInt8 (value >>> 8).toUInt8 (value &&& 0xFF).toUInt8 =
      value % 0x1000000 := by
  apply UInt32.toNat_inj.mp
  have d16 := digit32_toNat value 16 (by decide)
  have d8 := digit32_toNat value 8 (by decide)
  rw [word24_toNat, d16, d8, low32_toNat, UInt32.toNat_mod]
  change value.toNat / 2 ^ 16 % 2 ^ 8 * 2 ^ 16 + value.toNat / 2 ^ 8 % 2 ^ 8 * 2 ^ 8 +
    value.toNat % 2 ^ 8 = value.toNat % 2 ^ 24
  omega

@[simp] theorem word32_bytes (value : UInt32) :
    word32 (value >>> 24).toUInt8 (value >>> 16).toUInt8 (value >>> 8).toUInt8
      (value &&& 0xFF).toUInt8 = value := by
  have bound := value.toNat_lt
  apply UInt32.toNat_inj.mp
  have d24 := digit32_toNat value 24 (by decide)
  have d16 := digit32_toNat value 16 (by decide)
  have d8 := digit32_toNat value 8 (by decide)
  rw [word32_toNat, d24, d16, d8, low32_toNat]
  change value.toNat / 2 ^ 24 % 2 ^ 8 * 2 ^ 24 + value.toNat / 2 ^ 16 % 2 ^ 8 * 2 ^ 16 +
    value.toNat / 2 ^ 8 % 2 ^ 8 * 2 ^ 8 + value.toNat % 2 ^ 8 = value.toNat
  omega

@[simp] theorem bytes16_word (b0 b1 : UInt8) : bytes16 (word16 b0 b1) = [b0, b1] := by
  have small0 := b0.toNat_lt
  have small1 := b1.toNat_lt
  have first : (word16 b0 b1 >>> 8).toUInt8 = b0 := by
    apply UInt8.toNat_inj.mp
    rw [(digit16_toNat _).1, word16_toNat]
    omega
  have second : (word16 b0 b1 &&& 0xFF).toUInt8 = b1 := by
    apply UInt8.toNat_inj.mp
    rw [(digit16_toNat _).2, word16_toNat]
    omega
  rw [bytes16, first, second]

@[simp] theorem bytes32_word (b0 b1 b2 b3 : UInt8) :
    bytes32 (word32 b0 b1 b2 b3) = [b0, b1, b2, b3] := by
  have digit (shift : UInt32) (small : shift.toNat < 32) (byte : UInt8)
      (same : (b0.toNat * 2 ^ 24 + b1.toNat * 2 ^ 16 + b2.toNat * 2 ^ 8 + b3.toNat) /
        2 ^ shift.toNat % 2 ^ 8 = byte.toNat) :
      (word32 b0 b1 b2 b3 >>> shift).toUInt8 = byte := by
    apply UInt8.toNat_inj.mp
    rw [digit32_toNat _ shift small, word32_toNat, same]
  have small0 := b0.toNat_lt
  have small1 := b1.toNat_lt
  have small2 := b2.toNat_lt
  have small3 := b3.toNat_lt
  have first := digit 24 (by decide) b0 (by change _ / 2 ^ 24 % 2 ^ 8 = _; omega)
  have second := digit 16 (by decide) b1 (by change _ / 2 ^ 16 % 2 ^ 8 = _; omega)
  have third := digit 8 (by decide) b2 (by change _ / 2 ^ 8 % 2 ^ 8 = _; omega)
  have last : (word32 b0 b1 b2 b3 &&& 0xFF).toUInt8 = b3 := by
    apply UInt8.toNat_inj.mp
    rw [low32_toNat, word32_toNat]
    omega
  rw [bytes32, first, second, third, last]

theorem bytes24_word (b0 b1 b2 : UInt8) : bytes24 (word24 b0 b1 b2) = [b0, b1, b2] := by
  have same : word32 0 b0 b1 b2 = word24 b0 b1 b2 := by
    apply UInt32.toNat_inj.mp
    rw [word32_toNat, word24_toNat]
    change 0 * 2 ^ 24 + _ + _ + _ = _
    rw [Nat.zero_mul, Nat.zero_add]
  have lower : (bytes32 (word32 0 b0 b1 b2)).tail = [b0, b1, b2] := by
    rw [bytes32_word, List.tail_cons]
  rw [same] at lower
  exact lower

theorem number_snoc (bytes : List UInt8) (byte : UInt8) :
    number (bytes ++ [byte]) = number bytes * 2 ^ 8 + byte.toNat := by
  rw [number, List.foldl_append]
  rfl

theorem number_lt (bytes : List UInt8) : number bytes < 2 ^ (8 * bytes.length) := by
  induction bytes using List.reverseRecOn with
  | nil => exact Nat.one_pos
  | append_singleton front last ih =>
    have small := last.toNat_lt
    rw [number_snoc, List.length_append, List.length_singleton, Nat.mul_succ, Nat.pow_add]
    omega

theorem word32_number (b0 b1 b2 b3 : UInt8) :
    (word32 b0 b1 b2 b3).toNat = number [b0, b1, b2, b3] := by
  rw [word32_toNat]
  simp only [number, List.foldl_cons, List.foldl_nil]
  omega

/-- The bits of eight bytes fit into the word. -/
theorem word64_toNat {bytes : List UInt8} (fits : bytes.length ≤ 8) :
    (word64 bytes).toNat = number bytes := by
  induction bytes using List.reverseRecOn with
  | nil => rfl
  | append_singleton front last ih =>
    rw [List.length_append, List.length_singleton] at fits
    have shorter : front.length ≤ 7 := by omega
    have bound : number front < 2 ^ 56 := (number_lt front).trans_le
      (Nat.pow_le_pow_right (by decide) (by omega))
    have shifted : number front <<< 8 % 2 ^ 64 = number front * 2 ^ 8 := by
      rw [Nat.shiftLeft_eq]
      omega
    rw [number_snoc, ← or_eq_add _ _ 8 last.toNat_lt, ← shifted, ← ih (by omega), word64,
      List.foldl_append]
    simp only [List.foldl_cons, List.foldl_nil, UInt64.toNat_or, UInt64.toNat_shiftLeft,
      UInt8.toNat_toUInt64]
    rfl

theorem number_digits (value count : Nat) :
    number ((List.range count).reverse.map fun index => UInt8.ofNat (value / 2 ^ (index * 8))) =
      value % 2 ^ (8 * count) := by
  induction count generalizing value with
  | zero => exact (Nat.mod_one value).symm
  | succ count ih =>
    have higher : (List.range count).map ((fun index => UInt8.ofNat (value / 2 ^ (index * 8))) ∘
        Nat.succ) =
          (List.range count).map fun index => UInt8.ofNat (value / 2 ^ 8 / 2 ^ (index * 8)) := by
      apply List.map_congr_left
      intro index _
      rw [Function.comp_apply, Nat.div_div_eq_div_mul, ← Nat.pow_add, Nat.succ_mul, Nat.add_comm]
    have lowest : (UInt8.ofNat (value / 2 ^ (0 * 8))).toNat = value % 2 ^ 8 := by
      rw [Nat.zero_mul, Nat.pow_zero, Nat.div_one, UInt8.toNat_ofNat']
    have tail := ih (value / 2 ^ 8)
    rw [List.map_reverse] at tail ⊢
    rw [List.range_succ_eq_map, List.map_cons, List.map_map, List.reverse_cons, number_snoc,
      higher, tail, lowest, Nat.mul_succ, Nat.add_comm (8 * count), Nat.pow_add, Nat.mod_mul,
      Nat.mul_comm, Nat.add_comm]

theorem number_bytes64 (value : UInt64) : number (bytes64 value) = value.toNat := by
  have digits : bytes64 value =
      (List.range 8).reverse.map fun index => UInt8.ofNat (value.toNat / 2 ^ (index * 8)) := by
    apply List.map_congr_left
    intro index member
    have small : index < 8 := List.mem_range.mp (List.mem_reverse.mp member)
    have shift : (UInt64.ofNat (index * 8)).toNat = index * 8 :=
      UInt64.toNat_ofNat_of_lt' (by change index * 8 < 2 ^ 64; omega)
    apply UInt8.toNat_inj.mp
    have whole : index * 8 % 64 = index * 8 := Nat.mod_eq_of_lt (by omega)
    rw [UInt64.toNat_toUInt8, UInt64.toNat_shiftRight, shift, whole, Nat.shiftRight_eq_div_pow,
      UInt8.toNat_ofNat']
  rw [digits, number_digits]
  exact Nat.mod_eq_of_lt value.toNat_lt

@[simp] theorem word64_bytes (value : UInt64) : word64 (bytes64 value) = value := by
  apply UInt64.toNat_inj.mp
  rw [word64_toNat (by simp), number_bytes64]

end BigEndian
