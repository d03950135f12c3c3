import Msomeip.Library.BigEndian

namespace Msomeip.Tp

open BigEndian

/-- The SOME/IP-TP header; the widths are those of the bit-fields. -/
@[ext] structure TpHeader where
  offset : BitVec 24
  reserved : BitVec 7
  moreFlag : BitVec 1
deriving DecidableEq, Repr

def udpSegmentSize : Nat := 1392
def tcpSegmentSize : Nat := 4095
def defaultReassemblyTimeoutMs : Int := 5000

namespace TpHeader

def ofOffset (off : UInt32) (more : Bool) : TpHeader :=
  { offset := off.toBitVec.setWidth 24, reserved := 0, moreFlag := if more then 1 else 0 }

def value (header : TpHeader) : BitVec 32 :=
  (header.offset.setWidth 32 <<< 8) ||| (header.reserved.setWidth 32 <<< 1) |||
    header.moreFlag.setWidth 32

def ofValue (value : BitVec 32) : TpHeader :=
  { offset := ((value >>> 8) &&& 0x00FFFFFF).setWidth 24
    reserved := ((value >>> 1) &&& 0x7F).setWidth 7
    moreFlag := (value &&& 0x01).setWidth 1 }

def toNetwork (header : TpHeader) : List UInt8 := bytes32 (UInt32.ofBitVec header.value)

def fromNetwork (b0 b1 b2 b3 : UInt8) : TpHeader := ofValue (word32 b0 b1 b2 b3).toBitVec

theorem value_toNat (header : TpHeader) :
    header.value.toNat =
      header.offset.toNat * 2 ^ 8 + header.reserved.toNat * 2 ^ 1 + header.moreFlag.toNat := by
  obtain ⟨offset, reserved, more⟩ := header
  have ho := offset.isLt
  have hr := reserved.isLt
  have hm := more.isLt
  have digits : (offset.toNat * 2 ^ 8 ||| reserved.toNat * 2 ^ 1) ||| more.toNat =
      offset.toNat * 2 ^ 8 + reserved.toNat * 2 ^ 1 + more.toNat := by
    rw [or_eq_add offset.toNat (reserved.toNat * 2 ^ 1) 8 (by omega)]
    have joined : offset.toNat * 2 ^ 8 + reserved.toNat * 2 ^ 1 =
        (offset.toNat * 2 ^ 7 + reserved.toNat) * 2 ^ 1 := by omega
    rw [joined, or_eq_add _ more.toNat 1 hm]
  simp only [value, BitVec.toNat_or, BitVec.toNat_shiftLeft, BitVec.toNat_setWidth,
    Nat.shiftLeft_eq]
  rw [← digits]
  have fits : ∀ n, n < 2 ^ 32 → n % 2 ^ 32 = n := fun _ small => Nat.mod_eq_of_lt small
  rw [fits offset.toNat (by omega), fits reserved.toNat (by omega), fits more.toNat (by omega),
    fits (offset.toNat * 2 ^ 8) (by omega), fits (reserved.toNat * 2 ^ 1) (by omega)]

theorem ofValue_value (header : TpHeader) : ofValue header.value = header := by
  have total := value_toNat header
  obtain ⟨offset, reserved, more⟩ := header
  have ho := offset.isLt
  have hr := reserved.isLt
  have hm := more.isLt
  dsimp only at total
  have mask (n width : Nat) : n &&& (2 ^ width - 1) = n % 2 ^ width :=
    Nat.and_two_pow_sub_one_eq_mod n width
  rw [TpHeader.ext_iff]
  simp only [ofValue, ← BitVec.toNat_inj, BitVec.toNat_setWidth, BitVec.toNat_and,
    BitVec.toNat_ushiftRight, Nat.shiftRight_eq_div_pow]
  have high : (TpHeader.value ⟨offset, reserved, more⟩).toNat / 2 ^ 8 &&& (2 ^ 24 - 1) =
      offset.toNat := by
    rw [mask, total]
    omega
  have middle : (TpHeader.value ⟨offset, reserved, more⟩).toNat / 2 ^ 1 &&& (2 ^ 7 - 1) =
      reserved.toNat := by
    rw [mask, total]
    omega
  have low : (TpHeader.value ⟨offset, reserved, more⟩).toNat &&& (2 ^ 1 - 1) = more.toNat := by
    rw [mask, total]
    omega
  exact ⟨(congrArg (· % 2 ^ 24) high).trans (Nat.mod_eq_of_lt ho),
    (congrArg (· % 2 ^ 7) middle).trans (Nat.mod_eq_of_lt hr),
    (congrArg (· % 2 ^ 1) low).trans (Nat.mod_eq_of_lt hm)⟩

theorem toNetwork_eq (header : TpHeader) : ∃ b0 b1 b2 b3,
    header.toNetwork = [b0, b1, b2, b3] ∧ fromNetwork b0 b1 b2 b3 = header := by
  have parsed : ofValue (UInt32.ofBitVec header.value).toBitVec = header := ofValue_value header
  exact ⟨_, _, _, _, rfl, by rw [fromNetwork, word32_bytes, parsed]⟩

@[simp] theorem toNetwork_length (header : TpHeader) : header.toNetwork.length = 4 := rfl

end TpHeader
end Msomeip.Tp
