import Msomeip.Library.BigEndian
import Msomeip.Library.Tracked
import Msomeip.Types

namespace Msomeip.Sd

open BigEndian

structure SdOptionType where
  value : UInt8
deriving DecidableEq, Repr

namespace SdOptionType

def ipv4Endpoint : SdOptionType := ⟨0x04⟩
def ipv4Multicast : SdOptionType := ⟨0x14⟩

end SdOptionType

def serializeIPv4 (type : SdOptionType) (address : Inet.InAddr) (protocol : UInt8)
    (port : UInt16) : List UInt8 :=
  [0x00, 0x09, type.value, 0x00, address.b0, address.b1, address.b2, address.b3, 0x00, protocol] ++
    bytes16 port

/-- A text that is no address leaves the old one in place. -/
def parseAddress (old : Inet.InAddr) (address : String) : Inet.InAddr :=
  (Inet.pton address).getD old

structure IPv4EndpointOption where
  address : Inet.InAddr := ⟨0, 0, 0, 0⟩
  port : UInt16 := 0
  protocol : IpProtocol := .udp
deriving DecidableEq, Repr

namespace IPv4EndpointOption

def serialize (option : IPv4EndpointOption) : List UInt8 :=
  serializeIPv4 .ipv4Endpoint option.address option.protocol.value option.port

def getAddress (option : IPv4EndpointOption) : String := Inet.ntop option.address

def setAddress (option : IPv4EndpointOption) (address : String) : IPv4EndpointOption :=
  { option with address := parseAddress option.address address }

end IPv4EndpointOption

structure IPv4MulticastOption where
  address : Inet.InAddr := ⟨0, 0, 0, 0⟩
  port : UInt16 := 0
deriving DecidableEq, Repr

namespace IPv4MulticastOption

def serialize (option : IPv4MulticastOption) : List UInt8 :=
  serializeIPv4 .ipv4Multicast option.address 0x00 option.port

def setAddress (option : IPv4MulticastOption) (address : String) : IPv4MulticastOption :=
  { option with address := parseAddress option.address address }

end IPv4MulticastOption

inductive SdOption
  | ipv4Endpoint (option : IPv4EndpointOption)
  | ipv4Multicast (option : IPv4MulticastOption)
deriving DecidableEq, Repr

namespace SdOption

def optionSize : Nat := 12

def getSize : SdOption → Nat
  | .ipv4Endpoint _ => optionSize
  | .ipv4Multicast _ => optionSize

def serialize : SdOption → List UInt8
  | .ipv4Endpoint option => option.serialize
  | .ipv4Multicast option => option.serialize

/-- The `dynamic_cast` to an endpoint option, and the endpoint it holds. -/
def endpoint : SdOption → Option Endpoint
  | .ipv4Endpoint option => some ⟨option.getAddress, option.port, option.protocol⟩
  | .ipv4Multicast _ => none

def readAddress (memory : Nat → UInt8) (offset : Nat) : Tracked Inet.InAddr := do
  let b0 ← Tracked.read memory (offset + 4)
  let b1 ← Tracked.read memory (offset + 5)
  let b2 ← Tracked.read memory (offset + 6)
  let b3 ← Tracked.read memory (offset + 7)
  pure ⟨b0, b1, b2, b3⟩

def readEndpoint (memory : Nat → UInt8) (offset : Nat) : Tracked IPv4EndpointOption := do
  let addr ← readAddress memory offset
  let option := ({} : IPv4EndpointOption).setAddress (Inet.ntop addr)
  let protocol ← Tracked.read memory (offset + 9)
  let port0 ← Tracked.read memory (offset + 10)
  let port1 ← Tracked.read memory (offset + 11)
  pure { option with protocol := ⟨protocol⟩, port := word16 port0 port1 }

def readMulticast (memory : Nat → UInt8) (offset : Nat) : Tracked IPv4MulticastOption := do
  let addr ← readAddress memory offset
  let option := ({} : IPv4MulticastOption).setAddress (Inet.ntop addr)
  let port0 ← Tracked.read memory (offset + 10)
  let port1 ← Tracked.read memory (offset + 11)
  pure { option with port := word16 port0 port1 }

/-- The 12 bytes of an option are read where 11 of them lie before the declared end. -/
def deserialize (memory : Nat → UInt8) (offset length : Nat) : Tracked (Option SdOption) :=
  if length < 4 then pure none
  else do
    let length0 ← Tracked.read memory (offset + 0)
    let length1 ← Tracked.read memory (offset + 1)
    let optionLength := word16 length0 length1
    let expectedTotalSize := 2 + optionLength.toNat
    if length < expectedTotalSize then pure none
    else do
      let type ← Tracked.read memory (offset + 2)
      if type = SdOptionType.ipv4Endpoint.value then
        if optionLength ≠ 9 then pure none
        else do
          let opt ← readEndpoint memory offset
          pure (some (.ipv4Endpoint opt))
      else if type = SdOptionType.ipv4Multicast.value then
        if optionLength ≠ 9 then pure none
        else do
          let opt ← readMulticast memory offset
          pure (some (.ipv4Multicast opt))
      else pure none

@[simp] theorem serialize_length (option : SdOption) : option.serialize.length = optionSize := by
  cases option <;> rfl

@[simp] theorem getSize_eq (option : SdOption) : option.getSize = optionSize := by
  cases option <;> rfl

@[simp] theorem readEndpoint_within (memory : Nat → UInt8) (offset size : Nat) :
    (readEndpoint memory offset).Within size ↔ offset + optionSize ≤ size := by
  simp [readEndpoint, readAddress, optionSize]
  omega

@[simp] theorem readMulticast_within (memory : Nat → UInt8) (offset size : Nat) :
    (readMulticast memory offset).Within size ↔ offset + optionSize ≤ size := by
  simp [readMulticast, readAddress, optionSize]
  omega

def lengthAt (memory : Nat → UInt8) (offset : Nat) : UInt16 :=
  word16 (memory offset) (memory (offset + 1))

def IPv4At (memory : Nat → UInt8) (offset : Nat) : Prop :=
  lengthAt memory offset = 9 ∧ (memory (offset + 2) = SdOptionType.ipv4Endpoint.value ∨
    memory (offset + 2) = SdOptionType.ipv4Multicast.value)

instance (memory : Nat → UInt8) (offset : Nat) : Decidable (IPv4At memory offset) :=
  inferInstanceAs (Decidable (_ ∧ (_ ∨ _)))

theorem deserialize_isSome_iff {memory : Nat → UInt8} {offset length : Nat} :
    (deserialize memory offset length).val.isSome ↔ 11 ≤ length ∧ IPv4At memory offset := by
  have nine : lengthAt memory offset = 9 → (lengthAt memory offset).toNat = 9 := by
    intro declared
    rw [declared]
    rfl
  simp only [deserialize, Tracked.val_ite, Tracked.val_bind, Tracked.val_pure]
  simp only [Tracked.val_read, Nat.add_zero, IPv4At, lengthAt] at nine ⊢
  grind

theorem deserialize_within_iff {memory : Nat → UInt8} {offset length size : Nat} :
    (deserialize memory offset length).Within size ↔
      (4 ≤ length → offset + 2 ≤ size ∧
        (2 + (lengthAt memory offset).toNat ≤ length → offset + 3 ≤ size ∧
          (IPv4At memory offset → offset + optionSize ≤ size))) := by
  simp only [deserialize, Tracked.within_ite, Tracked.within_bind, Tracked.within_read,
    Tracked.within_pure, readEndpoint_within, readMulticast_within]
  simp only [Tracked.val_read, Nat.add_zero, IPv4At, lengthAt]
  grind

theorem deserialize_serialize {memory : Nat → UInt8} {offset length : Nat} {option : SdOption}
    (stands : Tracked.Holds memory offset option.serialize) (long : optionSize ≤ length) :
    (deserialize memory offset length).val = some option := by
  unfold optionSize at long
  have fits : ¬ length < 2 + (9 : UInt16).toNat := by
    have nine : (9 : UInt16).toNat = 9 := rfl
    omega
  have declared : word16 0x00 0x09 = 9 := by decide
  cases option with
  | ipv4Endpoint option =>
    simp only [serialize, IPv4EndpointOption.serialize, serializeIPv4, bytes16, List.cons_append,
      List.nil_append, Tracked.holds_cons, Tracked.holds_nil, Nat.add_assoc, Nat.reduceAdd,
      and_true] at stands
    obtain ⟨h0, h1, h2, -, h4, h5, h6, h7, -, h9, h10, h11⟩ := stands
    rw [deserialize, if_neg (by omega)]
    simp only [Tracked.val_bind, Tracked.val_read, Nat.add_zero, h0, h1, declared, fits, if_false,
      h2, if_true, ne_eq, not_true_eq_false, readEndpoint, readAddress, h4, h5, h6, h7, h9, h10, h11,
      Tracked.val_pure, word16_bytes, IPv4EndpointOption.setAddress, parseAddress, Inet.pton_ntop,
      Option.getD_some]
  | ipv4Multicast option =>
    simp only [serialize, IPv4MulticastOption.serialize, serializeIPv4, bytes16, List.cons_append,
      List.nil_append, Tracked.holds_cons, Tracked.holds_nil, Nat.add_assoc, Nat.reduceAdd,
      and_true] at stands
    obtain ⟨h0, h1, h2, -, h4, h5, h6, h7, -, -, h10, h11⟩ := stands
    have other : ¬ SdOptionType.ipv4Multicast.value = SdOptionType.ipv4Endpoint.value := by decide
    rw [deserialize, if_neg (by omega)]
    simp only [Tracked.val_bind, Tracked.val_read, Nat.add_zero, h0, h1, declared, fits, if_false,
      h2, other, if_true, ne_eq, not_true_eq_false, readMulticast, readAddress, h4, h5, h6, h7, h10, h11,
      Tracked.val_pure, word16_bytes, IPv4MulticastOption.setAddress, parseAddress, Inet.pton_ntop,
      Option.getD_some]

end SdOption
end Msomeip.Sd
