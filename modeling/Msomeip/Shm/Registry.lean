import Msomeip.Library.BigEndian
import Msomeip.Library.Tracked
import Msomeip.Shm.Lookups

namespace Msomeip.Shm

open BigEndian

/-- The size of the struct `ServiceRegistry`, which is its `count`. -/
def registryHeaderSize : Nat := 4

/-- The service registry in the shared memory: its size, its `count`, and the bytes from `sr_data`
    on. -/
structure RegistryRegion where
  srSize : UInt32
  count : UInt32
  srData : Nat → UInt8

def sizeAdd (left right : Nat) : Nat := (left + right) % 2 ^ 64

theorem sizeAdd_eq {left right : Nat} (small : left + right < 2 ^ 64) :
    sizeAdd left right = left + right := Nat.mod_eq_of_lt small

namespace RegistryRegion

/-- The difference is one of `size_t`. -/
def maxOffset (region : RegistryRegion) : Nat :=
  (region.srSize.toNat + 2 ^ 64 - registryHeaderSize) % 2 ^ 64

/-- What is read is noted by its place in the registry, which `count` is the front of. -/
def readCount (region : RegistryRegion) : Tracked UInt32 :=
  ⟨region.count, List.range registryHeaderSize⟩

def readByte (region : RegistryRegion) (offset : Nat) : Tracked UInt8 :=
  ⟨region.srData offset, [registryHeaderSize + offset]⟩

def readBytes (region : RegistryRegion) (offset count : Nat) : Tracked (List UInt8) :=
  ⟨Memory.readAt region.srData offset count,
    (List.range count).map fun index => registryHeaderSize + (offset + index)⟩

def readWord16 (region : RegistryRegion) (offset : Nat) : Tracked UInt16 := do
  let b0 ← region.readByte offset
  let b1 ← region.readByte (offset + 1)
  pure (word16 b0 b1)

def readWord32 (region : RegistryRegion) (offset : Nat) : Tracked UInt32 := do
  let b0 ← region.readByte offset
  let b1 ← region.readByte (offset + 1)
  let b2 ← region.readByte (offset + 2)
  let b3 ← region.readByte (offset + 3)
  pure (word32 b0 b1 b2 b3)

/-- The loop over the endpoints of the service that is looked up. -/
def collectEndpoints (region : RegistryRegion) (maxOffset : Nat) : Nat → Nat → Tracked (List Endpoint)
  | 0, _ => pure []
  | epCount + 1, offset =>
    if ¬ offset < maxOffset ∨ sizeAdd offset 1 > maxOffset then pure []
    else do
      let addrLen ← region.readByte offset
      let offset := sizeAdd offset 1
      if sizeAdd (sizeAdd offset addrLen.toNat) 3 > maxOffset then pure []
      else do
        let address ← region.readBytes offset addrLen.toNat
        let offset := sizeAdd offset addrLen.toNat
        let port ← region.readWord16 offset
        let offset := sizeAdd offset 2
        let protocol ← region.readByte offset
        let offset := sizeAdd offset 1
        let later ← region.collectEndpoints maxOffset epCount offset
        pure (⟨addressOf address, port, ⟨protocol⟩⟩ :: later)

/-- The loop over the endpoints of another service; it ends with the offset behind them. -/
def skipEndpoints (region : RegistryRegion) (maxOffset : Nat) : Nat → Nat → Tracked Nat
  | 0, offset => pure offset
  | epCount + 1, offset =>
    if ¬ offset < maxOffset ∨ sizeAdd offset 1 > maxOffset then pure offset
    else do
      let addrLen ← region.readByte offset
      region.skipEndpoints maxOffset epCount (sizeAdd offset (1 + addrLen.toNat + 3))

/-- The loop over the services. Of a service's head, the bytes between its ids and the number of
    its endpoints are passed over. -/
def lookupLoop (region : RegistryRegion) (maxOffset : Nat) (service : ServiceId)
    (instance' : InstanceId) : Nat → Nat → Tracked (List Endpoint)
  | 0, _ => pure []
  | count + 1, offset =>
    if ¬ offset < maxOffset ∨ sizeAdd offset 16 > maxOffset then pure []
    else do
      let svcId ← region.readWord16 offset
      let instId ← region.readWord16 (sizeAdd offset 2)
      let epCount ← region.readWord32 (sizeAdd offset 14)
      let offset := sizeAdd offset 18
      if svcId = service ∧ instId = instance' then
        region.collectEndpoints maxOffset epCount.toNat offset
      else do
        let offset ← region.skipEndpoints maxOffset epCount.toNat offset
        region.lookupLoop maxOffset service instance' count offset

/-- `locked` is whether `shm_lock` succeeds. -/
def lookupServiceEndpoints (connected locked : Bool) (service : ServiceId)
    (instance' : InstanceId) (region : RegistryRegion) : Tracked (List Endpoint) :=
  if !connected || !locked then pure []
  else do
    let count ← region.readCount
    region.lookupLoop region.maxOffset service instance' count.toNat 0

end RegistryRegion

structure EndpointRecord where
  address : List UInt8
  port : UInt16
  protocol : UInt8
  short : address.length ≤ 255

structure ServiceRecord where
  service : ServiceId
  instance' : InstanceId
  other : List UInt8
  endpoints : List EndpointRecord
  other_length : other.length = 10

namespace EndpointRecord

def encode (record : EndpointRecord) : List UInt8 :=
  UInt8.ofNat record.address.length ::
    (record.address ++ bytes16 record.port ++ [record.protocol])

def endpoint (record : EndpointRecord) : Endpoint :=
  ⟨addressOf record.address, record.port, ⟨record.protocol⟩⟩

theorem encode_length (record : EndpointRecord) :
    record.encode.length = record.address.length + 4 := by
  simp [encode]

theorem length_le_encoded (records : List EndpointRecord) :
    records.length ≤ (records.flatMap encode).length := by
  induction records with
  | nil => exact Nat.le_refl _
  | cons record records ih =>
    rw [List.flatMap_cons, List.length_append, record.encode_length, List.length_cons]
    omega

end EndpointRecord

namespace ServiceRecord

def encode (record : ServiceRecord) : List UInt8 :=
  bytes16 record.service ++ bytes16 record.instance' ++ record.other ++
    bytes32 (UInt32.ofNat record.endpoints.length) ++
    record.endpoints.flatMap EndpointRecord.encode

theorem encode_length (record : ServiceRecord) :
    record.encode.length =
      18 + (record.endpoints.flatMap EndpointRecord.encode).length := by
  simp only [encode, List.length_append, bytes16_length, bytes32_length, record.other_length]

theorem length_le_encoded (records : List ServiceRecord) :
    records.length ≤ (records.flatMap encode).length := by
  induction records with
  | nil => exact Nat.le_refl _
  | cons record records ih =>
    rw [List.flatMap_cons, List.length_append, record.encode_length, List.length_cons]
    omega

end ServiceRecord

/-- A registry of these services, and what stands behind it in the memory. -/
def registryOf (records : List ServiceRecord) (beyond : Nat → UInt8) : RegistryRegion :=
  { srSize := UInt32.ofNat (registryHeaderSize + (records.flatMap ServiceRecord.encode).length)
    count := UInt32.ofNat records.length
    srData := Tracked.buffer (records.flatMap ServiceRecord.encode) beyond }

/-- The endpoints of the first of the services with these ids. -/
def endpointsOf (records : List ServiceRecord) (service : ServiceId) (instance' : InstanceId) :
    List Endpoint :=
  match records.find? fun record => record.service = service ∧ record.instance' = instance' with
  | some record => record.endpoints.map EndpointRecord.endpoint
  | none => []

namespace RegistryRegion

theorem maxOffset_eq {region : RegistryRegion} (header : registryHeaderSize ≤ region.srSize.toNat) :
    region.maxOffset = region.srSize.toNat - registryHeaderSize := by
  have bound := region.srSize.toNat_lt
  unfold maxOffset registryHeaderSize at *
  omega

section Encoded

variable {region : RegistryRegion} {maxOffset offset : Nat}

open Tracked (Holds)

theorem readWord16_bytes {value : UInt16} (holds : Holds region.srData offset (bytes16 value)) :
    (region.readWord16 offset).val = value := by
  obtain ⟨first, second, -⟩ := holds
  simp only [readWord16, readByte, Tracked.val_bind, Tracked.val_pure, first, second, word16_bytes]

theorem readWord32_bytes {value : UInt32} (holds : Holds region.srData offset (bytes32 value)) :
    (region.readWord32 offset).val = value := by
  obtain ⟨first, second, third, fourth, -⟩ := holds
  simp only [Nat.add_assoc, Nat.reduceAdd] at first second third fourth
  simp only [readWord32, readByte, Tracked.val_bind, Tracked.val_pure, first, second, third, fourth,
    word32_bytes]

theorem endpoint_parts {record : EndpointRecord}
    (holds : Holds region.srData offset record.encode) :
    (region.srData offset).toNat = record.address.length ∧
      Memory.readAt region.srData (offset + 1) record.address.length = record.address ∧
      (region.readWord16 (offset + 1 + record.address.length)).val = record.port ∧
      region.srData (offset + 1 + record.address.length + 2) = record.protocol := by
  have short := record.short
  obtain ⟨length, rest⟩ := (Tracked.holds_cons _ _ _ _).mp holds
  obtain ⟨front, protocol⟩ := (Tracked.holds_append _ _ _ _).mp rest
  obtain ⟨address, port⟩ := (Tracked.holds_append _ _ _ _).mp front
  refine ⟨?_, Tracked.holds_readAt address, readWord16_bytes port, ?_⟩
  · rw [length, UInt8.toNat_ofNat', Nat.mod_eq_of_lt (by omega)]
  · rw [List.length_append, bytes16_length, ← Nat.add_assoc] at protocol
    exact protocol.1

theorem service_parts {record : ServiceRecord}
    (holds : Holds region.srData offset record.encode) :
    (region.readWord16 offset).val = record.service ∧
      (region.readWord16 (offset + 2)).val = record.instance' ∧
      (region.readWord32 (offset + 14)).val = UInt32.ofNat record.endpoints.length ∧
      Holds region.srData (offset + 18) (record.endpoints.flatMap EndpointRecord.encode) := by
  unfold ServiceRecord.encode at holds
  simp only [Tracked.holds_append, List.length_append, bytes16_length, bytes32_length,
    record.other_length] at holds
  obtain ⟨⟨⟨⟨service, instance'⟩, -⟩, count⟩, endpoints⟩ := holds
  exact ⟨readWord16_bytes service, readWord16_bytes instance', readWord32_bytes count, endpoints⟩

variable (small : maxOffset < 2 ^ 32)
include small

theorem collectEndpoints_encode {records : List EndpointRecord}
    (holds : Holds region.srData offset (records.flatMap EndpointRecord.encode))
    (fits : offset + (records.flatMap EndpointRecord.encode).length ≤ maxOffset) :
    (region.collectEndpoints maxOffset records.length offset).val =
      records.map EndpointRecord.endpoint := by
  induction records generalizing offset with
  | nil => rfl
  | cons record records ih =>
    have short := record.short
    rw [List.flatMap_cons, Tracked.holds_append, record.encode_length] at holds
    rw [List.flatMap_cons, List.length_append, record.encode_length] at fits
    obtain ⟨length, address, port, protocol⟩ := endpoint_parts holds.1
    have later := ih holds.2 (by omega)
    have toAddress : sizeAdd offset 1 = offset + 1 := sizeAdd_eq (by omega)
    have toPort : sizeAdd (offset + 1) record.address.length =
        offset + 1 + record.address.length := sizeAdd_eq (by omega)
    have toProtocol : sizeAdd (offset + 1 + record.address.length) 2 =
        offset + 1 + record.address.length + 2 := sizeAdd_eq (by omega)
    have toNext : sizeAdd (offset + 1 + record.address.length + 2) 1 =
        offset + (record.address.length + 4) := by
      rw [sizeAdd_eq (by omega)]
      omega
    have enters : ¬ (¬ offset < maxOffset ∨ sizeAdd offset 1 > maxOffset) := by
      omega
    have room : ¬ sizeAdd (offset + 1 + record.address.length) 3 > maxOffset := by
      rw [sizeAdd_eq (by omega)]
      omega
    rw [List.length_cons, collectEndpoints, if_neg enters]
    simp only [Tracked.val_bind, readByte, length, readBytes, Tracked.val_ite]
    rw [toAddress, toPort, if_neg room, address, port, toProtocol, protocol, toNext, later]
    simp only [Tracked.val_pure, List.map_cons, EndpointRecord.endpoint]

theorem skipEndpoints_encode {records : List EndpointRecord}
    (holds : Holds region.srData offset (records.flatMap EndpointRecord.encode))
    (fits : offset + (records.flatMap EndpointRecord.encode).length ≤ maxOffset) :
    (region.skipEndpoints maxOffset records.length offset).val =
      offset + (records.flatMap EndpointRecord.encode).length := by
  induction records generalizing offset with
  | nil => rfl
  | cons record records ih =>
    rw [List.flatMap_cons, Tracked.holds_append, record.encode_length] at holds
    rw [List.flatMap_cons, List.length_append, record.encode_length] at fits ⊢
    obtain ⟨length, -⟩ := endpoint_parts holds.1
    have later := ih holds.2 (by omega)
    have enters : ¬ (¬ offset < maxOffset ∨ sizeAdd offset 1 > maxOffset) := by
      rw [sizeAdd_eq (by omega)]
      omega
    have next : sizeAdd offset (1 + record.address.length + 3) =
        offset + (record.address.length + 4) := by
      rw [sizeAdd_eq (by omega)]
      omega
    rw [List.length_cons, skipEndpoints, if_neg enters]
    simp only [Tracked.val_bind, readByte, length]
    rw [next, later, Nat.add_assoc]

theorem lookupLoop_encode {records : List ServiceRecord} {service : ServiceId}
    {instance' : InstanceId}
    (holds : Holds region.srData offset (records.flatMap ServiceRecord.encode))
    (fits : offset + (records.flatMap ServiceRecord.encode).length ≤ maxOffset) :
    (region.lookupLoop maxOffset service instance' records.length offset).val =
      endpointsOf records service instance' := by
  induction records generalizing offset with
  | nil => rfl
  | cons record records ih =>
    rw [List.flatMap_cons, Tracked.holds_append, record.encode_length] at holds
    rw [List.flatMap_cons, List.length_append, record.encode_length] at fits
    obtain ⟨ownService, ownInstance, count, endpoints⟩ := service_parts holds.1
    have enters : ¬ (¬ offset < maxOffset ∨ sizeAdd offset 16 > maxOffset) := by
      rw [sizeAdd_eq (by omega)]
      omega
    have few : (UInt32.ofNat record.endpoints.length).toNat = record.endpoints.length := by
      have fewer := EndpointRecord.length_le_encoded record.endpoints
      have fits32 : record.endpoints.length < 2 ^ 32 := by omega
      exact UInt32.toNat_ofNat_of_lt' fits32
    have collected := collectEndpoints_encode small endpoints (by omega)
    have skipped := skipEndpoints_encode small endpoints (by omega)
    have later := ih holds.2 (by omega)
    rw [List.length_cons, lookupLoop, if_neg enters]
    simp only [Tracked.val_bind, Tracked.val_ite]
    simp (disch := omega) only [sizeAdd_eq]
    rw [ownService, ownInstance, count, few, collected, skipped, Nat.add_assoc, later]
    unfold endpointsOf
    rw [List.find?_cons]
    by_cases own : record.service = service ∧ record.instance' = instance'
    · rw [if_pos own]
      simp only [own, and_self, decide_true]
    · rw [if_neg own]
      simp only [own, decide_false]

end Encoded

/-- A lookup in a well-formed registry gives the endpoints of the service. -/
theorem lookupServiceEndpoints_registryOf (records : List ServiceRecord) (beyond : Nat → UInt8)
    (service : ServiceId) (instance' : InstanceId)
    (fits : registryHeaderSize + (records.flatMap ServiceRecord.encode).length < 2 ^ 32) :
    (lookupServiceEndpoints true true service instance' (registryOf records beyond)).val =
      endpointsOf records service instance' := by
  set total := (records.flatMap ServiceRecord.encode).length
  have size : (registryOf records beyond).srSize.toNat = registryHeaderSize + total :=
    UInt32.toNat_ofNat_of_lt' fits
  have last : (registryOf records beyond).maxOffset = total := by
    rw [maxOffset_eq (by omega), size, Nat.add_sub_cancel_left]
  have fewer : records.length ≤ total := ServiceRecord.length_le_encoded records
  have fits32 : records.length < 2 ^ 32 := by omega
  have count : (registryOf records beyond).count.toNat = records.length :=
    UInt32.toNat_ofNat_of_lt' fits32
  have holds : Tracked.Holds (registryOf records beyond).srData 0
      (records.flatMap ServiceRecord.encode) := Tracked.buffer_holds _ _
  have found := @lookupLoop_encode (registryOf records beyond) total 0 (by omega) records
    service instance' holds (by omega)
  rw [← count, ← last] at found
  exact found

theorem lookupServiceEndpoints_second :
    (lookupServiceEndpoints true true 0x1235 1 (registryOf
      [⟨0x1234, 1, List.replicate 10 0, [⟨[49, 48], 30509, 17, by decide⟩], rfl⟩,
        ⟨0x1235, 1, List.replicate 10 0, [⟨[], 1, 6, by decide⟩, ⟨[49], 2, 17, by decide⟩], rfl⟩]
      fun _ => 0)).val = [⟨addressOf [], 1, ⟨6⟩⟩, ⟨addressOf [49], 2, ⟨17⟩⟩] :=
  lookupServiceEndpoints_registryOf _ _ _ _ (by decide)

end RegistryRegion

end Msomeip.Shm
