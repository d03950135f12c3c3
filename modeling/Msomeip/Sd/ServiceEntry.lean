import Msomeip.Library.BigEndian
import Msomeip.Library.Tracked
import Msomeip.Types

namespace Msomeip.Sd

open BigEndian

structure ServiceEntry where
  type : SdEntryType := .findService
  indexFirstOption : UInt8 := 0
  indexSecondOption : UInt8 := 0
  numFirstOptions : UInt8 := 0
  numSecondOptions : UInt8 := 0
  serviceId : ServiceId := 0
  instanceId : InstanceId := 0
  majorVersion : MajorVersion := 0
  ttl : UInt32 := 0
  minorVersion : MinorVersion := 0
  counter : UInt8 := 0
deriving DecidableEq, Repr

namespace ServiceEntry

def entrySize : Nat := 16

def createFindService (service : ServiceId) (instance' : InstanceId) : ServiceEntry :=
  { type := .findService, serviceId := service, instanceId := instance' }

def createOfferService (service : ServiceId) (instance' : InstanceId) (majorVersion : MajorVersion)
    (minorVersion : MinorVersion) (ttl : UInt32) : ServiceEntry :=
  { type := .offerService, serviceId := service, instanceId := instance',
    majorVersion := majorVersion, minorVersion := minorVersion, ttl := ttl }

def createSubscribeEventgroup (service : ServiceId) (instance' : InstanceId)
    (eventgroup : EventgroupId) (majorVersion : MajorVersion) (ttl : UInt32) : ServiceEntry :=
  { type := .subscribeEventgroup, serviceId := service, instanceId := instance',
    minorVersion := (majorVersion.toUInt32 <<< 24) ||| eventgroup.toUInt32,
    majorVersion := majorVersion, ttl := ttl }

def createSubscribeEventgroupAck (service : ServiceId) (instance' : InstanceId)
    (eventgroup : EventgroupId) (majorVersion : MajorVersion) (ttl : UInt32) : ServiceEntry :=
  { type := .subscribeEventgroupAck, serviceId := service, instanceId := instance',
    minorVersion := (majorVersion.toUInt32 <<< 24) ||| eventgroup.toUInt32,
    majorVersion := majorVersion, ttl := ttl }

def createSubscribeEventgroupNack (service : ServiceId) (instance' : InstanceId)
    (eventgroup : EventgroupId) : ServiceEntry :=
  { type := .subscribeEventgroupAck, serviceId := service, instanceId := instance',
    minorVersion := eventgroup.toUInt32, ttl := 0 }

def eventgroupId (entry : ServiceEntry) : EventgroupId := (entry.minorVersion &&& 0xFFFF).toUInt16

def numOptions (entry : ServiceEntry) : UInt8 :=
  (entry.numFirstOptions &&& (0x0F : UInt8)) ||| ((entry.numSecondOptions &&& (0x0F : UInt8)) <<< 4)

def serialize (entry : ServiceEntry) : List UInt8 :=
  [entry.type.value, entry.indexFirstOption, entry.indexSecondOption, entry.numOptions] ++
    bytes16 entry.serviceId ++ bytes16 entry.instanceId ++ [entry.majorVersion] ++
    bytes24 entry.ttl ++ bytes32 entry.minorVersion

/-- `data` points at `offset` of the message's memory. -/
def deserialize (memory : Nat → UInt8) (offset length : Nat) : Tracked (Option ServiceEntry) :=
  if length < entrySize then pure none
  else do
    let type ← Tracked.read memory (offset + 0)
    let indexFirstOption ← Tracked.read memory (offset + 1)
    let indexSecondOption ← Tracked.read memory (offset + 2)
    let numOptions ← Tracked.read memory (offset + 3)
    let service0 ← Tracked.read memory (offset + 4)
    let service1 ← Tracked.read memory (offset + 5)
    let instance0 ← Tracked.read memory (offset + 6)
    let instance1 ← Tracked.read memory (offset + 7)
    let majorVersion ← Tracked.read memory (offset + 8)
    let ttl0 ← Tracked.read memory (offset + 9)
    let ttl1 ← Tracked.read memory (offset + 10)
    let ttl2 ← Tracked.read memory (offset + 11)
    let minor0 ← Tracked.read memory (offset + 12)
    let minor1 ← Tracked.read memory (offset + 13)
    let minor2 ← Tracked.read memory (offset + 14)
    let minor3 ← Tracked.read memory (offset + 15)
    pure (some
      { type := ⟨type⟩, indexFirstOption := indexFirstOption,
        indexSecondOption := indexSecondOption, numFirstOptions := numOptions &&& 0x0F,
        numSecondOptions := (numOptions >>> 4) &&& 0x0F, serviceId := word16 service0 service1,
        instanceId := word16 instance0 instance1, majorVersion := majorVersion,
        ttl := word24 ttl0 ttl1 ttl2, minorVersion := word32 minor0 minor1 minor2 minor3 })

def Fits (entry : ServiceEntry) : Prop :=
  entry.numFirstOptions < 16 ∧ entry.numSecondOptions < 16 ∧ entry.ttl.toNat < 2 ^ 24

instance (entry : ServiceEntry) : Decidable entry.Fits := inferInstanceAs (Decidable (_ ∧ _ ∧ _))

/-- The entry as a receiver sees it: the counter is not on the wire. -/
def received (entry : ServiceEntry) : ServiceEntry := { entry with counter := 0 }

@[simp] theorem serialize_length (entry : ServiceEntry) : entry.serialize.length = entrySize := rfl

theorem nibbles_unpack : ∀ first < 16, ∀ second < 16,
    let packed := (UInt8.ofNat first &&& (0x0F : UInt8)) |||
      ((UInt8.ofNat second &&& (0x0F : UInt8)) <<< 4)
    packed &&& 0x0F = UInt8.ofNat first ∧ (packed >>> 4) &&& 0x0F = UInt8.ofNat second := by
  decide +kernel

theorem numOptions_unpack {entry : ServiceEntry} (fits : entry.Fits) :
    entry.numOptions &&& 0x0F = entry.numFirstOptions ∧
      (entry.numOptions >>> 4) &&& 0x0F = entry.numSecondOptions := by
  have first : entry.numFirstOptions.toNat < 16 := fits.1
  have second : entry.numSecondOptions.toNat < 16 := fits.2.1
  have unpacked := nibbles_unpack _ first _ second
  simpa only [UInt8.ofNat_toNat, numOptions] using unpacked

theorem deserialize_within (memory : Nat → UInt8) {offset length size : Nat}
    (inside : offset + entrySize ≤ size) : (deserialize memory offset length).Within size := by
  unfold entrySize at inside
  unfold deserialize
  split
  · simp
  · simp only [Tracked.within_bind, Tracked.within_read, Tracked.within_pure, and_true]
    omega

/-- What any entry becomes on its way: four bits are left of each number of options, and 24 of the
    TTL. -/
def truncated (entry : ServiceEntry) : ServiceEntry :=
  { entry with
    numFirstOptions := entry.numOptions &&& 0x0F
    numSecondOptions := (entry.numOptions >>> 4) &&& 0x0F
    ttl := entry.ttl % 0x1000000, counter := 0 }

theorem truncated_eq {entry : ServiceEntry} (fits : entry.Fits) :
    entry.truncated = entry.received := by
  obtain ⟨first, second⟩ := numOptions_unpack fits
  have small : entry.ttl % 0x1000000 = entry.ttl := by
    apply UInt32.toNat_inj.mp
    rw [UInt32.toNat_mod]
    exact Nat.mod_eq_of_lt fits.2.2
  rw [truncated, first, second, small, received]

theorem deserialize_serialize_truncated {memory : Nat → UInt8} {offset length : Nat}
    {entry : ServiceEntry} (stands : Tracked.Holds memory offset entry.serialize)
    (long : entrySize ≤ length) :
    (deserialize memory offset length).val = some entry.truncated := by
  simp only [serialize, bytes16, bytes24, bytes32, List.cons_append, List.nil_append,
    Tracked.holds_cons, Tracked.holds_nil, Nat.add_assoc, Nat.reduceAdd, and_true] at stands
  obtain ⟨h0, h1, h2, h3, h4, h5, h6, h7, h8, h9, h10, h11, h12, h13, h14, h15⟩ := stands
  rw [deserialize, if_neg (by omega)]
  simp only [Tracked.val_bind, Tracked.val_read, Tracked.val_pure, Nat.add_zero, h0, h1, h2, h3, h4,
    h5, h6, h7, h8, h9, h10, h11, h12, h13, h14, h15, word16_bytes, word32_bytes,
    word24_bytes_mod, truncated]

theorem deserialize_serialize {memory : Nat → UInt8} {offset length : Nat} {entry : ServiceEntry}
    (fits : entry.Fits) (stands : Tracked.Holds memory offset entry.serialize)
    (long : entrySize ≤ length) :
    (deserialize memory offset length).val = some entry.received := by
  rw [deserialize_serialize_truncated stands long, truncated_eq fits]

theorem deserialize_isSome_iff {memory : Nat → UInt8} {offset length : Nat} :
    (deserialize memory offset length).val.isSome ↔ entrySize ≤ length := by
  unfold deserialize
  by_cases short : length < entrySize
  · rw [if_pos short]
    exact iff_of_false Bool.false_ne_true (Nat.not_le.mpr short)
  · rw [if_neg short]
    exact iff_of_true rfl (Nat.not_lt.mp short)

theorem nibbles_pack : ∀ packed < 256,
    ((UInt8.ofNat packed &&& (0x0F : UInt8)) &&& (0x0F : UInt8)) |||
      ((((UInt8.ofNat packed >>> 4) &&& (0x0F : UInt8)) &&& (0x0F : UInt8)) <<< 4) =
        UInt8.ofNat packed := by
  decide +kernel

/-- Any sixteen bytes are an entry, which is written as these bytes again. -/
theorem serialize_deserialize {memory : Nat → UInt8} {offset length : Nat} {entry : ServiceEntry}
    (decoded : (deserialize memory offset length).val = some entry) :
    entry.serialize = Memory.readAt memory offset entrySize := by
  have long : entrySize ≤ length := by
    rw [← @deserialize_isSome_iff memory offset, decoded]
    rfl
  rw [deserialize, if_neg (Nat.not_lt.mpr long)] at decoded
  obtain rfl := Option.some.inj decoded
  have options := nibbles_pack _ (memory (offset + 3)).toNat_lt
  rw [UInt8.ofNat_toNat] at options
  simp only [serialize, numOptions, Tracked.val_read, options, bytes16_word, bytes24_word,
    bytes32_word, List.cons_append, List.nil_append]
  rfl

/-- The eventgroup shares its field with the major version. -/
theorem createSubscribeEventgroup_eventgroupId (service : ServiceId) (instance' : InstanceId)
    (eventgroup : EventgroupId) (majorVersion : MajorVersion) (ttl : UInt32) :
    (createSubscribeEventgroup service instance' eventgroup majorVersion
      ttl).eventgroupId = eventgroup := by
  have high := majorVersion.toNat_lt
  have low := eventgroup.toNat_lt
  have joined : majorVersion.toNat * 2 ^ 24 ||| eventgroup.toNat =
      majorVersion.toNat * 2 ^ 24 + eventgroup.toNat :=
    or_eq_add _ _ _ (by omega)
  have mask := Nat.and_two_pow_sub_one_eq_mod
    (majorVersion.toNat * 2 ^ 24 + eventgroup.toNat) 16
  apply UInt16.toNat_inj.mp
  simp only [eventgroupId, createSubscribeEventgroup,
    UInt32.toNat_toUInt16, UInt32.toNat_and, UInt32.toNat_or, UInt32.toNat_shiftLeft,
    UInt8.toNat_toUInt32, UInt16.toNat_toUInt32, UInt32.reduceToNat, Nat.shiftLeft_eq]
  rw [Nat.mod_eq_of_lt (show majorVersion.toNat * 2 ^ 24 < 2 ^ 32 by omega), joined]
  change (majorVersion.toNat * 2 ^ 24 + eventgroup.toNat &&& 2 ^ 16 - 1) % 2 ^ 16 = _
  rw [mask]
  omega

end ServiceEntry
end Msomeip.Sd
