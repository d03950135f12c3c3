import Msomeip.Shm.Registry

namespace Msomeip.Shm

open BigEndian

namespace RegistryRegion

def recordArea (region : RegistryRegion) : Nat := region.srSize.toNat - registryHeaderSize

/-- Only records in the registry are read, and a registry without room for its header is refused
    unread. -/
structure StaysInside (region : RegistryRegion) (lookup : Tracked (List Endpoint)) : Prop where
  records : ∀ index, registryHeaderSize + index ∈ lookup.reads → index < region.recordArea
  rejects : region.srSize.toNat < registryHeaderSize → lookup.reads = [] ∧ lookup.val = []

def idsAt (region : RegistryRegion) (offset : Nat) : ServiceId × InstanceId :=
  (word16 (region.srData offset) (region.srData (offset + 1)),
    word16 (region.srData (offset + 2)) (region.srData (offset + 3)))

/-- Where `count` endpoints from `offset` on end, or the first of them behind the record area
    would begin. -/
def endpointsEnd (region : RegistryRegion) : Nat → Nat → Nat
  | 0, offset => offset
  | count + 1, offset =>
    if offset < region.recordArea then
      region.endpointsEnd count (offset + (1 + (region.srData offset).toNat + 3))
    else offset

def recordEnd (region : RegistryRegion) (offset : Nat) : Nat :=
  region.endpointsEnd (word32 (region.srData (offset + 14)) (region.srData (offset + 15))
    (region.srData (offset + 16)) (region.srData (offset + 17))).toNat (offset + 18)

/-- A record begins at an offset, and none before it is the one that is looked up. -/
inductive RecordAt (region : RegistryRegion) (service : ServiceId) (instance' : InstanceId) :
    Nat → Nat → Prop
  | first : RecordAt region service instance' 0 0
  | next {index offset : Nat} : RecordAt region service instance' index offset →
      offset + 18 ≤ region.recordArea → region.idsAt offset ≠ (service, instance') →
      RecordAt region service instance' (index + 1) (region.recordEnd offset)

/-- The head of 18 bytes passes the test for 16 of them. -/
def CutOff (region : RegistryRegion) (offset : Nat) : Prop :=
  offset + 16 ≤ region.recordArea ∧ region.recordArea < offset + 18

/-- No head of a record that is looked at is cut off by the end of the registry. -/
def HeadsWhole (region : RegistryRegion) (service : ServiceId) (instance' : InstanceId) : Prop :=
  ∀ index offset, index < region.count.toNat → RecordAt region service instance' index offset →
    ¬ region.CutOff offset

section Reads

variable {region : RegistryRegion} {maxOffset : Nat}

theorem within_readByte (offset size : Nat) :
    (region.readByte offset).Within size ↔ registryHeaderSize + offset < size := by
  simp [Tracked.Within, readByte]

theorem within_readBytes {offset count size : Nat}
    (inside : registryHeaderSize + offset + count ≤ size) :
    (region.readBytes offset count).Within size := by
  intro address member
  obtain ⟨index, ranged, rfl⟩ := List.mem_map.mp member
  have before := List.mem_range.mp ranged
  omega

theorem within_readWord16 {offset size : Nat} (inside : registryHeaderSize + offset + 2 ≤ size) :
    (region.readWord16 offset).Within size := by
  simp only [readWord16, Tracked.within_bind, within_readByte, Tracked.within_pure, and_true]
  omega

theorem within_readWord32 {offset size : Nat} (inside : registryHeaderSize + offset + 4 ≤ size) :
    (region.readWord32 offset).Within size := by
  simp only [readWord32, Tracked.within_bind, within_readByte, Tracked.within_pure, and_true]
  omega

theorem collectEndpoints_within (small : maxOffset < 2 ^ 32) (epCount offset : Nat) :
    (region.collectEndpoints maxOffset epCount offset).Within
      (registryHeaderSize + maxOffset) := by
  induction epCount generalizing offset with
  | zero => exact Tracked.within_pure _ _
  | succ epCount ih =>
    rw [collectEndpoints]
    by_cases ended : ¬ offset < maxOffset ∨ sizeAdd offset 1 > maxOffset
    · rw [if_pos ended]
      exact Tracked.within_pure _ _
    · rw [if_neg ended, Tracked.within_bind, within_readByte]
      apply And.intro (by omega)
      generalize (region.readByte offset).val = addrLen
      have length := addrLen.toNat_lt
      have inside : offset < maxOffset := by omega
      have toAddress : sizeAdd offset 1 = offset + 1 := sizeAdd_eq (by omega)
      have toPort : sizeAdd (offset + 1) addrLen.toNat = offset + 1 + addrLen.toNat :=
        sizeAdd_eq (by omega)
      have toEnd : sizeAdd (offset + 1 + addrLen.toNat) 3 = offset + 1 + addrLen.toNat + 3 :=
        sizeAdd_eq (by omega)
      have toProtocol : sizeAdd (offset + 1 + addrLen.toNat) 2 =
          offset + 1 + addrLen.toNat + 2 := sizeAdd_eq (by omega)
      dsimp only
      rw [toAddress, toPort, toEnd, toProtocol]
      by_cases room : offset + 1 + addrLen.toNat + 3 > maxOffset
      · rw [if_pos room]
        exact Tracked.within_pure _ _
      · rw [if_neg room]
        simp only [Tracked.within_bind, Tracked.within_pure, and_true]
        exact ⟨within_readBytes (by omega), within_readWord16 (by omega),
          (within_readByte _ _).mpr (by omega), ih _⟩

theorem skipEndpoints_within (epCount offset : Nat) :
    (region.skipEndpoints maxOffset epCount offset).Within (registryHeaderSize + maxOffset) := by
  induction epCount generalizing offset with
  | zero => exact Tracked.within_pure _ _
  | succ epCount ih =>
    rw [skipEndpoints]
    by_cases ended : ¬ offset < maxOffset ∨ sizeAdd offset 1 > maxOffset
    · rw [if_pos ended]
      exact Tracked.within_pure _ _
    · rw [if_neg ended, Tracked.within_bind, within_readByte]
      exact ⟨by omega, ih _⟩

theorem skipEndpoints_eq (small : region.recordArea < 2 ^ 32) (epCount offset : Nat) :
    (region.skipEndpoints region.recordArea epCount offset).val =
      region.endpointsEnd epCount offset := by
  induction epCount generalizing offset with
  | zero => rfl
  | succ epCount ih =>
    rw [skipEndpoints, endpointsEnd]
    by_cases inside : offset < region.recordArea
    · have length := (region.readByte offset).val.toNat_lt
      have next : sizeAdd offset 1 = offset + 1 := sizeAdd_eq (by omega)
      have further : sizeAdd offset (1 + (region.readByte offset).val.toNat + 3) =
          offset + (1 + (region.readByte offset).val.toNat + 3) := sizeAdd_eq (by omega)
      rw [if_neg (by omega), if_pos inside, Tracked.val_bind, further, ih]
      rfl
    · rw [if_pos (.inl inside), if_neg inside]
      rfl

theorem lookupLoop_reads {service : ServiceId} {instance' : InstanceId} {count offset : Nat}
    (small : region.recordArea < 2 ^ 32) (passes : offset + 16 ≤ region.recordArea) :
    ∃ later : Tracked (List Endpoint),
      (region.lookupLoop region.recordArea service instance' (count + 1) offset).reads =
        (region.readWord16 offset).reads ++ ((region.readWord16 (offset + 2)).reads ++
          ((region.readWord32 (offset + 14)).reads ++ later.reads)) ∧
      (region.idsAt offset = (service, instance') → later =
        region.collectEndpoints region.recordArea
          (region.readWord32 (offset + 14)).val.toNat (offset + 18)) ∧
      (region.idsAt offset ≠ (service, instance') → later.reads =
        (region.skipEndpoints region.recordArea
          (region.readWord32 (offset + 14)).val.toNat (offset + 18)).reads ++
        (region.lookupLoop region.recordArea service instance' count
          (region.recordEnd offset)).reads) := by
  have toEnd : sizeAdd offset 16 = offset + 16 := sizeAdd_eq (by omega)
  have toInstance : sizeAdd offset 2 = offset + 2 := sizeAdd_eq (by omega)
  have toCount : sizeAdd offset 14 = offset + 14 := sizeAdd_eq (by omega)
  have toEndpoints : sizeAdd offset 18 = offset + 18 := sizeAdd_eq (by omega)
  have enters : ¬ (¬ offset < region.recordArea ∨ sizeAdd offset 16 > region.recordArea) := by
    omega
  have ids : region.idsAt offset = (service, instance') ↔
      (region.readWord16 offset).val = service ∧
        (region.readWord16 (offset + 2)).val = instance' := Prod.mk_inj
  have behind : (region.skipEndpoints region.recordArea
      (region.readWord32 (offset + 14)).val.toNat (offset + 18)).val = region.recordEnd offset := by
    rw [skipEndpoints_eq small]
    rfl
  rw [lookupLoop, if_neg enters, toInstance, toCount, toEndpoints]
  simp only [Tracked.reads_bind]
  refine ⟨_, rfl, ?_, ?_⟩
  · intro own
    rw [if_pos (ids.mp own)]
  · intro other
    rw [if_neg (mt ids.mpr other), Tracked.reads_bind, behind]

end Reads

section Loop

variable {region : RegistryRegion} {service : ServiceId} {instance' : InstanceId}
  (small : region.recordArea < 2 ^ 32)
include small

theorem lookupLoop_within (whole : region.HeadsWhole service instance') {remaining index : Nat}
    {offset : Nat} (counted : index + remaining = region.count.toNat)
    (starts : region.RecordAt service instance' index offset) :
    (region.lookupLoop region.recordArea service instance' remaining offset).Within
      (registryHeaderSize + region.recordArea) := by
  induction remaining generalizing index offset with
  | zero => exact Tracked.within_pure _ _
  | succ remaining ih =>
    by_cases passes : offset < region.recordArea ∧ offset + 16 ≤ region.recordArea
    · have uncut := whole index offset (by omega) starts
      have head : offset + 18 ≤ region.recordArea := by
        by_contra short
        exact uncut ⟨passes.2, by omega⟩
      obtain ⟨later, reads, own, other⟩ :=
        @lookupLoop_reads region service instance' remaining offset small passes.2
      intro address member
      rw [reads] at member
      rcases List.mem_append.mp member with inService | member
      · exact within_readWord16 (by omega) address inService
      · rcases List.mem_append.mp member with inInstance | member
        · exact within_readWord16 (by omega) address inInstance
        · rcases List.mem_append.mp member with inCount | inLater
          · exact within_readWord32 (by omega) address inCount
          · by_cases found : region.idsAt offset = (service, instance')
            · rw [own found] at inLater
              exact collectEndpoints_within small _ _ address inLater
            · rw [other found] at inLater
              rcases List.mem_append.mp inLater with skipped | following
              · exact skipEndpoints_within _ _ address skipped
              · exact ih (by omega) (starts.next head found) address following
    · have ended : ¬ offset < region.recordArea ∨ sizeAdd offset 16 > region.recordArea := by
        by_cases inside : offset < region.recordArea
        · rw [sizeAdd_eq (by omega)]
          omega
        · exact .inl inside
      rw [lookupLoop, if_pos ended]
      exact Tracked.within_pure _ _

/-- The loop gets to every record before the one that is looked up. -/
theorem recordAt_reads {index offset : Nat}
    (starts : region.RecordAt service instance' index offset)
    (counted : index ≤ region.count.toNat) :
    ∀ address ∈ (region.lookupLoop region.recordArea service instance'
        (region.count.toNat - index) offset).reads,
      address ∈ (region.lookupLoop region.recordArea service instance' region.count.toNat
        0).reads := by
  induction starts with
  | first => exact fun _ member => member
  | @next index offset starts head other ih =>
    intro address member
    apply ih (by omega)
    have turn : region.count.toNat - index = region.count.toNat - (index + 1) + 1 := by omega
    obtain ⟨later, reads, -, skips⟩ := @lookupLoop_reads region service instance'
      (region.count.toNat - (index + 1)) offset small (by omega)
    rw [turn, reads, skips other]
    simp only [List.mem_append]
    exact .inr (.inr (.inr (.inr member)))

/-- The last byte of the head is read, whether it is in the registry or not. -/
theorem cutOff_reads {index offset : Nat} (counted : index < region.count.toNat)
    (starts : region.RecordAt service instance' index offset) (cut : region.CutOff offset) :
    registryHeaderSize + (offset + 17) ∈
      (region.lookupLoop region.recordArea service instance' region.count.toNat 0).reads := by
  apply recordAt_reads small starts counted.le
  have turn : region.count.toNat - index = region.count.toNat - (index + 1) + 1 := by omega
  obtain ⟨later, reads, -⟩ := @lookupLoop_reads region service instance'
    (region.count.toNat - (index + 1)) offset small cut.1
  have last : registryHeaderSize + (offset + 17) ∈ (region.readWord32 (offset + 14)).reads := by
    simp [readWord32, readByte, Nat.add_assoc]
  rw [turn, reads]
  simp only [List.mem_append]
  exact .inr (.inr (.inl last))

end Loop

theorem recordArea_lt (region : RegistryRegion) : region.recordArea < 2 ^ 32 :=
  Nat.lt_of_le_of_lt (Nat.sub_le _ _) region.srSize.toNat_lt

theorem lookup_reads (service : ServiceId) (instance' : InstanceId) (region : RegistryRegion) :
    (lookupServiceEndpoints true true service instance' region).reads =
      List.range registryHeaderSize ++
        (region.lookupLoop region.maxOffset service instance' region.count.toNat 0).reads := rfl

theorem lookup_entered_iff (service : ServiceId) (instance' : InstanceId)
    (region : RegistryRegion) :
    region.StaysInside (lookupServiceEndpoints true true service instance' region) ↔
      registryHeaderSize ≤ region.srSize.toNat ∧ region.HeadsWhole service instance' := by
  have small := region.recordArea_lt
  have reads := lookup_reads service instance' region
  constructor
  · intro inside
    have header : registryHeaderSize ≤ region.srSize.toNat := by
      by_contra missing
      have unread := (inside.rejects (Nat.not_le.mp missing)).1
      rw [reads, List.append_eq_nil_iff] at unread
      exact absurd unread.1 (by decide)
    apply And.intro header
    intro index offset counted starts cut
    have read := cutOff_reads small counted starts cut
    have bound := inside.records (offset + 17) (by
      rw [reads, maxOffset_eq header]
      exact List.mem_append_right _ read)
    have behind := cut.2
    omega
  · intro ⟨header, whole⟩
    constructor
    · intro index member
      rw [reads, maxOffset_eq header] at member
      rcases List.mem_append.mp member with inHeader | inRecords
      · have front := List.mem_range.mp inHeader
        omega
      · have within := lookupLoop_within small whole (Nat.zero_add _) .first _ inRecords
        omega
    · intro missing
      exact absurd header (Nat.not_le.mpr missing)

/-- A lookup reads only in the registry exactly when there is nothing to do, or the registry has
    room for its header and no head that is looked at is cut off. -/
theorem lookup_staysInside_iff (connected locked : Bool) (service : ServiceId)
    (instance' : InstanceId) (region : RegistryRegion) :
    region.StaysInside
        (lookupServiceEndpoints connected locked service instance' region) ↔
      connected = false ∨ locked = false ∨
        (registryHeaderSize ≤ region.srSize.toNat ∧ region.HeadsWhole service instance') := by
  have nothing : region.StaysInside (pure []) :=
    ⟨fun _ member => absurd member List.not_mem_nil, fun _ => ⟨rfl, rfl⟩⟩
  cases connected with
  | false => exact iff_of_true nothing (.inl rfl)
  | true =>
    cases locked with
    | false => exact iff_of_true nothing (.inr (.inl rfl))
    | true =>
      have entered := lookup_entered_iff service instance' region
      simpa only [Bool.true_eq_false, false_or] using entered

/-- A registry that ends two bytes before the head of its one record does. -/
theorem cutHead_outside : ¬ RegistryRegion.StaysInside ⟨20, 1, fun _ => 0⟩
    (lookupServiceEndpoints true true 0x1234 1 ⟨20, 1, fun _ => 0⟩) := by
  intro inside
  exact absurd (inside.records 17 (by decide)) (by decide)

end RegistryRegion

end Msomeip.Shm
