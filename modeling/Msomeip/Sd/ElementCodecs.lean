import Msomeip.Sd.SdOption
import Msomeip.Sd.ServiceEntry

namespace Msomeip.Sd

/-- `deserialize` on the bytes of a buffer; `beyond` is the memory behind it. -/
def ServiceEntry.decode (bytes : List UInt8) (beyond : Nat → UInt8) : Option ServiceEntry :=
  (deserialize (Tracked.buffer bytes beyond) 0 bytes.length).val

def SdOption.decode (bytes : List UInt8) (beyond : Nat → UInt8) : Option SdOption :=
  (deserialize (Tracked.buffer bytes beyond) 0 bytes.length).val

theorem stands_front (front tail : List UInt8) (beyond : Nat → UInt8) :
    Tracked.Holds (Tracked.buffer (front ++ tail) beyond) 0 front := by
  have whole := Tracked.buffer_holds (front ++ tail) beyond
  rw [Tracked.holds_append] at whole
  exact whole.1

namespace ServiceEntry

variable (tail : List UInt8) (beyond : Nat → UInt8)

theorem decode_serialize_truncated (entry : ServiceEntry) :
    decode (entry.serialize ++ tail) beyond = some entry.truncated := by
  apply deserialize_serialize_truncated (stands_front entry.serialize tail beyond)
  rw [List.length_append, serialize_length]
  exact Nat.le_add_right _ _

theorem decode_serialize {entry : ServiceEntry} (fits : entry.Fits) :
    decode (entry.serialize ++ tail) beyond = some entry.received := by
  rw [decode_serialize_truncated, truncated_eq fits]

theorem decode_isSome_iff (bytes : List UInt8) :
    (decode bytes beyond).isSome ↔ entrySize ≤ bytes.length := deserialize_isSome_iff

theorem serialize_decode {bytes : List UInt8} {entry : ServiceEntry}
    (decoded : decode bytes beyond = some entry) : entry.serialize = bytes.take entrySize := by
  have accepted : (decode bytes beyond).isSome := by rw [decoded]; rfl
  have enough := (decode_isSome_iff beyond bytes).mp accepted
  have front := stands_front (bytes.take entrySize) (bytes.drop entrySize) beyond
  rw [List.take_append_drop] at front
  have read := Tracked.holds_readAt front
  rw [List.length_take_of_le enough] at read
  exact (serialize_deserialize decoded).trans read

theorem decode_eventgroup (service : ServiceId) (instance' : InstanceId)
    (eventgroup : EventgroupId) (majorVersion : MajorVersion) (ttl : UInt32) {entry : ServiceEntry}
    (created : entry = createSubscribeEventgroup service instance' eventgroup majorVersion ttl ∨
      entry = createSubscribeEventgroupAck service instance' eventgroup majorVersion ttl) :
    ∃ decoded, decode (entry.serialize ++ tail) beyond = some decoded ∧
      decoded.eventgroupId = eventgroup ∧ decoded.majorVersion = majorVersion := by
  have kept := createSubscribeEventgroup_eventgroupId service instance' eventgroup majorVersion ttl
  refine ⟨entry.truncated, decode_serialize_truncated tail beyond entry, ?_⟩
  rcases created with rfl | rfl
  · exact ⟨kept, rfl⟩
  · exact ⟨kept, rfl⟩

end ServiceEntry

theorem SdOption.decode_serialize (option : SdOption) (tail : List UInt8) (beyond : Nat → UInt8) :
    decode (option.serialize ++ tail) beyond = some option := by
  apply deserialize_serialize (stands_front option.serialize tail beyond)
  rw [List.length_append, serialize_length]
  exact Nat.le_add_right _ _

/-- Which bytes are an entry, what is written back, and what is read of entries and options that
    were written. -/
theorem elements_roundTrip (bytes tail : List UInt8) (beyond : Nat → UInt8) (entry : ServiceEntry)
    (option : SdOption) (service : ServiceId) (instance' : InstanceId) (eventgroup : EventgroupId)
    (majorVersion : MajorVersion) (ttl : UInt32) :
    ((ServiceEntry.decode bytes beyond).isSome ↔ ServiceEntry.entrySize ≤ bytes.length) ∧
    (∀ decoded, ServiceEntry.decode bytes beyond = some decoded →
      decoded.serialize = bytes.take ServiceEntry.entrySize) ∧
    (entry.numFirstOptions < 16 → entry.numSecondOptions < 16 → entry.ttl.toNat < 2 ^ 24 →
      ServiceEntry.decode (entry.serialize ++ tail) beyond = some { entry with counter := 0 }) ∧
    (∀ created ∈ [ServiceEntry.createSubscribeEventgroup service instance' eventgroup majorVersion
        ttl, .createSubscribeEventgroupAck service instance' eventgroup majorVersion ttl],
      ∃ decoded, ServiceEntry.decode (created.serialize ++ tail) beyond = some decoded ∧
        decoded.eventgroupId = eventgroup ∧ decoded.majorVersion = majorVersion) ∧
    SdOption.decode (option.serialize ++ tail) beyond = some option := by
  refine ⟨ServiceEntry.decode_isSome_iff beyond bytes, fun _ => ServiceEntry.serialize_decode beyond,
    ?_, ?_, SdOption.decode_serialize option tail beyond⟩
  · intro first second small
    exact ServiceEntry.decode_serialize tail beyond ⟨first, second, small⟩
  · intro created member
    rw [List.mem_cons, List.mem_singleton] at member
    exact ServiceEntry.decode_eventgroup tail beyond service instance' eventgroup majorVersion ttl
      member

theorem offer_roundTrip :
    let offer := ServiceEntry.createOfferService 0x1234 0x5678 1 5 0xFFFFFF
    offer.serialize = (offer.serialize ++ [7]).take 16 ∧
      ServiceEntry.decode (offer.serialize ++ [7]) (fun _ => 0xEE) = some offer ∧
      ∃ decoded, ServiceEntry.decode ((ServiceEntry.createSubscribeEventgroup 0x1234 0x0001 0x0007 2
          0xFFFFFF).serialize ++ [7]) (fun _ => 0xEE) = some decoded ∧
        decoded.eventgroupId = 0x0007 ∧ decoded.majorVersion = 2 := by
  intro offer
  obtain ⟨-, written, read, created, -⟩ := elements_roundTrip (offer.serialize ++ [7]) [7]
    (fun _ => 0xEE) offer (.ipv4Multicast {}) 0x1234 0x0001 0x0007 2 0xFFFFFF
  have decoded := read (by decide) (by decide) (by decide)
  exact ⟨written offer decoded, decoded, created _ (List.mem_cons_self ..)⟩

end Msomeip.Sd
