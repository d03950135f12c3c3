import Msomeip.Message.Codec
import Msomeip.Tp.Header

namespace Msomeip.Tp.TpSegmenter

def needsSegmentation (payloadSize maxSegmentSize : Nat) : Bool := payloadSize > maxSegmentSize

/-- The sum is one of 64-bit `size_t`. -/
def getSegmentCount (payloadSize maxSegmentSize : Nat) : Nat :=
  if payloadSize = 0 then 1
  else (payloadSize + maxSegmentSize - 1) % 2 ^ 64 / maxSegmentSize

def copyHeader (original : Message) : Message :=
  { serviceId := original.serviceId, instanceId := original.instanceId,
    methodId := original.methodId, clientId := original.clientId,
    sessionId := original.sessionId, protocolVersion := original.protocolVersion,
    interfaceVersion := original.interfaceVersion, messageType := original.messageType,
    returnCode := original.returnCode }

def tpType (type : MessageType) : Option MessageType :=
  if type = .request then some .tpRequest
  else if type = .requestNoReturn then some .tpRequestNoReturn
  else if type = .notification then some .tpNotification
  else if type = .response then some .tpResponse
  else if type = .error then some .tpError
  else none

def segmentAt (original : Message) (type : MessageType) (payload : PayloadData)
    (offset segmentPayloadSize : Nat) : Message :=
  let isLast := offset + segmentPayloadSize ≥ payload.length
  let tpHeader := TpHeader.ofOffset (UInt32.ofNat offset) (!isLast)
  { copyHeader original with messageType := type }.setPayload
    (tpHeader.toNetwork ++ (payload.drop offset).take segmentPayloadSize)

def segmentLoop (original : Message) (type : MessageType) (payload : PayloadData)
    (maxSegmentSize : Nat) : Nat → Nat → List Message
  | 0, _ => []
  | remaining + 1, offset =>
    let segmentPayloadSize := min maxSegmentSize (payload.length - offset)
    segmentAt original type payload offset segmentPayloadSize ::
      segmentLoop original type payload maxSegmentSize remaining (offset + segmentPayloadSize)

def segment (original : Message) (maxSegmentSize : Nat) : List Message :=
  match original.payload with
  | none => [copyHeader original]
  | some payload =>
    if payload.empty then [copyHeader original]
    else if !needsSegmentation payload.size maxSegmentSize then
      [(copyHeader original).setPayload payload.data]
    else
      match tpType original.messageType with
      | none => []
      | some type =>
        segmentLoop original type payload.data maxSegmentSize
          (getSegmentCount payload.size maxSegmentSize) 0

theorem segmentLoop_header {original part : Message} {type : MessageType} {payload : PayloadData}
    {maxSegmentSize remaining offset : Nat}
    (member : part ∈ segmentLoop original type payload maxSegmentSize remaining offset) :
    copyHeader part = { copyHeader original with messageType := part.messageType } := by
  induction remaining generalizing offset with
  | zero => cases member
  | succ remaining ih =>
    rcases List.mem_cons.mp member with rfl | later
    · rfl
    · exact ih later

/-- A segment has the header of the message, up to the message type. -/
theorem segment_header {original part : Message} {maxSegmentSize : Nat}
    (member : part ∈ segment original maxSegmentSize) :
    copyHeader part = { copyHeader original with messageType := part.messageType } := by
  have single : ∀ {only : Message}, part ∈ [only] → copyHeader only = copyHeader original →
      copyHeader part = { copyHeader original with messageType := part.messageType } := by
    intro only inside same
    rw [List.mem_singleton.mp inside, ← same]
    rfl
  unfold segment at member
  split at member
  · exact single member rfl
  · split at member
    · exact single member rfl
    · split at member
      · exact single member rfl
      · split at member
        · cases member
        · exact segmentLoop_header member

theorem tpType_isTp {type tp : MessageType} (mapped : tpType type = some tp) :
    tp = .tpRequest ∨ tp = .tpRequestNoReturn ∨ tp = .tpNotification ∨ tp = .tpResponse ∨
      tp = .tpError := by
  unfold tpType at mapped
  repeat' split at mapped
  all_goals cases mapped
  all_goals simp

theorem segment_of_long {original : Message} {maxSegmentSize : Nat}
    (long : maxSegmentSize < original.payloadData.length) :
    segment original maxSegmentSize =
      match tpType original.messageType with
      | none => []
      | some type => segmentLoop original type original.payloadData maxSegmentSize
        (getSegmentCount original.payloadData.length maxSegmentSize) 0 := by
  unfold Message.payloadData at long ⊢
  unfold segment
  cases present : original.payload with
  | none => simp [present] at long
  | some payload =>
    simp only [present] at long ⊢
    have filled : payload.empty = false := by
      cases data : payload.data with
      | nil => simp [data] at long
      | cons head tail => simp [Payload.empty, data]
    simp only [filled, needsSegmentation, Payload.size, long]
    rfl

theorem segmentLoop_eq (original : Message) (type : MessageType) (payload : PayloadData)
    (maxSegmentSize count first : Nat)
    (left : ∀ index, first ≤ index → index < first + count →
      index * maxSegmentSize < payload.length) :
    segmentLoop original type payload maxSegmentSize count (first * maxSegmentSize) =
      (List.range' first count).map fun index =>
        segmentAt original type payload (index * maxSegmentSize)
          (min maxSegmentSize (payload.length - index * maxSegmentSize)) := by
  induction count generalizing first with
  | zero => rfl
  | succ count ih =>
    rw [List.range'_succ, List.map_cons, segmentLoop]
    congr 1
    cases count with
    | zero => rfl
    | succ count =>
      have next := left (first + 1) (by omega) (by omega)
      rw [Nat.succ_mul] at next
      have full : min maxSegmentSize (payload.length - first * maxSegmentSize) = maxSegmentSize := by
        omega
      rw [full, ← Nat.succ_mul]
      exact ih (first + 1) fun index lower upper => left index (by omega) (by omega)

theorem getSegmentCount_le_iff {payloadSize maxSegmentSize : Nat} (positive : 0 < maxSegmentSize)
    (nonempty : 0 < payloadSize) (bound : payloadSize + maxSegmentSize ≤ 2 ^ 64) (index : Nat) :
    index < getSegmentCount payloadSize maxSegmentSize ↔ index * maxSegmentSize < payloadSize := by
  have small : payloadSize + maxSegmentSize - 1 < 2 ^ 64 := by omega
  rw [getSegmentCount, if_neg (by omega), Nat.mod_eq_of_lt small, Nat.lt_iff_add_one_le,
    Nat.le_div_iff_mul_le positive, Nat.add_mul]
  omega

/-- Every segment starts inside the payload, also where the sum in `getSegmentCount` wraps. -/
theorem start_inside {payloadSize maxSegmentSize index : Nat} (positive : 0 < maxSegmentSize)
    (nonempty : 0 < payloadSize) (counted : index < getSegmentCount payloadSize maxSegmentSize) :
    index * maxSegmentSize < payloadSize := by
  rw [getSegmentCount, if_neg (by omega), Nat.lt_iff_add_one_le,
    Nat.le_div_iff_mul_le positive, Nat.add_mul] at counted
  have wraps := Nat.mod_le (payloadSize + maxSegmentSize - 1) (2 ^ 64)
  omega

theorem segment_eq {original : Message} {maxSegmentSize : Nat} {type : MessageType}
    (mapped : tpType original.messageType = some type) (positive : 0 < maxSegmentSize)
    (long : maxSegmentSize < original.payloadData.length) :
    segment original maxSegmentSize =
      (List.range (getSegmentCount original.payloadData.length maxSegmentSize)).map fun index =>
        segmentAt original type original.payloadData (index * maxSegmentSize)
          (min maxSegmentSize (original.payloadData.length - index * maxSegmentSize)) := by
  rw [segment_of_long long, mapped, List.range_eq_range', ← segmentLoop_eq, Nat.zero_mul]
  intro index _ upper
  rw [Nat.zero_add] at upper
  exact start_inside positive (by omega) upper

end Msomeip.Tp.TpSegmenter
