import Mathlib.Algebra.Order.Floor.Div
import Msomeip.Tp.RoundTrip

namespace Msomeip.Tp

open TpSegmenter

/-- The type of the segments of a message of a base type. -/
def counterpart (type : MessageType) : MessageType := ⟨type.value ||| 0x20⟩

/-- What a segment carries behind its TP header. -/
def segmentBytes (part : Message) : PayloadData := part.payloadData.drop 4

/-- One segment of a message: the header of the message, the more flag, and as much data as there
    may be, except in the last one. -/
structure IsSegment (original : Message) (maxSegmentSize : Nat) (isLast : Bool) (part : Message) :
    Prop where
  header : copyHeader part =
    { copyHeader original with messageType := counterpart original.messageType }
  moreFlag : ∃ b0 b1 b2 b3, part.payloadData.take 4 = [b0, b1, b2, b3] ∧
    (TpHeader.fromNetwork b0 b1 b2 b3).moreFlag = if isLast then 0 else 1
  full : isLast = false → (segmentBytes part).length = maxSegmentSize
  rest : isLast = true →
    1 ≤ (segmentBytes part).length ∧ (segmentBytes part).length ≤ maxSegmentSize

theorem tpType_base {type : MessageType} (base : type ∈ baseTypes) :
    tpType type = some (counterpart type) := by
  simp only [baseTypes, List.mem_cons, List.not_mem_nil, or_false] at base
  rcases base with rfl | rfl | rfl | rfl | rfl
  all_goals rfl

theorem segmentAt_payload (original : Message) (type : MessageType) (payload : PayloadData)
    (offset size : Nat) : ∃ b0 b1 b2 b3,
      (segmentAt original type payload offset size).payloadData =
        b0 :: b1 :: b2 :: b3 :: (payload.drop offset).take size ∧
      (TpHeader.fromNetwork b0 b1 b2 b3).moreFlag =
        if offset + size ≥ payload.length then 0 else 1 := by
  obtain ⟨b0, b1, b2, b3, network, decoded⟩ := TpHeader.toNetwork_eq
    (TpHeader.ofOffset (UInt32.ofNat offset) (!decide (offset + size ≥ payload.length)))
  refine ⟨b0, b1, b2, b3, ?_, ?_⟩
  · simp only [segmentAt, Message.payloadData_setPayload, network]
    rfl
  · rw [decoded]
    by_cases last : offset + size ≥ payload.length <;> simp [TpHeader.ofOffset, last]

theorem segmentAt_bytes (original : Message) (type : MessageType) (payload : PayloadData)
    (offset size : Nat) :
    segmentBytes (segmentAt original type payload offset size) =
      (payload.drop offset).take size := by
  obtain ⟨b0, b1, b2, b3, bytes, -⟩ := segmentAt_payload original type payload offset size
  rw [segmentBytes, bytes]
  rfl

theorem getSegmentCount_eq {payloadSize maxSegmentSize : Nat} (nonempty : 0 < payloadSize)
    (bound : payloadSize + maxSegmentSize < 2 ^ 64) :
    getSegmentCount payloadSize maxSegmentSize = payloadSize ⌈/⌉ maxSegmentSize := by
  rw [getSegmentCount, if_neg (by omega), Nat.mod_eq_of_lt (by omega),
    Nat.ceilDiv_eq_add_pred_div]

/-- A segment that starts inside the payload is the last one exactly when it ends with it. -/
theorem isSegment_at {original : Message} {maxSegmentSize index : Nat} (positive : 1 ≤ maxSegmentSize)
    (inside : index * maxSegmentSize < original.payloadData.length) {isLast : Bool}
    (last : isLast = true ↔ ¬ (index + 1) * maxSegmentSize < original.payloadData.length) :
    IsSegment original maxSegmentSize isLast
      (segmentAt original (counterpart original.messageType) original.payloadData
        (index * maxSegmentSize)
        (min maxSegmentSize (original.payloadData.length - index * maxSegmentSize))) := by
  rw [Nat.succ_mul] at last
  generalize index * maxSegmentSize = offset at inside last ⊢
  set size := min maxSegmentSize (original.payloadData.length - offset)
  have ends : offset + size ≥ original.payloadData.length ↔ isLast = true := by
    rw [last]
    omega
  have length : (segmentBytes (segmentAt original (counterpart original.messageType)
      original.payloadData offset size)).length = size := by
    rw [segmentAt_bytes, List.length_take, List.length_drop]
    omega
  obtain ⟨b0, b1, b2, b3, bytes, more⟩ := segmentAt_payload original
    (counterpart original.messageType) original.payloadData offset size
  constructor
  · rfl
  · refine ⟨b0, b1, b2, b3, by rw [bytes]; rfl, ?_⟩
    simp only [more, ends]
  · intro open'
    rw [length]
    have goes := mt last.mpr (by simp [open'])
    omega
  · intro _
    rw [length]
    omega

/-- The segments cut the payload up: none of it is lost, repeated or out of order. -/
theorem segment_partition {original : Message} {maxSegmentSize : Nat}
    (base : original.messageType ∈ baseTypes) (positive : 1 ≤ maxSegmentSize)
    (long : maxSegmentSize < original.payloadData.length)
    (bound : original.payloadData.length + maxSegmentSize < 2 ^ 64) :
    (segment original maxSegmentSize).length =
        getSegmentCount original.payloadData.length maxSegmentSize ∧
      getSegmentCount original.payloadData.length maxSegmentSize =
        original.payloadData.length ⌈/⌉ maxSegmentSize ∧
      (segment original maxSegmentSize).flatMap segmentBytes = original.payloadData ∧
      ∀ index part, (segment original maxSegmentSize)[index]? = some part →
        IsSegment original maxSegmentSize
          (decide (index + 1 = (segment original maxSegmentSize).length)) part := by
  have nonempty : 0 < original.payloadData.length := by omega
  have cut := segment_eq (tpType_base base) positive long
  have inside := getSegmentCount_le_iff positive nonempty bound.le
  have divides := getSegmentCount_eq nonempty bound
  generalize getSegmentCount original.payloadData.length maxSegmentSize = count at *
  have covers : original.payloadData.length ≤ count * maxSegmentSize := by
    have ended := mt (inside count).mpr (Nat.lt_irrefl count)
    omega
  have counted : (segment original maxSegmentSize).length = count := by
    rw [cut, List.length_map, List.length_range]
  refine ⟨counted, divides, ?_, ?_⟩
  · rw [cut, List.flatMap_map]
    calc (List.range count).flatMap _
        = (List.range count).flatMap fun index =>
            (original.payloadData.drop (index * maxSegmentSize)).take maxSegmentSize := by
          apply List.flatMap_congr
          intro index _
          rw [segmentAt_bytes, ← List.length_drop, ← List.take_take, List.take_length]
      _ = original.payloadData.take (count * maxSegmentSize) := Fragments.flatMap_pieces _ _ _
      _ = original.payloadData := List.take_of_length_le covers
  · intro index part found
    rw [counted]
    rw [cut, List.getElem?_map, Option.map_eq_some_iff] at found
    obtain ⟨place, ranged, rfl⟩ := found
    obtain ⟨bounded, same⟩ := List.getElem?_eq_some_iff.mp ranged
    rw [List.getElem_range] at same
    rw [List.length_range] at bounded
    subst same
    have next := inside (index + 1)
    exact isSegment_at positive ((inside index).mp bounded) (by rw [decide_eq_true_iff]; omega)

theorem twoByteRequest_partition :
    getSegmentCount 2 1 = 2 ⌈/⌉ 1 ∧ (segment twoByteRequest 1).flatMap segmentBytes = [0xAA, 0xBB] ∧
      ∀ index part, (segment twoByteRequest 1)[index]? = some part →
        IsSegment twoByteRequest 1 (decide (index + 1 = 2)) part :=
  (@segment_partition twoByteRequest 1 (by decide) (by decide) (by decide) (by decide)).2

end Msomeip.Tp
