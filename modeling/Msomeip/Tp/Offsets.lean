import Msomeip.Tp.Partition

namespace Msomeip.Tp

open TpSegmenter

/-- The offset that `TpHeader::from_network` decodes from the front of a segment. -/
def decodedOffset (part : Message) : Option Nat :=
  match part.payloadData with
  | b0 :: b1 :: b2 :: b3 :: _ => some (TpHeader.fromNetwork b0 b1 b2 b3).offset.toNat
  | _ => none

/-- How many payload bytes the segments before the one at `index` carry. -/
def bytesBefore (parts : List Message) (index : Nat) : Nat :=
  ((parts.take index).map fun part => (segmentBytes part).length).sum

structure FaithfulOffsets (parts : List Message) : Prop where
  exact : ∀ index part, parts[index]? = some part →
    decodedOffset part = some (bytesBefore parts index)
  distinct : (parts.map decodedOffset).Nodup

/-- The bit-field keeps 24 bits of the offset. -/
theorem segmentAt_decodedOffset (original : Message) (type : MessageType) (payload : PayloadData)
    (offset size : Nat) :
    decodedOffset (segmentAt original type payload offset size) = some (offset % 2 ^ 24) := by
  obtain ⟨b0, b1, b2, b3, network, decoded⟩ := TpHeader.toNetwork_eq
    (TpHeader.ofOffset (UInt32.ofNat offset) (!decide (offset + size ≥ payload.length)))
  have carried : (segmentAt original type payload offset size).payloadData =
      b0 :: b1 :: b2 :: b3 :: (payload.drop offset).take size := by
    simp only [segmentAt, Message.payloadData_setPayload, network]
    rfl
  have narrowed : (UInt32.ofNat offset).toBitVec.toNat % 2 ^ 24 = offset % 2 ^ 24 := by
    rw [UInt32.toNat_toBitVec, UInt32.toNat_ofNat']
    omega
  simp only [decodedOffset, carried, decoded, TpHeader.ofOffset, BitVec.toNat_setWidth, narrowed]

section Segments

variable {original : Message} {maxSegmentSize : Nat}

theorem segment_decodedOffset (base : original.messageType ∈ baseTypes)
    (positive : 1 ≤ maxSegmentSize) (long : maxSegmentSize < original.payloadData.length) :
    (segment original maxSegmentSize).map decodedOffset =
      (List.range (getSegmentCount original.payloadData.length maxSegmentSize)).map fun index =>
        some (index * maxSegmentSize % 2 ^ 24) := by
  rw [segment_eq (tpType_base base) positive long, List.map_map]
  apply List.map_congr_left
  intro index _
  exact segmentAt_decodedOffset _ _ _ _ _

theorem segment_bytesBefore (base : original.messageType ∈ baseTypes)
    (positive : 1 ≤ maxSegmentSize) (long : maxSegmentSize < original.payloadData.length)
    {index : Nat}
    (counted : index < getSegmentCount original.payloadData.length maxSegmentSize) :
    bytesBefore (segment original maxSegmentSize) index = index * maxSegmentSize := by
  have full : ∀ earlier ∈ List.range index,
      min maxSegmentSize (original.payloadData.length - earlier * maxSegmentSize) =
        maxSegmentSize := by
    intro earlier member
    have before := List.mem_range.mp member
    have next := start_inside positive (by omega) (Nat.lt_of_le_of_lt before counted)
    rw [Nat.succ_mul] at next
    omega
  have fits : min index (getSegmentCount original.payloadData.length maxSegmentSize) = index := by
    omega
  calc bytesBefore (segment original maxSegmentSize) index
      = ((List.range index).map fun earlier =>
          min maxSegmentSize (original.payloadData.length - earlier * maxSegmentSize)).sum := by
        rw [bytesBefore, segment_eq (tpType_base base) positive long, ← List.map_take,
          List.take_range, fits, List.map_map]
        congr 1
        apply List.map_congr_left
        intro earlier _
        rw [Function.comp_apply, segmentAt_bytes, List.length_take, List.length_drop]
        omega
    _ = ((List.range index).map fun _ => maxSegmentSize).sum := by
        rw [List.map_congr_left full]
    _ = index * maxSegmentSize := by
        rw [List.map_const', List.length_range, List.sum_replicate_nat]

/-- The offsets are faithful exactly as long as the last segment starts below 2^24. -/
theorem segment_offsets_faithful_iff (base : original.messageType ∈ baseTypes)
    (positive : 1 ≤ maxSegmentSize) (long : maxSegmentSize < original.payloadData.length) :
    FaithfulOffsets (segment original maxSegmentSize) ↔
      (getSegmentCount original.payloadData.length maxSegmentSize - 1) * maxSegmentSize < 2 ^ 24 := by
  have decodes := segment_decodedOffset base positive long
  have before := @segment_bytesBefore original maxSegmentSize base positive long
  have sameLength := congrArg List.length decodes
  rw [List.length_map, List.length_map, List.length_range] at sameLength
  generalize getSegmentCount original.payloadData.length maxSegmentSize = count at *
  have decoded : ∀ index part, (segment original maxSegmentSize)[index]? = some part →
      index < count ∧ decodedOffset part = some (index * maxSegmentSize % 2 ^ 24) := by
    intro index part found
    have inside := (List.getElem?_eq_some_iff.mp found).1
    have same := congrArg (·[index]?) decodes
    simp only [List.getElem?_map, found, Option.map_some] at same
    rw [List.getElem?_range (sameLength ▸ inside)] at same
    exact ⟨sameLength ▸ inside, Option.some.inj same⟩
  constructor
  · intro faithful
    rcases Nat.eq_zero_or_pos count with rfl | some
    · simp
    · have lastInside : count - 1 < (segment original maxSegmentSize).length := by omega
      have found := List.getElem?_eq_getElem lastInside
      obtain ⟨counted, narrowed⟩ := decoded _ _ found
      have whole := faithful.exact _ _ found
      rw [narrowed, before counted, Option.some.injEq] at whole
      rw [← whole]
      exact Nat.mod_lt _ (by decide)
  · intro small
    have unchanged : ∀ index < count,
        index * maxSegmentSize % 2 ^ 24 = index * maxSegmentSize := by
      intro index counted
      have below := Nat.mul_le_mul_right maxSegmentSize (Nat.le_sub_one_of_lt counted)
      exact Nat.mod_eq_of_lt (Nat.lt_of_le_of_lt below small)
    constructor
    · intro index part found
      obtain ⟨counted, narrowed⟩ := decoded index part found
      rw [narrowed, unchanged index counted, before counted]
    · rw [decodes]
      apply List.Nodup.map_on _ List.nodup_range
      intro left leftIn right rightIn same
      rw [unchanged left (List.mem_range.mp leftIn), unchanged right (List.mem_range.mp rightIn),
        Option.some.injEq] at same
      exact Nat.eq_of_mul_eq_mul_right positive same

end Segments

/-- Its last segment over UDP starts at 16777776. -/
def longNotification : Message :=
  Message.setPayload { messageType := .notification } (List.replicate 16777777 0)

theorem longNotification_length : longNotification.payloadData.length = 16777777 := by
  rw [longNotification, Message.payloadData_setPayload, List.length_replicate]

theorem longNotification_unfaithful :
    longNotification.messageType ∈ baseTypes ∧ 1 ≤ udpSegmentSize ∧
      udpSegmentSize < longNotification.payloadData.length ∧
      ¬ FaithfulOffsets (segment longNotification udpSegmentSize) := by
  have base : longNotification.messageType ∈ baseTypes := by decide
  have positive : 1 ≤ udpSegmentSize := by decide
  have long : udpSegmentSize < longNotification.payloadData.length := by
    rw [longNotification_length]
    decide
  refine ⟨base, positive, long, ?_⟩
  intro faithful
  have before := @segment_bytesBefore _ _ base positive long 12053 (by
    rw [longNotification_length]
    decide)
  have carried := congrArg (·[12053]?) (segment_decodedOffset base positive long)
  simp only [List.getElem?_map, longNotification_length] at carried
  rw [List.getElem?_range (by decide), Option.map_some, Option.map_eq_some_iff] at carried
  obtain ⟨last, found, narrowed⟩ := carried
  have whole := faithful.exact _ _ found
  rw [narrowed, before] at whole
  exact absurd whole (by decide)

theorem segment_offsets_faithful_notification :
    FaithfulOffsets (segment (Message.setPayload { messageType := .notification } [1, 2, 3]) 2) :=
  (segment_offsets_faithful_iff (by decide) (by decide) (by decide)).mpr (by decide)

end Msomeip.Tp
