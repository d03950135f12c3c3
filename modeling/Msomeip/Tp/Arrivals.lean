import Mathlib.Logic.Function.Basic
import Msomeip.Tp.Reassembler

namespace Msomeip.Tp

open TpReassembler

/-- A reassembler, with the time at which the data stored under each offset arrived. -/
structure Timed where
  reassembler : TpReassembler
  arrivedAt : RequestId → UInt32 → TimePoint

namespace Timed

/-- The offsets of the segments stored for a request id. -/
def offsets (timed : Timed) (requestId : RequestId) : List UInt32 :=
  match timed.reassembler.buffers[requestId]? with
  | none => []
  | some buffer => buffer.segments.keys

def arrivals (timed : Timed) (requestId : RequestId) : List TimePoint :=
  (timed.offsets requestId).map (timed.arrivedAt requestId)

def recorded (timed : Timed) (segment : Message) (now : TimePoint) :
    RequestId → UInt32 → TimePoint :=
  match parseSegment segment with
  | none => timed.arrivedAt
  | some (tpHeader, _) => Function.update timed.arrivedAt segment.getRequestId
      (Function.update (timed.arrivedAt segment.getRequestId)
        (UInt32.ofNat tpHeader.offset.toNat) now)

def addSegment (timed : Timed) (segment : Message) (now : TimePoint) : Timed where
  reassembler := (timed.reassembler.addSegment segment now).2
  arrivedAt := timed.recorded segment now

def reassemble (timed : Timed) (requestId : RequestId) : Timed :=
  { timed with reassembler := (timed.reassembler.reassemble requestId).2 }

theorem mem_offsets {timed : Timed} {requestId : RequestId} {offset : UInt32} :
    offset ∈ timed.offsets requestId ↔ ∃ buffer,
      timed.reassembler.buffers[requestId]? = some buffer ∧ offset ∈ buffer.segments := by
  unfold offsets
  cases timed.reassembler.buffers[requestId]? with
  | none => simp
  | some buffer => simp [Std.ExtTreeMap.mem_keys]

theorem addSegment_rejected {timed : Timed} {segment : Message} (now : TimePoint)
    (rejected : parseSegment segment = none) : timed.addSegment segment now = timed := by
  simp only [addSegment, recorded, rejected, TpReassembler.addSegment_rejected now rejected]

theorem openBuffer_segments (reassembler : TpReassembler) (segment : Message) (now : TimePoint) :
    (reassembler.openBuffer segment now).segments =
      (reassembler.buffers[segment.getRequestId]?.getD {}).segments := by
  simp only [openBuffer]
  split <;> rfl

theorem arrivedAt_addSegment {timed : Timed} {segment : Message} {tpHeader : TpHeader}
    {data : PayloadData} (now : TimePoint) (parsed : parseSegment segment = some (tpHeader, data))
    (requestId : RequestId) (offset : UInt32) :
    (timed.addSegment segment now).arrivedAt requestId offset =
      if requestId = segment.getRequestId ∧ offset = UInt32.ofNat tpHeader.offset.toNat then now
      else timed.arrivedAt requestId offset := by
  simp only [addSegment, recorded, parsed, Function.update_apply]
  by_cases same : requestId = segment.getRequestId
  · subst same
    simp only [if_true, true_and]
    rw [Function.update_apply]
  · simp [same]

theorem offsets_addSegment {timed : Timed} {segment : Message} {tpHeader : TpHeader}
    {data : PayloadData} (now : TimePoint) (parsed : parseSegment segment = some (tpHeader, data))
    {requestId : RequestId} {offset : UInt32} :
    offset ∈ (timed.addSegment segment now).offsets requestId ↔
      (requestId = segment.getRequestId ∧ offset = UInt32.ofNat tpHeader.offset.toNat) ∨
        offset ∈ timed.offsets requestId := by
  simp only [mem_offsets, addSegment, addSegment_accepted parsed, Maps.lookup_insert]
  by_cases same : requestId = segment.getRequestId
  · subst same
    simp only [if_true, true_and, Option.some.injEq, exists_eq_left',
      ReassemblyBuffer.store_segments, openBuffer_segments, Std.ExtTreeMap.mem_insert,
      Std.LawfulEqCmp.compare_eq_iff_eq, @eq_comm UInt32 offset]
    cases timed.reassembler.buffers[segment.getRequestId]? with
    | none => simp
    | some buffer => simp
  · simp [same, Ne.symm same]

theorem offsets_reassemble {timed : Timed} {requestId other : RequestId} {offset : UInt32}
    (stored : offset ∈ (timed.reassemble requestId).offsets other) :
    offset ∈ timed.offsets other := by
  obtain ⟨buffer, found, member⟩ := mem_offsets.mp stored
  exact mem_offsets.mpr ⟨buffer, buffers_reassemble found, member⟩

/-- All of these times are within the timeout of the first of them. -/
def Within (timeout : Milliseconds) (times : List TimePoint) : Prop :=
  ∀ first ∈ times, ∀ time ∈ times, time - first ≤ timeout * 1000000

/-- What is stored for a request id arrived within the timeout. -/
def Fresh (timed : Timed) : Prop :=
  ∀ requestId, Within timed.reassembler.timeout (timed.arrivals requestId)

/-- The segment arrives within the timeout of each stored one that it joins. -/
def Prompt (timed : Timed) (segment : Message) (now : TimePoint) : Prop :=
  match parseSegment segment with
  | none => True
  | some (tpHeader, _) => ∀ offset ∈ timed.offsets segment.getRequestId,
      offset ≠ UInt32.ofNat tpHeader.offset.toNat →
        now - timed.arrivedAt segment.getRequestId offset ≤ timed.reassembler.timeout * 1000000

instance (timed : Timed) (segment : Message) (now : TimePoint) :
    Decidable (timed.Prompt segment now) :=
  match parsed : parseSegment segment with
  | none => .isTrue (by simp [Prompt, parsed])
  | some (tpHeader, _) => @decidable_of_iff _
      (∀ offset ∈ timed.offsets segment.getRequestId,
        offset ≠ UInt32.ofNat tpHeader.offset.toNat →
          now - timed.arrivedAt segment.getRequestId offset ≤ timed.reassembler.timeout * 1000000)
      (by simp [Prompt, parsed]) (List.decidableBAll _ _)

def Past (timed : Timed) (now : TimePoint) : Prop :=
  ∀ requestId, ∀ offset ∈ timed.offsets requestId, timed.arrivedAt requestId offset ≤ now

theorem within_arrivals {timed : Timed} {timeout : Milliseconds} {requestId : RequestId} :
    Within timeout (timed.arrivals requestId) ↔ ∀ first ∈ timed.offsets requestId,
      ∀ offset ∈ timed.offsets requestId, timed.arrivedAt requestId offset -
        timed.arrivedAt requestId first ≤ timeout * 1000000 := by
  simp only [Within, arrivals, List.forall_mem_map]

theorem timeout_addSegment (timed : Timed) (segment : Message) (now : TimePoint) :
    (timed.addSegment segment now).reassembler.timeout = timed.reassembler.timeout := by
  simp only [addSegment, TpReassembler.addSegment]
  split <;> rfl

theorem timeout_reassemble (timed : Timed) (requestId : RequestId) :
    (timed.reassemble requestId).reassembler.timeout = timed.reassembler.timeout := by
  simp only [reassemble, TpReassembler.reassemble]
  split
  · rfl
  · split <;> rfl

theorem Past.addSegment {timed : Timed} {now : TimePoint} (past : timed.Past now)
    (segment : Message) : (timed.addSegment segment now).Past now := by
  cases parsed : parseSegment segment with
  | none =>
    rw [addSegment_rejected now parsed]
    exact past
  | some accepted =>
    obtain ⟨tpHeader, data⟩ := accepted
    intro requestId offset member
    rw [arrivedAt_addSegment now parsed]
    split
    · exact Int.le_refl now
    · rename_i other
      exact past requestId offset (((offsets_addSegment now parsed).mp member).resolve_left other)

/-- A segment that joins only segments within the timeout is prompt. -/
theorem prompt_of_within {timed : Timed} {segment : Message} {now : TimePoint}
    (within : Within timed.reassembler.timeout
      ((timed.addSegment segment now).arrivals segment.getRequestId)) :
    timed.Prompt segment now := by
  unfold Prompt
  cases parsed : parseSegment segment with
  | none => trivial
  | some accepted =>
    obtain ⟨tpHeader, data⟩ := accepted
    simp only [within_arrivals, arrivedAt_addSegment now parsed] at within
    intro offset member other
    have pair := within offset ((offsets_addSegment now parsed).mpr (.inr member)) _
      ((offsets_addSegment now parsed).mpr (.inl ⟨rfl, rfl⟩))
    simpa [other] using pair

/-- Where nothing stale is stored, a prompt segment leaves nothing stale. -/
theorem Fresh.addSegment {timed : Timed} {segment : Message} {now : TimePoint}
    (fresh : timed.Fresh) (past : timed.Past now) (positive : 0 ≤ timed.reassembler.timeout)
    (prompt : timed.Prompt segment now) : (timed.addSegment segment now).Fresh := by
  unfold Prompt at prompt
  cases parsed : parseSegment segment with
  | none =>
    rw [addSegment_rejected now parsed]
    exact fresh
  | some accepted =>
    obtain ⟨tpHeader, data⟩ := accepted
    simp only [parsed] at prompt
    simp only [Fresh, within_arrivals, timeout_addSegment, arrivedAt_addSegment now parsed]
    intro requestId first firstStored offset stored
    have before := (offsets_addSegment now parsed).mp firstStored
    have known := (offsets_addSegment now parsed).mp stored
    have bound : 0 ≤ timed.reassembler.timeout * 1000000 :=
      Int.mul_nonneg positive (by decide)
    split
    · rename_i new
      split
      · rw [Int.sub_self]
        exact bound
      · rename_i firstOld
        obtain ⟨rfl, rfl⟩ := new
        have differs : first ≠ UInt32.ofNat tpHeader.offset.toNat := by
          intro same
          exact firstOld ⟨rfl, same⟩
        exact prompt first (before.resolve_left firstOld) differs
    · rename_i offsetOld
      have arrived := past requestId offset (known.resolve_left offsetOld)
      split
      · exact Int.le_trans (Int.sub_nonpos_of_le arrived) bound
      · rename_i firstOld
        exact within_arrivals.mp (fresh requestId) first (before.resolve_left firstOld) offset
          (known.resolve_left offsetOld)

theorem Fresh.reassemble {timed : Timed} (fresh : timed.Fresh) (requestId : RequestId) :
    (timed.reassemble requestId).Fresh := by
  intro other
  rw [within_arrivals, timeout_reassemble]
  intro first firstStored offset stored
  exact within_arrivals.mp (fresh other) first (offsets_reassemble firstStored) offset
    (offsets_reassemble stored)

theorem Past.reassemble {timed : Timed} {now : TimePoint} (past : timed.Past now)
    (requestId : RequestId) : (timed.reassemble requestId).Past now := by
  intro other offset stored
  exact past other offset (offsets_reassemble stored)

theorem Past.later {timed : Timed} {now later : TimePoint} (past : timed.Past now)
    (after : now ≤ later) : timed.Past later := by
  intro requestId offset stored
  exact Int.le_trans (past requestId offset stored) after

end Timed
end Msomeip.Tp
