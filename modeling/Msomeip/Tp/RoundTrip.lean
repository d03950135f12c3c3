import Msomeip.Library.Runs
import Msomeip.Tp.Reassembler
import Msomeip.Tp.Segmenter

namespace Msomeip.Tp

open TpSegmenter TpReassembler

def ReassemblyBuffer.EndsBeforeData (buffer : ReassemblyBuffer) : Prop :=
  buffer.hasLastSegment = true →
    ∃ (offset : UInt32) (data : PayloadData), buffer.segments[offset]? = some data ∧ data ≠ [] ∧
      buffer.totalSize = offset.toNat

theorem ReassemblyBuffer.EndsBeforeData.not_complete {buffer : ReassemblyBuffer}
    (ends : buffer.EndsBeforeData) : buffer.complete = false := by
  cases last : buffer.hasLastSegment with
  | false => simp [complete, last]
  | true =>
    obtain ⟨offset, data, stored, filled, total⟩ := ends last
    cases done : buffer.complete with
    | false => rfl
    | true =>
      simp only [complete, last, Bool.true_and, beq_iff_eq] at done
      have member : (offset.toNat, data) ∈ buffer.chain :=
        List.mem_map.mpr ⟨(offset, data),
          Std.ExtTreeMap.mem_toList_iff_getElem?_eq_some.mpr stored, rfl⟩
      have covered := Fragments.fragment_le_chainEnd done member
      have positive := List.length_pos_iff.mpr filled
      omega

theorem ReassemblyBuffer.EndsBeforeData.store {buffer : ReassemblyBuffer}
    (ends : buffer.EndsBeforeData) (tpHeader : TpHeader) {segmentData : PayloadData}
    (filled : segmentData ≠ []) : (buffer.store tpHeader segmentData).EndsBeforeData := by
  unfold ReassemblyBuffer.store EndsBeforeData
  by_cases last : tpHeader.moreFlag = 0
  · intro _
    exact ⟨UInt32.ofNat tpHeader.offset.toNat, segmentData, by simp [last], filled, by simp [last]⟩
  · simp only [last, if_false]
    intro recorded
    obtain ⟨offset, data, stored, dataFilled, total⟩ := ends recorded
    by_cases same : UInt32.ofNat tpHeader.offset.toNat = offset
    · exact ⟨offset, segmentData, by simp [same], filled, total⟩
    · exact ⟨offset, data, by simp [Maps.lookup_insert, same, stored], dataFilled, total⟩

theorem openBuffer_endsBeforeData {reassembler : TpReassembler} {segment : Message}
    {now : TimePoint} (pending : ∀ buffer,
      reassembler.buffers[segment.getRequestId]? = some buffer → buffer.EndsBeforeData) :
    (reassembler.openBuffer segment now).EndsBeforeData := by
  unfold openBuffer
  cases found : reassembler.buffers[segment.getRequestId]? with
  | none => simp [ReassemblyBuffer.EndsBeforeData, ReassemblyBuffer.initBuffer]
  | some buffer =>
    simp only [Option.getD_some]
    split
    · simp [ReassemblyBuffer.EndsBeforeData, ReassemblyBuffer.initBuffer]
    · exact pending buffer found

theorem addSegment_never_completes {reassembler : TpReassembler} {segment : Message}
    {now : TimePoint} (pending : ∀ buffer,
      reassembler.buffers[segment.getRequestId]? = some buffer → buffer.EndsBeforeData)
    (filled : ∀ tpHeader data, parseSegment segment = some (tpHeader, data) → data ≠ []) :
    (reassembler.addSegment segment now).1 = false ∧
      ∀ buffer, (reassembler.addSegment segment now).2.buffers[segment.getRequestId]? = some buffer →
        buffer.EndsBeforeData := by
  cases parsed : parseSegment segment with
  | none =>
    rw [addSegment_rejected now parsed]
    exact ⟨rfl, pending⟩
  | some parts =>
    obtain ⟨tpHeader, data⟩ := parts
    have opened : (reassembler.openBuffer segment now).EndsBeforeData :=
      openBuffer_endsBeforeData pending
    have stored := opened.store tpHeader (filled tpHeader data parsed)
    rw [addSegment_accepted parsed]
    apply And.intro stored.not_complete
    intro buffer found
    simp only [Std.ExtTreeMap.getElem?_insert_self, Option.some.injEq] at found
    exact found ▸ stored

def receiveSegment (reassembler : TpReassembler) (sent : Message × TimePoint) :
    Bool × TpReassembler :=
  match Message.deserialize sent.1.serialize with
  | some arrived => reassembler.addSegment arrived sent.2
  | none => (false, reassembler)

def deliver (reassembler : TpReassembler) (sent : List (Message × TimePoint)) : TpReassembler :=
  sent.foldl (fun reassembler segment => (receiveSegment reassembler segment).2) reassembler

def baseTypes : List MessageType :=
  [.request, .requestNoReturn, .notification, .response, .error]

/-- A message above the segment size, and its segments on their way to a reassembler that holds
    nothing under its request id: every segment at least once, in any order. -/
structure Transfer where
  original : Message
  maxSegmentSize : Nat
  reassembler : TpReassembler
  deliveries : List (Message × TimePoint)
  baseType : original.messageType ∈ baseTypes
  version : original.protocolVersion = someipProtocolVersion
  positive : 1 ≤ maxSegmentSize
  long : maxSegmentSize < original.payloadData.length
  bound : original.payloadData.length ≤ 2 ^ 24
  fresh : original.getRequestId ∉ reassembler.buffers
  noOthers : ∀ delivery ∈ deliveries, delivery.1 ∈ TpSegmenter.segment original maxSegmentSize
  complete : ∀ sent ∈ TpSegmenter.segment original maxSegmentSize, sent ∈ deliveries.map Prod.fst

namespace Transfer

def Covered (transfer : Transfer) (sent : List (Message × TimePoint)) : Prop :=
  ∀ part ∈ TpSegmenter.segment transfer.original transfer.maxSegmentSize, part ∈ sent.map Prod.fst

def SameMessage (rebuilt original : Message) : Prop :=
  rebuilt.serviceId = original.serviceId ∧ rebuilt.methodId = original.methodId ∧
    rebuilt.clientId = original.clientId ∧ rebuilt.sessionId = original.sessionId ∧
    rebuilt.interfaceVersion = original.interfaceVersion ∧
    rebuilt.messageType = original.messageType ∧ rebuilt.returnCode = original.returnCode ∧
    rebuilt.payloadData = original.payloadData

/-- The delivery that covers the last missing segment, and no earlier one, completes the message,
    which is then handed back whole. -/
def RoundTrip (transfer : Transfer) : Prop :=
  ∀ before last after, transfer.deliveries = before ++ last :: after →
    ¬ transfer.Covered before → transfer.Covered (before ++ [last]) →
    (∀ front sent rest, before = front ++ sent :: rest →
      (receiveSegment (deliver transfer.reassembler front) sent).1 = false) ∧
    (receiveSegment (deliver transfer.reassembler before) last).1 = true ∧
    (deliver transfer.reassembler (before ++ [last])).isComplete
      transfer.original.getRequestId = true ∧
    ∃ rebuilt, ((deliver transfer.reassembler (before ++ [last])).reassemble
        transfer.original.getRequestId).1 = some rebuilt ∧
      SameMessage rebuilt transfer.original

end Transfer

theorem tpType_of_base {type : MessageType} (base : type ∈ baseTypes) :
    ∃ tp, tpType type = some tp := by
  simp only [baseTypes, List.mem_cons, List.not_mem_nil, or_false] at base
  rcases base with rfl | rfl | rfl | rfl | rfl
  all_goals exact ⟨_, rfl⟩

theorem Transfer.segment_arrives (transfer : Transfer) {sent : Message}
    (member : sent ∈ TpSegmenter.segment transfer.original transfer.maxSegmentSize) :
    ∃ segment tpHeader data, Message.deserialize sent.serialize = some segment ∧
      segment.getRequestId = transfer.original.getRequestId ∧
      parseSegment segment = some (tpHeader, data) ∧ data ≠ [] := by
  obtain ⟨type, mapped⟩ := tpType_of_base transfer.baseType
  have long := transfer.long
  have bound := transfer.bound
  rw [segment_eq mapped transfer.positive transfer.long] at member
  obtain ⟨index, inRange, rfl⟩ := List.mem_map.mp member
  have left := (getSegmentCount_le_iff transfer.positive (by omega) (by omega) index).mp
    (List.mem_range.mp inRange)
  set offset := index * transfer.maxSegmentSize
  set size := min transfer.maxSegmentSize (transfer.original.payloadData.length - offset)
  have positive := transfer.positive
  have sizePositive : 0 < size := by omega
  let sent := segmentAt transfer.original type transfer.original.payloadData offset size
  let data := (transfer.original.payloadData.drop offset).take size
  have dataLength : data.length = size := by simp [data, size]
  obtain ⟨b0, b1, b2, b3, network, -⟩ := TpHeader.toNetwork_eq
    (TpHeader.ofOffset (UInt32.ofNat offset)
      (!decide (offset + size ≥ transfer.original.payloadData.length)))
  have payload : sent.payloadData = b0 :: b1 :: b2 :: b3 :: data := by
    simp only [sent, segmentAt, Message.payloadData_setPayload, network]
    rfl
  have small : sent.payloadData.length < 2 ^ 32 := by
    rw [payload]
    simp only [List.length_cons, dataLength]
    omega
  have tp : sent.received.isTpMessage = true := by
    rcases tpType_isTp mapped with rfl | rfl | rfl | rfl | rfl <;> rfl
  have parsed : parseSegment sent.received =
      some (TpHeader.fromNetwork b0 b1 b2 b3, data) := by
    simp only [parseSegment, tp, Message.payloadData_received, payload]
    rfl
  have filled : data ≠ [] := by
    intro empty
    rw [empty, List.length_nil] at dataLength
    omega
  exact ⟨sent.received, TpHeader.fromNetwork b0 b1 b2 b3, data,
    Message.deserialize_serialize sent transfer.version small, rfl, parsed, filled⟩

theorem parsed_filled {segment : Message} {tpHeader : TpHeader} {data : PayloadData}
    (parsed : parseSegment segment = some (tpHeader, data)) (filled : data ≠ []) :
    ∀ header other, parseSegment segment = some (header, other) → other ≠ [] := by
  intro header other same
  rw [parsed] at same
  cases same
  exact filled

theorem Transfer.delivered_incomplete (transfer : Transfer) (front : List (Message × TimePoint))
    (subset : ∀ delivery ∈ front,
      delivery.1 ∈ TpSegmenter.segment transfer.original transfer.maxSegmentSize)
    (buffer : ReassemblyBuffer)
    (found : (deliver transfer.reassembler front).buffers[transfer.original.getRequestId]? =
      some buffer) : buffer.EndsBeforeData := by
  induction front using List.reverseRecOn generalizing buffer with
  | nil =>
    rw [deliver, List.foldl_nil, Std.ExtTreeMap.getElem?_eq_none transfer.fresh] at found
    cases found
  | append_singleton front last ih =>
    have earlier := ih fun delivery member => subset delivery (by simp [member])
    obtain ⟨segment, tpHeader, data, arrives, sameId, parsed, filled⟩ :=
      transfer.segment_arrives (subset last (by simp))
    rw [deliver, List.foldl_append] at found
    simp only [List.foldl_cons, List.foldl_nil, receiveSegment, arrives] at found
    rw [← sameId] at found earlier
    exact (addSegment_never_completes earlier (parsed_filled parsed filled)).2 buffer found

theorem Transfer.receive_incomplete (transfer : Transfer) (front : List (Message × TimePoint))
    (last : Message × TimePoint)
    (subset : ∀ delivery ∈ front ++ [last],
      delivery.1 ∈ TpSegmenter.segment transfer.original transfer.maxSegmentSize) :
    (receiveSegment (deliver transfer.reassembler front) last).1 = false := by
  obtain ⟨segment, tpHeader, data, arrives, sameId, parsed, filled⟩ :=
    transfer.segment_arrives (subset last (by simp))
  have earlier := transfer.delivered_incomplete front fun delivery member =>
    subset delivery (by simp [member])
  simp only [receiveSegment, arrives]
  rw [← sameId] at earlier
  exact (addSegment_never_completes earlier (parsed_filled parsed filled)).1

theorem Transfer.segments_nonempty (transfer : Transfer) :
    TpSegmenter.segment transfer.original transfer.maxSegmentSize ≠ [] := by
  obtain ⟨type, mapped⟩ := tpType_of_base transfer.baseType
  have long := transfer.long
  have bound := transfer.bound
  rw [segment_eq mapped transfer.positive transfer.long]
  have nonempty : 0 < transfer.original.payloadData.length := by omega
  have first := (getSegmentCount_le_iff transfer.positive nonempty (by omega) 0).mpr (by omega)
  intro empty
  rw [List.map_eq_nil_iff, List.range_eq_nil] at empty
  omega

/-- The round trip fails for every message, segment size and order of delivery. -/
theorem roundTrip_fails (transfer : Transfer) : ¬ transfer.RoundTrip := by
  intro roundTrip
  have start : ¬ transfer.Covered [] := by
    intro covered
    obtain ⟨part, rest, parts⟩ := List.exists_cons_of_ne_nil transfer.segments_nonempty
    have member := covered part (by rw [parts]; simp)
    simp at member
  obtain ⟨before, last, after, split, missing, covered⟩ :=
    Runs.exists_first start transfer.deliveries transfer.complete
  have completes := (roundTrip before last after split missing covered).2.1
  rw [transfer.receive_incomplete before last ?_] at completes
  · cases completes
  · intro delivery member
    apply transfer.noOthers
    rw [split]
    simp only [List.mem_append, List.mem_cons] at member ⊢
    tauto

def twoByteRequest : Message :=
  { serviceId := 0x1234, methodId := 0x0001, clientId := 0x0001, sessionId := 0x0001
    payload := some (.ofData [0xAA, 0xBB]) }

def twoByteTransfer : Transfer where
  original := twoByteRequest
  maxSegmentSize := 1
  reassembler := {}
  deliveries := (TpSegmenter.segment twoByteRequest 1).map fun sent => (sent, 0)
  baseType := by decide
  version := by decide
  positive := by decide
  long := by decide
  bound := by decide
  fresh := Std.ExtTreeMap.not_mem_empty
  noOthers := by simp
  complete := by simp

theorem twoByteTransfer_stuck : ¬ ∀ transfer : Transfer, transfer.RoundTrip := by
  intro all
  have parts : twoByteTransfer.deliveries =
      [(segmentAt twoByteRequest .tpRequest [0xAA, 0xBB] 0 1, 0)] ++
        [(segmentAt twoByteRequest .tpRequest [0xAA, 0xBB] 1 1, 0)] := by decide
  have completes := (all twoByteTransfer _ _ [] parts
    (by unfold Transfer.Covered; decide) (by unfold Transfer.Covered; decide)).2.1
  revert completes
  decide +kernel

end Msomeip.Tp
