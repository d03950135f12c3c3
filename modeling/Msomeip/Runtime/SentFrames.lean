import Msomeip.Runtime.FrameSizes
import Msomeip.Runtime.StaleSegments
import Msomeip.Tp.Confluence
import Msomeip.Tp.Offsets

namespace Msomeip.Runtime

open Transport Tp TpSegmenter

variable {Handler : Type}

/-- `send_message` puts the frame on the wire when it is called with the message. -/
def IsFrameOf (message : Message) (frame : Frame) : Prop :=
  ∃ outcome, frame ∈ (sendMessage message frame.address frame.port frame.reliable outcome).2

theorem isFrameOf_of_mem {message : Message} {address : String} {port : UInt16} {reliable : Bool}
    {outcome : Nat → Bool} {frame : Frame}
    (member : frame ∈ (sendMessage message address port reliable outcome).2) :
    IsFrameOf message frame := by
  have aimed : ∀ index segments,
      frame ∈ (sendAll address port reliable outcome index segments).2 →
        frame.address = address ∧ frame.port = port ∧ frame.reliable = reliable := by
    intro index segments
    induction segments generalizing index with
    | nil => simp [sendAll]
    | cons segment rest ih =>
      intro inside
      simp only [sendAll] at inside
      split at inside
      · rcases List.mem_cons.mp inside with rfl | later
        · exact ⟨rfl, rfl, rfl⟩
        · exact ih _ later
      · obtain rfl := List.mem_singleton.mp inside
        exact ⟨rfl, rfl, rfl⟩
  have target : frame.address = address ∧ frame.port = port ∧ frame.reliable = reliable := by
    rcases Nat.lt_or_ge (maxSegmentSize reliable) message.payloadData.length with long | short
    · rw [sendMessage_long long] at member
      exact aimed _ _ member
    · rw [sendMessage_short short] at member
      obtain rfl := List.mem_singleton.mp member
      exact ⟨rfl, rfl, rfl⟩
  obtain ⟨rfl, rfl, rfl⟩ := target
  exact ⟨outcome, member⟩

/-- A received message that does not complete anything: it is no segment, or one that carries
    data. -/
def Inert (message : Message) : Prop :=
  message.isTpMessage = false ∨
    message.isTpMessage = true ∧
      ∀ tpHeader data, TpReassembler.parseSegment message = some (tpHeader, data) → data ≠ []

theorem received_of_parsed {message delivered : Message}
    (bound : message.payloadData.length < 2 ^ 32)
    (parsed : Message.deserialize message.serialize = some delivered) :
    delivered = message.received := by
  have general := Message.deserialize_serialize_append message []
  rw [List.append_nil, List.append_nil, parsed, Nat.mod_eq_of_lt bound, List.take_length] at general
  split at general
  · obtain rfl := Option.some.inj general
    rfl
  · cases general

theorem segment_filled {message part delivered : Message} {maxSegmentSize : Nat}
    (positive : 0 < maxSegmentSize) (small : maxSegmentSize < 2 ^ 31)
    (long : maxSegmentSize < message.payloadData.length)
    (member : part ∈ TpSegmenter.segment message maxSegmentSize)
    (parsed : Message.deserialize part.serialize = some delivered) :
    delivered.isTpMessage = true ∧
      ∀ tpHeader data, TpReassembler.parseSegment delivered = some (tpHeader, data) →
        data ≠ [] := by
  cases mapped : tpType message.messageType with
  | none =>
    rw [segment_of_long long, mapped] at member
    cases member
  | some type =>
    rw [segment_eq mapped positive long] at member
    obtain ⟨index, counted, rfl⟩ := List.mem_map.mp member
    have start := start_inside positive (by omega) (List.mem_range.mp counted)
    set offset := index * maxSegmentSize
    set size := min maxSegmentSize (message.payloadData.length - offset) with sizeEq
    obtain ⟨b0, b1, b2, b3, payload, -⟩ :=
      segmentAt_payload message type message.payloadData offset size
    have length : ((message.payloadData.drop offset).take size).length = size := by
      rw [List.length_take, List.length_drop]
      omega
    have bound : (segmentAt message type message.payloadData offset size).payloadData.length <
        2 ^ 32 := by
      rw [payload]
      simp only [List.length_cons, length]
      omega
    obtain rfl := received_of_parsed bound parsed
    have segmented : (segmentAt message type message.payloadData offset size).received.isTpMessage =
        true := by
      rcases tpType_isTp mapped with rfl | rfl | rfl | rfl | rfl <;> rfl
    refine ⟨segmented, ?_⟩
    have accepted : TpReassembler.parseSegment
        (segmentAt message type message.payloadData offset size).received =
          some (TpHeader.fromNetwork b0 b1 b2 b3, (message.payloadData.drop offset).take size) := by
      simp only [TpReassembler.parseSegment, segmented, Message.payloadData_received, payload]
      rfl
    apply parsed_filled accepted
    intro empty
    rw [empty, List.length_nil] at length
    omega

/-- What is received of a message that is no segment itself: the message, if it fits a segment,
    and else something that completes nothing. -/
theorem received_of_frame {message delivered : Message} {frame : Frame}
    (plain : message.isTpMessage = false) (sent : IsFrameOf message frame)
    (parsed : Message.deserialize frame.data = some delivered) :
    Inert delivered ∧ (delivered.isTpMessage = false →
      delivered = message.received ∧
        message.payloadData.length ≤ maxSegmentSize frame.reliable ∧
        frame.data.length = Message.headerSize + message.payloadData.length) := by
  obtain ⟨outcome, member⟩ := sent
  have limits : 0 < maxSegmentSize frame.reliable ∧ maxSegmentSize frame.reliable < 2 ^ 31 := by
    cases frame.reliable <;> decide
  rcases Nat.lt_or_ge (maxSegmentSize frame.reliable) message.payloadData.length with long | short
  · rw [sendMessage_long long] at member
    obtain ⟨part, inside, same⟩ := sendAll_subset member
    rw [same] at parsed
    have filled := segment_filled limits.1 limits.2 long inside parsed
    refine ⟨Or.inr filled, ?_⟩
    intro other
    rw [filled.1] at other
    cases other
  · rw [sendMessage_short short] at member
    have same : frame.data = message.serialize := by
      rw [List.mem_singleton.mp member]
    rw [same] at parsed
    obtain rfl := received_of_parsed (by omega) parsed
    refine ⟨Or.inl plain, fun _ => ⟨rfl, short, ?_⟩⟩
    rw [same, Message.serialize_length]

/-- No stored segments will ever be complete. -/
def Unfinished (runtime : Runtime Handler) : Prop :=
  ∀ (requestId : RequestId) buffer, runtime.tpReassembler.buffers[requestId]? = some buffer →
    buffer.EndsBeforeData

theorem addSegment_unfinished {runtime : Runtime Handler} (unfinished : runtime.Unfinished)
    {message : Message} (now : TimePoint)
    (filled : ∀ tpHeader data, TpReassembler.parseSegment message = some (tpHeader, data) →
      data ≠ []) :
    (runtime.tpReassembler.addSegment message now).1 = false ∧
      ∀ (requestId : RequestId) buffer,
        (runtime.tpReassembler.addSegment message now).2.buffers[requestId]? = some buffer →
          buffer.EndsBeforeData := by
  have own : (runtime.tpReassembler.addSegment message now).1 = false ∧
      ∀ buffer, (runtime.tpReassembler.addSegment message now).2.buffers[message.getRequestId]? =
        some buffer → buffer.EndsBeforeData :=
    addSegment_never_completes (unfinished message.getRequestId) filled
  refine ⟨own.1, ?_⟩
  intro requestId buffer found
  by_cases same : message.getRequestId = requestId
  · subst same
    exact own.2 buffer found
  · rw [TpReassembler.addSegment_others _ _ _ same] at found
    exact unfinished requestId buffer found

/-- What both transports do with a message that they have received. -/
def receive (runtime : Runtime Handler) (message : Message) (reliable : Bool) (arrival : Arrival) :
    Runtime Handler × List (Effect Handler) :=
  if reliable then runtime.onTcpMessageReceived message arrival
  else runtime.onUdpMessageReceived message arrival

theorem reassembled_inert {runtime : Runtime Handler} (unfinished : runtime.Unfinished)
    {message : Message} (inert : Inert message) (now : TimePoint) :
    (runtime.reassembled message now).2.Unfinished ∧
      (runtime.reassembled message now).1 =
        if message.isTpMessage then none else some message := by
  rcases inert with plain | ⟨segmented, filled⟩
  · rw [reassembled_plain runtime now plain, plain]
    exact ⟨unfinished, rfl⟩
  · obtain ⟨incomplete, after⟩ := addSegment_unfinished unfinished now filled
    rw [Receiving.reassembled_incomplete segmented incomplete, segmented]
    exact ⟨after, rfl⟩

theorem receive_unfinished {runtime : Runtime Handler} (unfinished : runtime.Unfinished)
    {message : Message} (inert : Inert message) (reliable : Bool) (arrival : Arrival) :
    (runtime.receive message reliable arrival).1.Unfinished := by
  have after := (reassembled_inert unfinished inert arrival.now).1
  cases reliable with
  | false =>
    intro requestId buffer found
    rw [receive, if_neg Bool.false_ne_true, Receiving.tpReassembler_udp] at found
    exact after requestId buffer found
  | true =>
    intro requestId buffer found
    rw [receive, if_pos rfl, Receiving.tpReassembler_tcp] at found
    exact after requestId buffer found

theorem receive_invoked {runtime : Runtime Handler} (unfinished : runtime.Unfinished)
    {message handed : Message} (inert : Inert message) {reliable : Bool} {arrival : Arrival}
    {key : ServiceId × InstanceId} {handler : Handler}
    (invoked : .invoked key handler handed ∈ (runtime.receive message reliable arrival).2) :
    handed = message ∧ message.isTpMessage = false := by
  have whole := (reassembled_inert unfinished inert arrival.now).2
  have routed : ∀ {runtime : Runtime Handler} {other : Message},
      .invoked key handler handed ∈ runtime.route other → handed = other := by
    intro runtime other member
    simp only [route] at member
    split at member
    · have same := List.mem_singleton.mp member
      exact (Effect.invoked.inj same).2.2
    · cases member
  unfold receive onTcpMessageReceived onUdpMessageReceived at invoked
  generalize runtime.reassembled message arrival.now = passed at whole invoked
  obtain ⟨none | passedOn, next⟩ := passed
  · split at invoked <;> cases invoked
  · have same : message.isTpMessage = false ∧ passedOn = message := by
      simp only at whole
      split at whole
      · cases whole
      · rename_i plain
        exact ⟨Bool.eq_false_iff.mpr plain, Option.some.inj whole⟩
    obtain ⟨plain, rfl⟩ := same
    refine ⟨?_, plain⟩
    split at invoked
    · exact routed invoked
    · simp only at invoked
      split at invoked
      · obtain ⟨caused, other⟩ := processSd_discovery invoked
        cases other
      · exact routed invoked

/-- A segment that completes nothing leaves its request id among the buffers. -/
theorem mem_receive {runtime : Runtime Handler} (unfinished : runtime.Unfinished)
    {message : Message} (inert : Inert message) {reliable : Bool} {arrival : Arrival}
    {requestId : RequestId} :
    requestId ∈ (runtime.receive message reliable arrival).1.tpReassembler.buffers ↔
      requestId ∈ runtime.tpReassembler.buffers ∨
        (TpReassembler.parseSegment message).isSome ∧ message.getRequestId = requestId := by
  have same : (runtime.receive message reliable arrival).1.tpReassembler =
      (runtime.reassembled message arrival.now).2.tpReassembler := by
    cases reliable with
    | false => exact Receiving.tpReassembler_udp runtime message arrival
    | true => exact Receiving.tpReassembler_tcp runtime message arrival
  rw [same]
  rcases inert with plain | ⟨segmented, filled⟩
  · have ignored : TpReassembler.parseSegment message = none := by
      simp [TpReassembler.parseSegment, plain]
    simp [reassembled_plain runtime arrival.now plain, ignored]
  · have incomplete := (addSegment_unfinished unfinished arrival.now filled).1
    rw [Receiving.reassembled_incomplete segmented incomplete]
    cases parsed : TpReassembler.parseSegment message with
    | none => simp [TpReassembler.addSegment_rejected arrival.now parsed]
    | some accepted =>
      simp [TpReassembler.addSegment_accepted parsed, Std.ExtTreeMap.mem_insert, or_comm]

end Msomeip.Runtime
