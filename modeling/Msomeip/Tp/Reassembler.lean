import Msomeip.Library.Fragments
import Msomeip.Library.Maps
import Msomeip.Message.Message
import Msomeip.Tp.Header

namespace Msomeip.Tp

open Std

/-- `operator[]` of the map value-initializes a new buffer: every field starts as zero. -/
structure ReassemblyBuffer where
  serviceId : ServiceId := 0
  instanceId : InstanceId := 0
  methodId : MethodId := 0
  clientId : ClientId := 0
  interfaceVersion : UInt8 := 0
  returnCode : ReturnCode := ⟨0⟩
  messageType : MessageType := ⟨0⟩
  totalSize : Nat := 0
  segments : ExtTreeMap UInt32 PayloadData := ∅
  firstSegmentTime : TimePoint := 0
  hasLastSegment : Bool := false

namespace ReassemblyBuffer

def initBuffer (buffer : ReassemblyBuffer) (segment : Message) (now : TimePoint) :
    ReassemblyBuffer :=
  { buffer with
    serviceId := segment.serviceId, instanceId := segment.instanceId
    methodId := segment.methodId, clientId := segment.clientId
    interfaceVersion := segment.interfaceVersion, returnCode := segment.returnCode
    messageType := segment.messageType, totalSize := 0
    firstSegmentTime := now, hasLastSegment := false }

/-- The last segment is recorded after its data went into the map: the vector whose size is added
    has been moved from, which leaves it empty. -/
def store (buffer : ReassemblyBuffer) (tpHeader : TpHeader) (segmentData : PayloadData) :
    ReassemblyBuffer :=
  let offset := UInt32.ofNat tpHeader.offset.toNat
  let buffer := { buffer with segments := buffer.segments.insert offset segmentData }
  let movedFrom : PayloadData := []
  if tpHeader.moreFlag = 0 then
    { buffer with totalSize := offset.toNat + movedFrom.length, hasLastSegment := true }
  else buffer

@[simp] theorem store_segments (buffer : ReassemblyBuffer) (tpHeader : TpHeader)
    (segmentData : PayloadData) : (buffer.store tpHeader segmentData).segments =
      buffer.segments.insert (UInt32.ofNat tpHeader.offset.toNat) segmentData := by
  unfold store
  split <;> rfl

def chain (buffer : ReassemblyBuffer) : List (Nat × PayloadData) :=
  buffer.segments.toList.map fun (offset, data) => (offset.toNat, data)

def complete (buffer : ReassemblyBuffer) : Bool :=
  buffer.hasLastSegment && Fragments.chainEnd 0 buffer.chain == some buffer.totalSize

def fullPayload (buffer : ReassemblyBuffer) : PayloadData :=
  buffer.segments.toList.flatMap Prod.snd

end ReassemblyBuffer

structure TpReassembler where
  buffers : ExtTreeMap RequestId ReassemblyBuffer := ∅
  timeout : Milliseconds := defaultReassemblyTimeoutMs

namespace TpReassembler

/-- The guards of `add_segment`, and the TP header and the data of a segment that passes them. -/
def parseSegment (segment : Message) : Option (TpHeader × PayloadData) :=
  if !segment.isTpMessage then none
  else
    match segment.payloadData with
    | b0 :: b1 :: b2 :: b3 :: segmentData => some (TpHeader.fromNetwork b0 b1 b2 b3, segmentData)
    | _ => none

def isCompleteUnlocked (reassembler : TpReassembler) (requestId : RequestId) : Bool :=
  match reassembler.buffers[requestId]? with
  | none => false
  | some buffer => buffer.complete

def isComplete (reassembler : TpReassembler) (requestId : RequestId) : Bool :=
  reassembler.isCompleteUnlocked requestId

/-- The buffer a segment is stored in: a new one, or one without segments, takes the header fields
    of the segment. -/
def openBuffer (reassembler : TpReassembler) (segment : Message) (now : TimePoint) :
    ReassemblyBuffer :=
  let buffer := reassembler.buffers[segment.getRequestId]?.getD {}
  if buffer.segments.isEmpty then buffer.initBuffer segment now else buffer

def addSegment (reassembler : TpReassembler) (segment : Message) (now : TimePoint) :
    Bool × TpReassembler :=
  match parseSegment segment with
  | none => (false, reassembler)
  | some (tpHeader, segmentData) =>
    let requestId := segment.getRequestId
    let buffer := (reassembler.openBuffer segment now).store tpHeader segmentData
    let reassembler := { reassembler with buffers := reassembler.buffers.insert requestId buffer }
    (reassembler.isCompleteUnlocked requestId, reassembler)

def originalType (type : MessageType) : MessageType :=
  if type = .tpRequest then .request
  else if type = .tpRequestNoReturn then .requestNoReturn
  else if type = .tpNotification then .notification
  else if type = .tpResponse then .response
  else if type = .tpError then .error
  else .request

def rebuild (buffer : ReassemblyBuffer) (requestId : RequestId) : Message :=
  ({ serviceId := buffer.serviceId, instanceId := buffer.instanceId
     methodId := buffer.methodId, clientId := buffer.clientId
     sessionId := (requestId &&& 0xFFFF).toUInt16, protocolVersion := 0x01
     interfaceVersion := buffer.interfaceVersion
     messageType := originalType buffer.messageType
     returnCode := buffer.returnCode } : Message).setPayload buffer.fullPayload

def reassemble (reassembler : TpReassembler) (requestId : RequestId) :
    Option Message × TpReassembler :=
  match reassembler.buffers[requestId]? with
  | none => (none, reassembler)
  | some buffer =>
    if !reassembler.isCompleteUnlocked requestId then (none, reassembler)
    else (some (rebuild buffer requestId),
      { reassembler with buffers := reassembler.buffers.erase requestId })

/-- Elapsed time is cut to whole milliseconds before it is compared. -/
def cleanupExpired (reassembler : TpReassembler) (now : TimePoint) : TpReassembler :=
  { reassembler with
    buffers := reassembler.buffers.filter fun _ buffer =>
      !decide ((now - buffer.firstSegmentTime).tdiv 1000000 > reassembler.timeout) }

theorem addSegment_rejected {reassembler : TpReassembler} {segment : Message} (now : TimePoint)
    (rejected : parseSegment segment = none) :
    reassembler.addSegment segment now = (false, reassembler) := by
  simp [addSegment, rejected]

theorem addSegment_accepted {reassembler : TpReassembler} {segment : Message} {now : TimePoint}
    {tpHeader : TpHeader} {segmentData : PayloadData}
    (accepted : parseSegment segment = some (tpHeader, segmentData)) :
    reassembler.addSegment segment now =
      (((reassembler.openBuffer segment now).store tpHeader segmentData).complete,
        { reassembler with
          buffers := reassembler.buffers.insert segment.getRequestId
            ((reassembler.openBuffer segment now).store tpHeader segmentData) }) := by
  simp [addSegment, accepted, isCompleteUnlocked]

theorem reassemble_eq_some {reassembler : TpReassembler} {requestId : RequestId}
    {message : Message} : (reassembler.reassemble requestId).1 = some message ↔
      ∃ buffer, reassembler.buffers[requestId]? = some buffer ∧ buffer.complete = true ∧
        message = rebuild buffer requestId := by
  unfold reassemble isCompleteUnlocked
  cases reassembler.buffers[requestId]? with
  | none => simp
  | some buffer => cases complete : buffer.complete <;> simp [complete, @eq_comm _ message]

theorem buffers_reassemble {reassembler : TpReassembler} {requestId other : RequestId}
    {buffer : ReassemblyBuffer}
    (found : (reassembler.reassemble requestId).2.buffers[other]? = some buffer) :
    reassembler.buffers[other]? = some buffer := by
  unfold reassemble at found
  split at found
  · exact found
  · split at found
    · exact found
    · simp only [Maps.lookup_erase] at found
      split at found
      · cases found
      · exact found

theorem buffers_cleanupExpired {reassembler : TpReassembler} {now : TimePoint} {other : RequestId}
    {buffer : ReassemblyBuffer}
    (found : (reassembler.cleanupExpired now).buffers[other]? = some buffer) :
    reassembler.buffers[other]? = some buffer := by
  unfold cleanupExpired at found
  simp only [Std.ExtTreeMap.getElem?_filter'] at found
  exact Option.eq_some_of_filter_eq_some found

end TpReassembler
end Msomeip.Tp
