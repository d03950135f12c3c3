import Mathlib.Data.List.Perm.Basic
import Msomeip.Library.Folds
import Msomeip.Tp.Reassembler

namespace Msomeip.Tp

/-- What may be said of two segments of one request id: they belong to one message, lie at
    different offsets and do not both end it. -/
structure Siblings (first second : Message) : Prop where
  serviceId : first.serviceId = second.serviceId
  instanceId : first.instanceId = second.instanceId
  methodId : first.methodId = second.methodId
  clientId : first.clientId = second.clientId
  interfaceVersion : first.interfaceVersion = second.interfaceVersion
  returnCode : first.returnCode = second.returnCode
  messageType : first.messageType = second.messageType
  distinct : ∀ left ∈ TpReassembler.parseSegment first,
    ∀ right ∈ TpReassembler.parseSegment second, left.1.offset ≠ right.1.offset
  oneLast : ∀ left ∈ TpReassembler.parseSegment first,
    ∀ right ∈ TpReassembler.parseSegment second,
      ¬ (left.1.moreFlag = 0 ∧ right.1.moreFlag = 0)

theorem Siblings.symm {first second : Message} (siblings : Siblings first second) :
    Siblings second first where
  serviceId := siblings.serviceId.symm
  instanceId := siblings.instanceId.symm
  methodId := siblings.methodId.symm
  clientId := siblings.clientId.symm
  interfaceVersion := siblings.interfaceVersion.symm
  returnCode := siblings.returnCode.symm
  messageType := siblings.messageType.symm
  distinct left leftParsed right rightParsed :=
    (siblings.distinct right rightParsed left leftParsed).symm
  oneLast left leftParsed right rightParsed bothLast :=
    siblings.oneLast right rightParsed left leftParsed bothLast.symm

instance decidableSiblings (first second : Message) : Decidable (Siblings first second) :=
  decidable_of_iff
    (((first.serviceId = second.serviceId ∧ first.instanceId = second.instanceId ∧
        first.methodId = second.methodId ∧ first.clientId = second.clientId) ∧
      first.interfaceVersion = second.interfaceVersion ∧
        first.returnCode = second.returnCode ∧ first.messageType = second.messageType) ∧
      (∀ left ∈ TpReassembler.parseSegment first,
        ∀ right ∈ TpReassembler.parseSegment second, left.1.offset ≠ right.1.offset) ∧
      ∀ left ∈ TpReassembler.parseSegment first, ∀ right ∈ TpReassembler.parseSegment second,
        ¬ (left.1.moreFlag = 0 ∧ right.1.moreFlag = 0))
    ⟨fun ⟨⟨⟨service, inst, method, client⟩, version, code, type⟩, distinct, oneLast⟩ =>
      ⟨service, inst, method, client, version, code, type, distinct, oneLast⟩,
     fun ⟨service, inst, method, client, version, code, type, distinct, oneLast⟩ =>
      ⟨⟨⟨service, inst, method, client⟩, version, code, type⟩, distinct, oneLast⟩⟩

namespace ReassemblyBuffer

def untimed (buffer : ReassemblyBuffer) : ReassemblyBuffer := { buffer with firstSegmentTime := 0 }

def opened (buffer : ReassemblyBuffer) (segment : Message) (now : TimePoint) :
    ReassemblyBuffer :=
  if buffer.segments.isEmpty then buffer.initBuffer segment now else buffer

@[simp] theorem complete_untimed (buffer : ReassemblyBuffer) :
    buffer.untimed.complete = buffer.complete := rfl

@[simp] theorem rebuild_untimed (buffer : ReassemblyBuffer) (requestId : RequestId) :
    TpReassembler.rebuild buffer.untimed requestId = TpReassembler.rebuild buffer requestId := rfl

theorem untimed_store (buffer : ReassemblyBuffer) (tpHeader : TpHeader) (data : PayloadData) :
    (buffer.store tpHeader data).untimed = buffer.untimed.store tpHeader data := by
  unfold store
  split <;> rfl

theorem untimed_opened (buffer : ReassemblyBuffer) (segment : Message) (now : TimePoint) :
    (buffer.opened segment now).untimed = buffer.untimed.opened segment 0 := by
  unfold opened
  by_cases empty : buffer.segments.isEmpty
  · simp [empty, untimed, initBuffer]
  · simp [empty, untimed]

theorem opened_store (buffer : ReassemblyBuffer) (tpHeader : TpHeader) (data : PayloadData)
    (segment : Message) (now : TimePoint) :
    (buffer.store tpHeader data).opened segment now = buffer.store tpHeader data := by
  simp [opened]

theorem store_comm (buffer : ReassemblyBuffer) {first second : TpHeader}
    (firstData secondData : PayloadData) (distinct : first.offset ≠ second.offset)
    (oneLast : ¬ (first.moreFlag = 0 ∧ second.moreFlag = 0)) :
    (buffer.store first firstData).store second secondData =
      (buffer.store second secondData).store first firstData := by
  have keys : UInt32.ofNat first.offset.toNat ≠ UInt32.ofNat second.offset.toNat := by
    intro same
    have equal := congrArg UInt32.toNat same
    have firstBound := first.offset.isLt
    have secondBound := second.offset.isLt
    simp only [UInt32.toNat_ofNat'] at equal
    apply distinct
    apply BitVec.eq_of_toNat_eq
    omega
  have inserted : (buffer.segments.insert (UInt32.ofNat first.offset.toNat) firstData).insert
        (UInt32.ofNat second.offset.toNat) secondData =
      (buffer.segments.insert (UInt32.ofNat second.offset.toNat) secondData).insert
        (UInt32.ofNat first.offset.toNat) firstData := by
    apply Std.ExtTreeMap.ext_getElem?
    intro offset
    simp only [Maps.lookup_insert]
    by_cases secondKey : UInt32.ofNat second.offset.toNat = offset
    · subst secondKey
      simp [keys]
    · simp [secondKey]
  unfold store
  by_cases firstLast : first.moreFlag = 0
  · have secondLast : ¬ second.moreFlag = 0 := fun last => oneLast ⟨firstLast, last⟩
    simp only [firstLast, secondLast, if_true, if_false, inserted]
  · simp only [firstLast, if_false]
    by_cases secondLast : second.moreFlag = 0
    · simp only [secondLast, if_true, inserted]
    · simp only [secondLast, if_false, inserted]

theorem opened_siblings (buffer : ReassemblyBuffer) {first second : Message}
    (siblings : Siblings first second) (now : TimePoint) :
    buffer.opened first now = buffer.opened second now := by
  obtain ⟨service, inst, method, client, version, code, type, -, -⟩ := siblings
  simp [opened, initBuffer, service, inst, method, client, version, code, type]

/-- What a segment makes of the buffer of its request id. -/
def absorb (buffer : Option ReassemblyBuffer) (segment : Message) (now : TimePoint) :
    Option ReassemblyBuffer :=
  match TpReassembler.parseSegment segment with
  | none => buffer
  | some (tpHeader, data) => some (((buffer.getD {}).opened segment now).store tpHeader data)

theorem untimed_absorb (buffer : Option ReassemblyBuffer) (segment : Message) (now : TimePoint) :
    (absorb buffer segment now).map untimed = absorb (buffer.map untimed) segment 0 := by
  unfold absorb
  cases TpReassembler.parseSegment segment with
  | none => rfl
  | some accepted =>
    have held : (buffer.map untimed).getD {} = (buffer.getD {}).untimed := by
      cases buffer <;> rfl
    simp only [Option.map_some, held, untimed_store, untimed_opened]

theorem absorb_comm {first second : Message} (siblings : Siblings first second)
    (buffer : Option ReassemblyBuffer) (now : TimePoint) :
    absorb (absorb buffer first now) second now = absorb (absorb buffer second now) first now := by
  unfold absorb
  cases firstParsed : TpReassembler.parseSegment first with
  | none => rfl
  | some left =>
    cases secondParsed : TpReassembler.parseSegment second with
    | none => rfl
    | some right =>
      have distinct := siblings.distinct left firstParsed right secondParsed
      have oneLast := siblings.oneLast left firstParsed right secondParsed
      simp only [Option.getD_some, opened_store]
      rw [opened_siblings _ siblings, store_comm _ left.2 right.2 distinct oneLast]

end ReassemblyBuffer

namespace TpReassembler

def addAll (reassembler : TpReassembler) (arrivals : List (Message × TimePoint)) :
    TpReassembler :=
  arrivals.foldl (fun reassembler arrival => (reassembler.addSegment arrival.1 arrival.2).2)
    reassembler

def untimed (reassembler : TpReassembler) : TpReassembler :=
  { reassembler with buffers := reassembler.buffers.map fun _ buffer => buffer.untimed }

theorem addSegment_own (reassembler : TpReassembler) (segment : Message) (now : TimePoint) :
    (reassembler.addSegment segment now).2.buffers[segment.getRequestId]? =
      ReassemblyBuffer.absorb reassembler.buffers[segment.getRequestId]? segment now := by
  unfold ReassemblyBuffer.absorb
  cases parsed : parseSegment segment with
  | none => rw [addSegment_rejected now parsed]
  | some accepted =>
    rw [addSegment_accepted parsed]
    exact Std.ExtTreeMap.getElem?_insert_self

theorem addSegment_others (reassembler : TpReassembler) (segment : Message) (now : TimePoint)
    {requestId : RequestId} (different : segment.getRequestId ≠ requestId) :
    (reassembler.addSegment segment now).2.buffers[requestId]? =
      reassembler.buffers[requestId]? := by
  cases parsed : parseSegment segment with
  | none => rw [addSegment_rejected now parsed]
  | some accepted =>
    rw [addSegment_accepted parsed]
    simp [Maps.lookup_insert, different]

@[simp] theorem addSegment_timeout (reassembler : TpReassembler) (segment : Message)
    (now : TimePoint) : (reassembler.addSegment segment now).2.timeout = reassembler.timeout := by
  unfold addSegment
  split <;> rfl

@[simp] theorem addAll_timeout (reassembler : TpReassembler)
    (arrivals : List (Message × TimePoint)) :
    (reassembler.addAll arrivals).timeout = reassembler.timeout := by
  unfold addAll
  induction arrivals generalizing reassembler with
  | nil => rfl
  | cons arrival arrivals ih => rw [List.foldl_cons, ih, addSegment_timeout]

/-- A buffer is what the segments of its own request id make of it, in their order. -/
theorem addAll_buffer (reassembler : TpReassembler) (arrivals : List (Message × TimePoint))
    (requestId : RequestId) : (reassembler.addAll arrivals).buffers[requestId]? =
      (arrivals.filter fun arrival => arrival.1.getRequestId = requestId).foldl
        (fun buffer arrival => ReassemblyBuffer.absorb buffer arrival.1 arrival.2)
        reassembler.buffers[requestId]? :=
  Folds.view_foldl (fun reassembler id => reassembler.buffers[id]?)
    (fun reassembler arrival => addSegment_own reassembler arrival.1 arrival.2)
    (fun reassembler arrival _ different =>
      addSegment_others reassembler arrival.1 arrival.2 different)
    reassembler arrivals requestId

theorem untimed_buffer (reassembler : TpReassembler) (requestId : RequestId) :
    reassembler.untimed.buffers[requestId]? =
      reassembler.buffers[requestId]?.map ReassemblyBuffer.untimed := by
  simp [untimed]

theorem untimed_foldl (buffer : Option ReassemblyBuffer) (arrivals : List (Message × TimePoint)) :
    (arrivals.foldl (fun buffer arrival => ReassemblyBuffer.absorb buffer arrival.1 arrival.2)
        buffer).map ReassemblyBuffer.untimed =
      (arrivals.map Prod.fst).foldl (fun buffer segment => ReassemblyBuffer.absorb buffer segment 0)
        (buffer.map ReassemblyBuffer.untimed) := by
  induction arrivals generalizing buffer with
  | nil => rfl
  | cons arrival arrivals ih =>
    rw [List.foldl_cons, ih, ReassemblyBuffer.untimed_absorb, List.map_cons, List.foldl_cons]

/-- Segments of any number of messages, where those of one request id are siblings. -/
def Compatible (segments : List Message) : Prop :=
  segments.Pairwise fun first second =>
    first.getRequestId = second.getRequestId → Siblings first second

instance decidableCompatible (segments : List Message) : Decidable (Compatible segments) :=
  inferInstanceAs (Decidable (List.Pairwise _ _))

theorem Compatible.siblings {segments : List Message} (compatible : Compatible segments)
    (requestId : RequestId) :
    (segments.filter fun segment => segment.getRequestId = requestId).Pairwise Siblings := by
  apply List.Pairwise.imp_of_mem _ (compatible.filter _)
  intro first second firstMember secondMember related
  have firstId := (List.mem_filter.mp firstMember).2
  have secondId := (List.mem_filter.mp secondMember).2
  simp only [decide_eq_true_eq] at firstId secondId
  exact related (firstId.trans secondId.symm)

theorem untimed_addAll_perm (reassembler : TpReassembler)
    {first second : List (Message × TimePoint)} (compatible : Compatible (first.map Prod.fst))
    (perm : (first.map Prod.fst).Perm (second.map Prod.fst)) :
    (reassembler.addAll first).untimed = (reassembler.addAll second).untimed := by
  have buffers : (reassembler.addAll first).untimed.buffers =
      (reassembler.addAll second).untimed.buffers := by
    apply Std.ExtTreeMap.ext_getElem?
    intro requestId
    have segmentsOf : ∀ arrivals : List (Message × TimePoint),
        (arrivals.filter fun arrival => arrival.1.getRequestId = requestId).map Prod.fst =
          (arrivals.map Prod.fst).filter fun segment => segment.getRequestId = requestId := by
      intro arrivals
      rw [List.filter_map]
      rfl
    simp only [untimed_buffer, addAll_buffer, untimed_foldl, segmentsOf]
    apply Folds.foldl_perm Siblings.symm
    · exact fun _ _ siblings buffer => ReassemblyBuffer.absorb_comm siblings buffer 0
    · exact perm.filter _
    · exact compatible.siblings requestId
  have timeouts : (reassembler.addAll first).untimed.timeout =
      (reassembler.addAll second).untimed.timeout := by
    simp [untimed]
  exact congrArg₂ TpReassembler.mk buffers timeouts

theorem isComplete_untimed (reassembler : TpReassembler) (requestId : RequestId) :
    reassembler.untimed.isComplete requestId = reassembler.isComplete requestId := by
  unfold isComplete isCompleteUnlocked
  rw [untimed_buffer]
  cases reassembler.buffers[requestId]? <;> rfl

theorem reassemble_untimed (reassembler : TpReassembler) (requestId : RequestId) :
    (reassembler.untimed.reassemble requestId).1 = (reassembler.reassemble requestId).1 := by
  apply Option.ext
  intro message
  rw [reassemble_eq_some, reassemble_eq_some, untimed_buffer]
  cases reassembler.buffers[requestId]? with
  | none => simp
  | some buffer => simp

/-- Reassembly does not depend on the order of arrival, and one message not on the others. -/
theorem addAll_confluent (timeout : Milliseconds) {first second : List (Message × TimePoint)}
    (compatible : Compatible (first.map Prod.fst))
    (perm : (first.map Prod.fst).Perm (second.map Prod.fst)) :
    let empty : TpReassembler := { timeout := timeout }
    (empty.addAll first).untimed = (empty.addAll second).untimed ∧
    ∀ requestId,
      (empty.addAll first).isComplete requestId = (empty.addAll second).isComplete requestId ∧
      ((empty.addAll first).reassemble requestId).1 =
        ((empty.addAll second).reassemble requestId).1 ∧
      (empty.addAll first).buffers[requestId]? =
        (empty.addAll (first.filter fun arrival =>
          arrival.1.getRequestId = requestId)).buffers[requestId]? := by
  intro empty
  have same := untimed_addAll_perm empty compatible perm
  apply And.intro same
  intro requestId
  refine ⟨?_, ?_, ?_⟩
  · rw [← isComplete_untimed, same, isComplete_untimed]
  · rw [← reassemble_untimed, same, reassemble_untimed]
  · simp only [addAll_buffer, List.filter_filter, Bool.and_self]

def twoMessages : List (Message × TimePoint) :=
  let part (session : SessionId) (offset : UInt32) (more : Bool) (data : PayloadData) : Message :=
    ({ sessionId := session, messageType := .tpRequest } : Message).setPayload
      ((TpHeader.ofOffset offset more).toNetwork ++ data)
  [(part 1 0 true [0xAA], 0), (part 2 0 false [], 3), (part 1 1 false [], 5)]

theorem twoMessages_reversed :
    let empty : TpReassembler := { timeout := 5000 }
    (empty.addAll twoMessages).untimed = (empty.addAll twoMessages.reverse).untimed :=
  (addAll_confluent 5000 (by decide +kernel)
    ((List.reverse_perm twoMessages).symm.map Prod.fst)).1

end TpReassembler
end Msomeip.Tp
