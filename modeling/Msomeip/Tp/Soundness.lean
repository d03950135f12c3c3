import Msomeip.Tp.Mixing
import Msomeip.Tp.Partition

namespace Msomeip.Tp

open TpReassembler

theorem ReassemblyBuffer.chain_sorted (buffer : ReassemblyBuffer) :
    buffer.chain.Pairwise fun left right => left.1 < right.1 := by
  have ordered := Std.ExtTreeMap.ordered_keys_toList (t := buffer.segments)
  rw [chain, List.pairwise_map]
  apply ordered.imp
  intro left right before
  rw [Std.compare_eq_lt] at before
  exact UInt32.lt_iff_toNat_lt.mp before

/-- The data that a segment brings for an offset. -/
def dataAt (offset : Nat) (segment : Message) : Option PayloadData :=
  match parseSegment segment with
  | some (tpHeader, data) => if tpHeader.offset.toNat = offset then some data else none
  | none => none

/-- The latest data for an offset among the accepted segments. -/
def latest (accepted : List Message) (offset : Nat) : Option PayloadData :=
  Runs.latest (dataAt offset) accepted

theorem dataAt_eq_some {offset : Nat} {segment : Message} {data : PayloadData} :
    dataAt offset segment = some data ↔
      ∃ tpHeader, parseSegment segment = some (tpHeader, data) ∧ tpHeader.offset.toNat = offset := by
  unfold dataAt
  cases parseSegment segment with
  | none => simp
  | some parts => simp [Prod.ext_iff, and_comm]

theorem latest_snoc (accepted : List Message) (segment : Message) (offset : Nat) :
    latest (accepted ++ [segment]) offset = (dataAt offset segment).or (latest accepted offset) :=
  Runs.latest_snoc _ accepted segment

theorem latest_small {accepted : List Message} {offset : Nat} {data : PayloadData}
    (found : latest accepted offset = some data) : offset < 2 ^ 24 := by
  obtain ⟨segment, -, brings⟩ := List.mem_filterMap.mp (List.mem_of_getLast? found)
  obtain ⟨tpHeader, -, rfl⟩ := dataAt_eq_some.mp brings
  exact tpHeader.offset.isLt

theorem latest_of_mem {accepted : List Message} {segment : Message} (member : segment ∈ accepted)
    {tpHeader : TpHeader} {data : PayloadData}
    (parsed : parseSegment segment = some (tpHeader, data)) :
    (latest accepted tpHeader.offset.toNat).isSome := by
  have brings := dataAt_eq_some.mpr ⟨tpHeader, parsed, rfl⟩
  have listed := List.mem_filterMap.mpr ⟨segment, member, brings⟩
  exact List.getLast?_isSome.mpr (List.ne_nil_of_mem listed)

/-- A message is put together from the accepted segments: the latest data for each offset covers
    the payload without gap or overlap, and the header is that of the first one. -/
structure Rebuilt (accepted : List Message) (requestId : RequestId) (message : Message) : Prop where
  payload : ∃ pieces : List (Nat × PayloadData),
    pieces.Pairwise (fun left right => left.1 < right.1) ∧
    (∀ offset data, (offset, data) ∈ pieces ↔ latest accepted offset = some data) ∧
    (∃ first, pieces.head? = some (0, first)) ∧
    pieces.IsChain Fragments.Adjacent ∧
    message.payloadData = pieces.flatMap Prod.snd
  header : ∃ first, accepted.head? = some first ∧ message.serviceId = first.serviceId ∧
    message.instanceId = first.instanceId ∧ message.methodId = first.methodId ∧
    message.interfaceVersion = first.interfaceVersion ∧ message.returnCode = first.returnCode ∧
    message.messageType ∈ baseTypes ∧ counterpart message.messageType = first.messageType
  requestId : message.getRequestId = requestId

/-- A reassembler, with the segments accepted for each request id since its buffer was created. -/
structure Logged where
  reassembler : TpReassembler
  accepted : RequestId → List Message

namespace Logged

inductive Call
  | addSegment (segment : Option Message) (now : TimePoint)
  | reassemble (requestId : RequestId)
  | cleanupExpired (now : TimePoint)

def start (timeout : Milliseconds) : Logged := ⟨{ timeout := timeout }, fun _ => []⟩

/-- A null pointer is refused. -/
def addSegment (logged : Logged) (segment : Option Message) (now : TimePoint) : Logged :=
  match segment with
  | none => logged
  | some segment =>
    { reassembler := (logged.reassembler.addSegment segment now).2
      accepted :=
        if (parseSegment segment).isSome then
          Function.update logged.accepted segment.getRequestId
            (logged.accepted segment.getRequestId ++ [segment])
        else logged.accepted }

/-- With its buffer, what was accepted for a request id is gone. -/
def keep (logged : Logged) (reassembler : TpReassembler) : Logged where
  reassembler := reassembler
  accepted requestId :=
    if reassembler.buffers[requestId]?.isSome then logged.accepted requestId else []

def step : Runs.Step Logged Call Message := fun logged call =>
  match call with
  | .addSegment segment now => some (logged.addSegment segment now, [])
  | .reassemble requestId =>
    some (logged.keep (logged.reassembler.reassemble requestId).2,
      (logged.reassembler.reassemble requestId).1.toList)
  | .cleanupExpired now => some (logged.keep (logged.reassembler.cleanupExpired now), [])

/-- What a buffer holds is what was accepted. -/
structure Holds (accepted : List Message) (requestId : RequestId) (buffer : ReassemblyBuffer) :
    Prop where
  segments : ∀ offset : UInt32, buffer.segments[offset]? = latest accepted offset.toNat
  header : ∃ first, accepted.head? = some first ∧ (parseSegment first).isSome ∧
    first.getRequestId = requestId ∧ buffer.serviceId = first.serviceId ∧
    buffer.instanceId = first.instanceId ∧ buffer.methodId = first.methodId ∧
    buffer.clientId = first.clientId ∧ buffer.interfaceVersion = first.interfaceVersion ∧
    buffer.returnCode = first.returnCode ∧ buffer.messageType = first.messageType

def Faithful (logged : Logged) : Prop :=
  ∀ requestId : RequestId,
    match logged.reassembler.buffers[requestId]? with
    | none => logged.accepted requestId = []
    | some buffer => Holds (logged.accepted requestId) requestId buffer

theorem offset_eq_iff (tpHeader : TpHeader) (offset : UInt32) :
    UInt32.ofNat tpHeader.offset.toNat = offset ↔ tpHeader.offset.toNat = offset.toNat := by
  have small := tpHeader.offset.isLt
  rw [← UInt32.toNat_inj, UInt32.toNat_ofNat_of_lt' (by change _ < 2 ^ 32; omega)]

/-- A stored segment is the latest for its offset. -/
theorem segments_store {accepted : List Message} {buffer : ReassemblyBuffer} {segment : Message}
    {tpHeader : TpHeader} {data : PayloadData}
    (held : ∀ offset : UInt32, buffer.segments[offset]? = latest accepted offset.toNat)
    (parsed : parseSegment segment = some (tpHeader, data)) (offset : UInt32) :
    (buffer.store tpHeader data).segments[offset]? =
      latest (accepted ++ [segment]) offset.toNat := by
  rw [ReassemblyBuffer.store_segments, Maps.lookup_insert, latest_snoc, held]
  by_cases same : tpHeader.offset.toNat = offset.toNat
  · rw [if_pos ((offset_eq_iff tpHeader offset).mpr same),
      dataAt_eq_some.mpr ⟨tpHeader, parsed, same⟩, Option.some_or]
  · have other : dataAt offset.toNat segment = none := by
      simp [dataAt, parsed, same]
    rw [if_neg (mt (offset_eq_iff tpHeader offset).mp same), other, Option.none_or]

theorem Holds.store {accepted : List Message} {requestId : RequestId} {buffer : ReassemblyBuffer}
    (holds : Holds accepted requestId buffer) {segment : Message} {tpHeader : TpHeader}
    {data : PayloadData} (parsed : parseSegment segment = some (tpHeader, data)) :
    Holds (accepted ++ [segment]) requestId (buffer.store tpHeader data) := by
  refine ⟨segments_store holds.segments parsed, ?_⟩
  obtain ⟨first, head, rest⟩ := holds.header
  refine ⟨first, by rw [List.head?_append, head, Option.some_or], ?_⟩
  unfold ReassemblyBuffer.store
  split <;> exact rest

theorem holds_first {segment : Message} {tpHeader : TpHeader} {data : PayloadData}
    (parsed : parseSegment segment = some (tpHeader, data)) (now : TimePoint) :
    Holds [segment] segment.getRequestId
      ((ReassemblyBuffer.initBuffer {} segment now).store tpHeader data) := by
  have held (offset : UInt32) : (ReassemblyBuffer.initBuffer {} segment now).segments[offset]? =
      latest [] offset.toNat := rfl
  refine ⟨segments_store held parsed, segment, rfl, by rw [parsed]; rfl, rfl, ?_⟩
  unfold ReassemblyBuffer.store
  split <;> exact ⟨rfl, rfl, rfl, rfl, rfl, rfl, rfl⟩

theorem Holds.filled {accepted : List Message} {requestId : RequestId} {buffer : ReassemblyBuffer}
    (holds : Holds accepted requestId buffer) : buffer.segments.isEmpty = false := by
  obtain ⟨first, head, accepts, -⟩ := holds.header
  obtain ⟨⟨tpHeader, data⟩, parsed⟩ := Option.isSome_iff_exists.mp accepts
  have stored := latest_of_mem (List.mem_of_head? head) parsed
  have key := (offset_eq_iff tpHeader _).mp rfl
  rw [key, ← holds.segments] at stored
  by_contra empty
  rw [Bool.not_eq_false, Std.ExtTreeMap.isEmpty_iff] at empty
  rw [empty] at stored
  simp at stored

theorem holds_addSegment {logged : Logged} (faithful : Faithful logged) {segment : Message}
    {tpHeader : TpHeader} {data : PayloadData}
    (parsed : parseSegment segment = some (tpHeader, data)) (now : TimePoint) :
    Holds (logged.accepted segment.getRequestId ++ [segment]) segment.getRequestId
      ((logged.reassembler.openBuffer segment now).store tpHeader data) := by
  have before := faithful segment.getRequestId
  unfold openBuffer
  cases found : logged.reassembler.buffers[segment.getRequestId]? with
  | none =>
    rw [found] at before
    rw [before]
    exact holds_first parsed now
  | some buffer =>
    rw [found] at before
    simp only [Option.getD_some, before.filled]
    exact before.store parsed

theorem faithful_addSegment {logged : Logged} (faithful : Faithful logged)
    (segment : Option Message) (now : TimePoint) : Faithful (logged.addSegment segment now) := by
  cases segment with
  | none => exact faithful
  | some segment =>
    cases parsed : parseSegment segment with
    | none =>
      have same : logged.addSegment (some segment) now = logged := by
        simp [addSegment, parsed, addSegment_rejected now parsed]
      rw [same]
      exact faithful
    | some parts =>
      obtain ⟨tpHeader, data⟩ := parts
      intro requestId
      simp only [addSegment, parsed, addSegment_accepted parsed, Option.isSome_some, if_true,
        Maps.lookup_insert]
      by_cases own : segment.getRequestId = requestId
      · subst own
        rw [if_pos rfl, Function.update_self]
        exact holds_addSegment faithful parsed now
      · rw [if_neg own, Function.update_of_ne (Ne.symm own)]
        exact faithful requestId

/-- Where buffers only go, what is left holds what it held. -/
theorem faithful_keep {logged : Logged} (faithful : Faithful logged) {reassembler : TpReassembler}
    (only : ∀ (requestId : RequestId) (buffer : ReassemblyBuffer),
      reassembler.buffers[requestId]? = some buffer →
        logged.reassembler.buffers[requestId]? = some buffer) :
    Faithful (logged.keep reassembler) := by
  intro requestId
  have before := faithful requestId
  simp only [keep]
  cases found : reassembler.buffers[requestId]? with
  | none => rfl
  | some buffer =>
    rw [only requestId buffer found] at before
    exact before

theorem faithful_step {logged next : Logged} {call : Call} {emitted : List Message}
    (faithful : Faithful logged) (stepped : step logged call = some (next, emitted)) :
    Faithful next := by
  cases call with
  | addSegment segment now =>
    obtain ⟨rfl, -⟩ := Prod.mk.inj (Option.some.inj stepped)
    exact faithful_addSegment faithful segment now
  | reassemble requestId =>
    obtain ⟨rfl, -⟩ := Prod.mk.inj (Option.some.inj stepped)
    exact faithful_keep faithful fun _ _ => buffers_reassemble
  | cleanupExpired now =>
    obtain ⟨rfl, -⟩ := Prod.mk.inj (Option.some.inj stepped)
    exact faithful_keep faithful fun _ _ => buffers_cleanupExpired

theorem faithful_run {timeout : Milliseconds} {calls : List Call} {emitted : List Message}
    {logged : Logged} (run : Runs.Run step (start timeout) calls emitted logged) :
    Faithful logged := by
  apply run.invariant (fun _ _ logged => Faithful logged)
  · intro requestId
    simp [start]
  · intro _ _ _ _ _ _ before _ stepped
    exact faithful_step before stepped

theorem Holds.mem_chain {accepted : List Message} {requestId : RequestId}
    {buffer : ReassemblyBuffer} (holds : Holds accepted requestId buffer) (offset : Nat)
    (data : PayloadData) :
    (offset, data) ∈ buffer.chain ↔ latest accepted offset = some data := by
  simp only [ReassemblyBuffer.chain, List.mem_map, Prod.exists, Prod.mk.injEq,
    Std.ExtTreeMap.mem_toList_iff_getElem?_eq_some, holds.segments]
  constructor
  · rintro ⟨key, stored, found, rfl, rfl⟩
    exact found
  · intro found
    have small := latest_small found
    have key : (UInt32.ofNat offset).toNat = offset :=
      UInt32.toNat_ofNat_of_lt' (by change offset < 2 ^ 32; omega)
    exact ⟨UInt32.ofNat offset, data, by rw [key]; exact found, key, rfl⟩

theorem Holds.chain_ne_nil {accepted : List Message} {requestId : RequestId}
    {buffer : ReassemblyBuffer} (holds : Holds accepted requestId buffer) : buffer.chain ≠ [] := by
  intro empty
  have listed : buffer.segments.toList = [] := List.map_eq_nil_iff.mp empty
  have none := Std.ExtTreeMap.isEmpty_toList (t := buffer.segments)
  rw [listed, holds.filled] at none
  cases none

theorem originalType_of_parsed {segment : Message} (accepts : (parseSegment segment).isSome) :
    originalType segment.messageType ∈ baseTypes ∧
      counterpart (originalType segment.messageType) = segment.messageType := by
  have tp : segment.isTpMessage = true := by
    by_contra other
    rw [Bool.not_eq_true] at other
    simp [parseSegment, other] at accepts
  simp only [Message.isTpMessage, Bool.or_eq_true, decide_eq_true_iff] at tp
  rcases tp with (((request | noReturn) | notification) | response) | error
  · rw [request]; decide
  · rw [noReturn]; decide
  · rw [notification]; decide
  · rw [response]; decide
  · rw [error]; decide

theorem session_of_requestId (segment : Message) :
    (segment.getRequestId &&& 0xFFFF).toUInt16 = segment.sessionId := by
  have small := segment.sessionId.toNat_lt
  apply UInt16.toNat_inj.mp
  rw [UInt32.toNat_toUInt16, UInt32.toNat_and, Message.getRequestId_toNat]
  change (_ &&& 2 ^ 16 - 1) % 2 ^ 16 = _
  rw [Nat.and_two_pow_sub_one_eq_mod]
  omega

/-- What is put together from a complete buffer is what was accepted. -/
theorem Holds.rebuilt {accepted : List Message} {requestId : RequestId} {buffer : ReassemblyBuffer}
    (holds : Holds accepted requestId buffer) (complete : buffer.complete = true) :
    Rebuilt accepted requestId (rebuild buffer requestId) := by
  have chain : Fragments.chainEnd 0 buffer.chain = some buffer.totalSize := by
    simp only [ReassemblyBuffer.complete, Bool.and_eq_true, beq_iff_eq] at complete
    exact complete.2
  obtain ⟨first, head, accepts, own, service, inst, method, client, version, code, type⟩ :=
    holds.header
  constructor
  · refine ⟨buffer.chain, buffer.chain_sorted, holds.mem_chain, ?_,
      Fragments.chainEnd_adjacent chain, ?_⟩
    · obtain ⟨⟨offset, data⟩, later, listed⟩ := List.exists_cons_of_ne_nil holds.chain_ne_nil
      have start : offset = 0 := Fragments.chainEnd_head chain (by rw [listed]; rfl)
      exact ⟨data, by rw [listed, start]; rfl⟩
    · change buffer.segments.toList.flatMap Prod.snd = _
      rw [ReassemblyBuffer.chain, List.flatMap_map]
  · obtain ⟨base, mapped⟩ := originalType_of_parsed accepts
    rw [← type] at base mapped
    exact ⟨first, head, service, inst, method, version, code, base, mapped.trans type⟩
  · rw [← own, Message.getRequestId_inj]
    exact ⟨client, session_of_requestId first⟩

theorem reassemble_isSome (reassembler : TpReassembler) (requestId : RequestId) :
    (reassembler.reassemble requestId).1.isSome = reassembler.isComplete requestId := by
  unfold reassemble isComplete isCompleteUnlocked
  cases reassembler.buffers[requestId]? with
  | none => rfl
  | some buffer => cases complete : buffer.complete <;> simp [complete]

theorem reassemble_none {reassembler : TpReassembler} {requestId : RequestId}
    (nothing : (reassembler.reassemble requestId).1 = none) :
    (reassembler.reassemble requestId).2 = reassembler := by
  unfold reassemble at nothing ⊢
  split
  · rfl
  · rename_i found
    rw [found] at nothing
    split
    · rfl
    · rename_i complete
      simp [complete] at nothing

theorem reassemble_removes {reassembler : TpReassembler} {requestId : RequestId}
    {message : Message} (returned : (reassembler.reassemble requestId).1 = some message)
    (other : RequestId) :
    (reassembler.reassemble requestId).2.buffers[other]? =
      if requestId = other then none else reassembler.buffers[other]? := by
  obtain ⟨buffer, found, complete, -⟩ := reassemble_eq_some.mp returned
  have done : reassembler.isCompleteUnlocked requestId = true := by
    rw [isCompleteUnlocked, found]
    exact complete
  have removed : (reassembler.reassemble requestId).2.buffers =
      reassembler.buffers.erase requestId := by
    simp only [reassemble, found, done]
    rfl
  rw [removed, Maps.lookup_erase]

/-- In every state that is reached, what is reassembled was sent, and only its buffer goes. -/
theorem reassemble_sound {timeout : Milliseconds} {calls : List Call} {emitted : List Message}
    {logged : Logged} (run : Runs.Run step (start timeout) calls emitted logged)
    (requestId : RequestId) :
    ((logged.reassembler.reassemble requestId).1.isSome =
        logged.reassembler.isComplete requestId) ∧
      (∀ message, (logged.reassembler.reassemble requestId).1 = some message →
        Rebuilt (logged.accepted requestId) requestId message ∧
          ∀ other, (logged.reassembler.reassemble requestId).2.buffers[other]? =
            if requestId = other then none else logged.reassembler.buffers[other]?) ∧
      ((logged.reassembler.reassemble requestId).1 = none →
        (logged.reassembler.reassemble requestId).2 = logged.reassembler) := by
  refine ⟨reassemble_isSome _ _, ?_, reassemble_none⟩
  intro message returned
  refine ⟨?_, reassemble_removes returned⟩
  obtain ⟨buffer, found, complete, rfl⟩ := reassemble_eq_some.mp returned
  have holds := faithful_run run requestId
  rw [found] at holds
  exact holds.rebuilt complete

/-- The middle segment is sent twice, with other data; the last one carries none. -/
def resent : List Call :=
  [.addSegment (some (Traced.tpNotification 0x1111 0x0001 0 true [0xAA])) 0,
    .addSegment (some (Traced.tpNotification 0x1111 0x0001 1 true [0xBB])) 0,
    .addSegment none 0,
    .addSegment (some (Traced.tpNotification 0x1111 0x0001 1 true [0xCC])) 1,
    .addSegment (some (Traced.tpNotification 0x1111 0x0001 2 false [])) 2]

theorem resent_reassembled : ∃ logged, Runs.Run step (start 5000) resent [] logged ∧
    ∃ message, (logged.reassembler.reassemble 0).1 = some message ∧
      message.payloadData = [0xAA, 0xCC] ∧ Rebuilt (logged.accepted 0) 0 message := by
  have executed : (Runs.execute step (fun _ _ => True) (start 5000) resent).map (fun reached =>
      (reached.2, (reached.1.reassembler.reassemble 0).1.map Message.payloadData)) =
        some ([], some [0xAA, 0xCC]) := by
    decide +kernel
  obtain ⟨⟨logged, emitted⟩, found, ends⟩ := Option.map_eq_some_iff.mp executed
  obtain ⟨rfl, payload⟩ := Prod.mk.inj ends
  obtain ⟨message, returned, data⟩ := Option.map_eq_some_iff.mp payload
  have run := Runs.guarded_of_execute found
  exact ⟨logged, run, message, returned, data, ((reassemble_sound run 0).2.1 message returned).1⟩

end Logged
end Msomeip.Tp
