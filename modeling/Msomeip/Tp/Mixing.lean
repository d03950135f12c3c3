import Msomeip.Library.Runs
import Msomeip.Tp.Reassembler

namespace Msomeip.Tp

open TpReassembler

def ReassemblyBuffer.Matches (buffer : ReassemblyBuffer) (segment : Message) : Prop :=
  segment.serviceId = buffer.serviceId ∧ segment.methodId = buffer.methodId ∧
    segment.messageType = buffer.messageType

theorem ReassemblyBuffer.matches_store {buffer : ReassemblyBuffer} {tpHeader : TpHeader}
    {data : PayloadData} {segment : Message} :
    (buffer.store tpHeader data).Matches segment ↔ buffer.Matches segment := by
  unfold store Matches
  split <;> rfl

instance (buffer : ReassemblyBuffer) (segment : Message) : Decidable (buffer.Matches segment) :=
  inferInstanceAs (Decidable (_ ∧ _ ∧ _))

def segmentData (segment : Message) : PayloadData :=
  match parseSegment segment with
  | some (_, data) => data
  | none => []

theorem segmentData_of_parsed {segment : Message} {tpHeader : TpHeader} {data : PayloadData}
    (parsed : parseSegment segment = some (tpHeader, data)) : segmentData segment = data := by
  simp [segmentData, parsed]

inductive Call
  | addSegment (segment : Message) (now : TimePoint)
  | reassemble (requestId : RequestId)
  | cleanupExpired (now : TimePoint)

/-- A reassembled message and the segments its payload was put together from. -/
structure Reassembled where
  message : Message
  parts : List Message
deriving DecidableEq

namespace Reassembled

def Unmixed (result : Reassembled) : Prop :=
  result.message.payloadData = result.parts.flatMap segmentData ∧
    ∀ part ∈ result.parts, segmentData part ≠ [] →
      part.serviceId = result.message.serviceId ∧ part.methodId = result.message.methodId ∧
        originalType part.messageType = result.message.messageType

end Reassembled

/-- A reassembler, with the segment that brought the data stored under each offset. -/
structure Traced where
  reassembler : TpReassembler
  source : RequestId → UInt32 → Message

namespace Traced

def start (timeout : Milliseconds) : Traced := ⟨{ timeout := timeout }, fun _ _ => {}⟩

def record (traced : Traced) (segment : Message) : RequestId → UInt32 → Message :=
  match parseSegment segment with
  | none => traced.source
  | some (tpHeader, _) => Function.update traced.source segment.getRequestId
      (Function.update (traced.source segment.getRequestId)
        (UInt32.ofNat tpHeader.offset.toNat) segment)

def parts (traced : Traced) (requestId : RequestId) : List Message :=
  match traced.reassembler.buffers[requestId]? with
  | none => []
  | some buffer => buffer.segments.toList.map fun (offset, _) => traced.source requestId offset

def step : Runs.Step Traced Call Reassembled := fun traced call =>
  match call with
  | .addSegment segment now =>
    some ({ reassembler := (traced.reassembler.addSegment segment now).2
            source := traced.record segment }, [])
  | .reassemble requestId =>
    some ({ traced with reassembler := (traced.reassembler.reassemble requestId).2 },
      (traced.reassembler.reassemble requestId).1.toList.map (⟨·, traced.parts requestId⟩))
  | .cleanupExpired now =>
    some ({ traced with reassembler := traced.reassembler.cleanupExpired now }, [])

/-- A segment with data that meets stored segments belongs to their message. -/
def Fits (traced : Traced) : Call → Prop
  | .addSegment segment _ => ∀ buffer ∈ traced.reassembler.buffers[segment.getRequestId]?,
      buffer.segments.isEmpty = false → segmentData segment ≠ [] → buffer.Matches segment
  | _ => True

instance (traced : Traced) : (call : Call) → Decidable (traced.Fits call)
  | .addSegment segment _ => inferInstanceAs (Decidable
      (∀ buffer ∈ traced.reassembler.buffers[segment.getRequestId]?,
        buffer.segments.isEmpty = false → segmentData segment ≠ [] → buffer.Matches segment))
  | .reassemble _ | .cleanupExpired _ => .isTrue trivial

/-- The data stored under an offset came from an accepted segment of the run. -/
def Stored (calls : List Call) (source : UInt32 → Message) (buffer : ReassemblyBuffer) : Prop :=
  ∀ (offset : UInt32) (data : PayloadData), buffer.segments[offset]? = some data →
    (∃ tpHeader, parseSegment (source offset) = some (tpHeader, data)) ∧
      (∃ now, Call.addSegment (source offset) now ∈ calls) ∧
      (data ≠ [] → buffer.Matches (source offset))

def Sourced (calls : List Call) (traced : Traced) : Prop :=
  ∀ (requestId : RequestId) (buffer : ReassemblyBuffer),
    traced.reassembler.buffers[requestId]? = some buffer →
      Stored calls (traced.source requestId) buffer

theorem Stored.later {calls later : List Call} {source : UInt32 → Message}
    {buffer : ReassemblyBuffer} (stored : Stored calls source buffer) :
    Stored (calls ++ later) source buffer := by
  intro offset data found
  obtain ⟨parsed, ⟨now, member⟩, matching⟩ := stored offset data found
  exact ⟨parsed, ⟨now, List.mem_append_left _ member⟩, matching⟩

theorem Stored.store {calls : List Call} {source : UInt32 → Message} {buffer : ReassemblyBuffer}
    {segment : Message} {tpHeader : TpHeader} {data : PayloadData}
    (stored : Stored calls source buffer) (parsed : parseSegment segment = some (tpHeader, data))
    (belongs : data ≠ [] → buffer.Matches segment) (now : TimePoint) :
    Stored (calls ++ [.addSegment segment now])
      (Function.update source (UInt32.ofNat tpHeader.offset.toNat) segment)
      (buffer.store tpHeader data) := by
  intro offset piece found
  rw [ReassemblyBuffer.store_segments, Maps.lookup_insert] at found
  simp only [ReassemblyBuffer.matches_store]
  by_cases same : UInt32.ofNat tpHeader.offset.toNat = offset
  · subst same
    simp only [if_true, Option.some.injEq] at found
    subst found
    rw [Function.update_self]
    exact ⟨⟨tpHeader, parsed⟩, ⟨now, by simp⟩, belongs⟩
  · rw [if_neg same] at found
    rw [Function.update_of_ne (Ne.symm same)]
    exact stored.later offset piece found

theorem openBuffer_stored {calls : List Call} {traced : Traced} {segment : Message}
    {now : TimePoint} (sourced : Sourced calls traced)
    (fits : traced.Fits (.addSegment segment now)) :
    Stored calls (traced.source segment.getRequestId) (traced.reassembler.openBuffer segment now) ∧
      (segmentData segment ≠ [] →
        (traced.reassembler.openBuffer segment now).Matches segment) := by
  unfold openBuffer
  by_cases empty : (traced.reassembler.buffers[segment.getRequestId]?.getD {}).segments.isEmpty
  · simp only [empty, if_true]
    rw [Std.ExtTreeMap.isEmpty_iff] at empty
    constructor
    · intro offset data found
      simp [ReassemblyBuffer.initBuffer, empty] at found
    · exact fun _ => ⟨rfl, rfl, rfl⟩
  · simp only [empty]
    cases found : traced.reassembler.buffers[segment.getRequestId]? with
    | none => simp [found] at empty
    | some buffer =>
      simp only [found, Option.getD_some, Bool.not_eq_true] at empty ⊢
      exact ⟨sourced _ _ found, fits buffer found empty⟩

theorem sourced_addSegment {calls : List Call} {traced : Traced} {segment : Message}
    {now : TimePoint} (sourced : Sourced calls traced)
    (fits : traced.Fits (.addSegment segment now)) :
    Sourced (calls ++ [.addSegment segment now])
      { reassembler := (traced.reassembler.addSegment segment now).2
        source := traced.record segment } := by
  intro requestId buffer found
  dsimp only at found ⊢
  cases parsed : parseSegment segment with
  | none =>
    rw [addSegment_rejected now parsed] at found
    simp only [record, parsed]
    exact (sourced requestId buffer found).later
  | some accepted =>
    obtain ⟨tpHeader, data⟩ := accepted
    simp only [record, parsed]
    rw [addSegment_accepted parsed] at found
    simp only [Maps.lookup_insert] at found
    by_cases same : segment.getRequestId = requestId
    · subst same
      obtain ⟨opened, belongs⟩ := openBuffer_stored sourced fits
      simp only [if_true, Option.some.injEq] at found
      subst found
      rw [segmentData_of_parsed parsed] at belongs
      rw [Function.update_self]
      exact opened.store parsed belongs now
    · simp only [same, if_false] at found
      rw [Function.update_of_ne (Ne.symm same)]
      exact (sourced requestId buffer found).later

theorem sourced_step {calls : List Call} {traced next : Traced} {call : Call}
    {emitted : List Reassembled} (sourced : Sourced calls traced) (fits : traced.Fits call)
    (stepped : step traced call = some (next, emitted)) : Sourced (calls ++ [call]) next := by
  cases call with
  | addSegment segment now =>
    obtain ⟨rfl, -⟩ := Prod.mk.inj (Option.some.inj stepped)
    exact sourced_addSegment sourced fits
  | reassemble requestId =>
    obtain ⟨rfl, -⟩ := Prod.mk.inj (Option.some.inj stepped)
    intro other buffer found
    exact (sourced other buffer (buffers_reassemble found)).later
  | cleanupExpired now =>
    obtain ⟨rfl, -⟩ := Prod.mk.inj (Option.some.inj stepped)
    intro other buffer found
    exact (sourced other buffer (buffers_cleanupExpired found)).later

theorem rebuilt_unmixed {calls : List Call} {source : UInt32 → Message}
    {buffer : ReassemblyBuffer} (stored : Stored calls source buffer) (requestId : RequestId) :
    Reassembled.Unmixed ⟨rebuild buffer requestId,
      buffer.segments.toList.map fun (offset, _) => source offset⟩ := by
  constructor
  · change buffer.segments.toList.flatMap Prod.snd = _
    rw [List.flatMap_map]
    apply List.flatMap_congr
    intro entry member
    have found := Std.ExtTreeMap.mem_toList_iff_getElem?_eq_some.mp member
    obtain ⟨⟨tpHeader, parsed⟩, -⟩ := stored entry.1 entry.2 found
    exact (segmentData_of_parsed parsed).symm
  · intro part member filled
    obtain ⟨⟨offset, data⟩, inside, rfl⟩ := List.mem_map.mp member
    have found := Std.ExtTreeMap.mem_toList_iff_getElem?_eq_some.mp inside
    obtain ⟨⟨tpHeader, parsed⟩, -, belongs⟩ := stored offset data found
    rw [segmentData_of_parsed parsed] at filled
    obtain ⟨service, method, type⟩ := belongs filled
    exact ⟨service, method, congrArg originalType type⟩

theorem emitted_unmixed {calls : List Call} {traced next : Traced} {call : Call}
    {emitted : List Reassembled} (sourced : Sourced calls traced)
    (stepped : step traced call = some (next, emitted)) {result : Reassembled}
    (member : result ∈ emitted) :
    result.Unmixed ∧ ∀ part ∈ result.parts, ∃ now, Call.addSegment part now ∈ calls := by
  cases call with
  | addSegment segment now =>
    obtain ⟨-, rfl⟩ := Prod.mk.inj (Option.some.inj stepped)
    cases member
  | cleanupExpired now =>
    obtain ⟨-, rfl⟩ := Prod.mk.inj (Option.some.inj stepped)
    cases member
  | reassemble requestId =>
    obtain ⟨-, rfl⟩ := Prod.mk.inj (Option.some.inj stepped)
    obtain ⟨message, returned, rfl⟩ := List.mem_map.mp member
    rw [Option.mem_toList, reassemble_eq_some] at returned
    obtain ⟨buffer, found, -, rfl⟩ := returned
    have stored := sourced requestId buffer found
    simp only [parts, found]
    apply And.intro (rebuilt_unmixed stored requestId)
    intro part inside
    obtain ⟨⟨offset, data⟩, piece, rfl⟩ := List.mem_map.mp inside
    have held := Std.ExtTreeMap.mem_toList_iff_getElem?_eq_some.mp piece
    exact (stored offset data held).2.1

/-- While every segment with data fits the buffer it meets, no payload is spliced. -/
theorem reassembled_unmixed (timeout : Milliseconds) {calls : List Call}
    {results : List Reassembled} {traced : Traced}
    (guarded : Runs.Guarded step Fits (start timeout) calls results traced) :
    ∀ result ∈ results, result.Unmixed ∧
      ∀ part ∈ result.parts, ∃ now, Call.addSegment part now ∈ calls := by
  have kept : Sourced calls traced ∧ ∀ result ∈ results, result.Unmixed ∧
      ∀ part ∈ result.parts, ∃ now, Call.addSegment part now ∈ calls := by
    apply guarded.invariant (fun calls results traced => Sourced calls traced ∧
      ∀ result ∈ results, result.Unmixed ∧
        ∀ part ∈ result.parts, ∃ now, Call.addSegment part now ∈ calls)
    · have empty : Sourced [] (start timeout) := by
        intro requestId buffer found
        simp [start] at found
      exact ⟨empty, List.forall_mem_nil _⟩
    · intro calls results traced call next emitted holds fits stepped
      obtain ⟨sourced, earlier⟩ := holds
      apply And.intro (sourced_step sourced fits stepped)
      intro result member
      have known : result.Unmixed ∧
          ∀ part ∈ result.parts, ∃ now, Call.addSegment part now ∈ calls := by
        rcases List.mem_append.mp member with old | new
        · exact earlier result old
        · exact emitted_unmixed sourced stepped new
      apply And.intro known.1
      intro part inside
      obtain ⟨now, added⟩ := known.2 part inside
      exact ⟨now, List.mem_append_left _ added⟩
  exact kept.2

/-- A TP notification: like all notifications it carries no client and no session id. -/
def tpNotification (service : ServiceId) (event : EventId) (offset : UInt32) (more : Bool)
    (data : PayloadData) : Message :=
  ({ Message.createNotification service 0xFFFF event with messageType := .tpNotification }).setPayload
    ((TpHeader.ofOffset offset more).toNetwork ++ data)

def twoPublishers (second : ServiceId) : List Call :=
  [.addSegment (tpNotification 0x1111 0x0001 0 true [0xAA]) 0,
    .addSegment (tpNotification second 0x0001 1 true [0xBB]) 0,
    .addSegment (tpNotification 0x1111 0x0001 2 false []) 0,
    .reassemble 0]

def bothPublishers (second : ServiceId) : Reassembled where
  message := (Message.createNotification 0x1111 0xFFFF 0x0001).setPayload [0xAA, 0xBB]
  parts := [tpNotification 0x1111 0x0001 0 true [0xAA], tpNotification second 0x0001 1 true [0xBB],
    tpNotification 0x1111 0x0001 2 false []]

theorem samePublisher_unmixed : (bothPublishers 0x1111).Unmixed := by
  have run : ∃ traced, Runs.Guarded step Fits (start 5000) (twoPublishers 0x1111)
      [bothPublishers 0x1111] traced := Runs.exists_guarded (by decide +kernel)
  obtain ⟨traced, guarded⟩ := run
  exact (reassembled_unmixed 5000 guarded _ (by simp)).1

theorem twoPublishers_mixed : ¬ ∀ calls results traced,
    Runs.Run step (start 5000) calls results traced → ∀ result ∈ results, result.Unmixed := by
  intro all
  have mixed : ∃ traced, Runs.Run step (start 5000) (twoPublishers 0x2222)
      [bothPublishers 0x2222] traced := Runs.exists_guarded (by decide +kernel)
  obtain ⟨traced, run⟩ := mixed
  have service := ((all _ _ _ run _ (List.mem_singleton_self _)).2
    (tpNotification 0x2222 0x0001 1 true [0xBB]) (by simp [bothPublishers]) (by decide)).1
  revert service
  decide

end Traced
end Msomeip.Tp
