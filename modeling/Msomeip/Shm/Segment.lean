import Msomeip.Library.LittleEndian
import Msomeip.Shm.CommandQueue
import Msomeip.Shm.Registry

namespace Msomeip.Shm

/-- The shared memory, from `shm_data_` on. -/
abbrev Segment := Nat → UInt8

/-- The size of the structs `CommandQueue` and `ResponseQueue`. -/
def queueHeaderSize : Nat := 16

namespace Segment

/-- A word in the byte order of the machine. -/
def word (segment : Segment) (offset : Nat) : UInt32 :=
  LittleEndian.word32 (segment offset) (segment (offset + 1)) (segment (offset + 2))
    (segment (offset + 3))

def setWord (segment : Segment) (offset : Nat) (value : UInt32) : Segment :=
  Memory.write segment offset (LittleEndian.bytes32 value)

def cmdQueueOffset (segment : Segment) : Nat := (segment.word 16).toNat
def rspQueueOffset (segment : Segment) : Nat := (segment.word 24).toNat
def srOffset (segment : Segment) : Nat := (segment.word 28).toNat
def srSize (segment : Segment) : UInt32 := segment.word 32

/-- The first word behind those that say where the queues and the registry are. -/
def headerSize : Nat := 36

/-- The part of the memory that `send_command` works on. -/
def commands (segment : Segment) : Region :=
  let queue := segment.cmdQueueOffset
  { queue := ⟨segment.word queue, segment.word (queue + 4), segment.word (queue + 8),
      segment.word (queue + 12)⟩
    queueData := fun index => segment (queue + queueHeaderSize + index) }

/-- The part that `process_responses` works on. -/
def responses (segment : Segment) : ResponseRegion :=
  let queue := segment.rspQueueOffset
  { queue := ⟨segment.word queue, segment.word (queue + 4), segment.word (queue + 8),
      segment.word (queue + 12)⟩
    queueData := fun index => segment (queue + queueHeaderSize + index) }

/-- The part that `lookup_service_endpoints` reads. -/
def registry (segment : Segment) : RegistryRegion :=
  let sr := segment.srOffset
  ⟨segment.srSize, segment.word sr, fun index => segment (sr + registryHeaderSize + index)⟩

/-- The writes of `send_command`, one after the other. -/
def push (segment : Segment) (queue : Nat) (agent : ShmAgent) (request : Request) : Segment :=
  let offset := (segment.word (queue + 8) * UInt32.ofNat commandSize).toNat
  let segment : Segment := writeCommand segment (queue + queueHeaderSize + offset) agent.sequence
    agent.clientId request.1 request.2
  let segment : Segment := segment.setWord (queue + 8)
    ((segment.word (queue + 8) + 1) % segment.word (queue + 12))
  segment.setWord queue (segment.word queue + 1)

def sendCommand (segment : Segment) (agent : ShmAgent) (locked : Bool) (request : Request) :
    Bool × Segment × ShmAgent :=
  if !agent.connected || !locked then (false, segment, agent)
  else
    let queue := segment.cmdQueueOffset
    if segment.word queue ≥ segment.word (queue + 12) then (false, segment, agent)
    else (true, segment.push queue agent request, agent.number)

/-- One turn of the loop of `process_responses`. -/
def handleResponse (handlers : Handlers) (queue : Nat) (segment : Segment) (beyond : Nat → UInt8) :
    Handled × Segment :=
  let readIndex := segment.word (queue + 4)
  let read := readResponse (fun index => segment (queue + queueHeaderSize + index)) beyond
    (readIndex * UInt32.ofNat responseSize).toNat
  let segment : Segment := segment.setWord (queue + 4) ((readIndex + 1) % segment.word (queue + 12))
  (⟨readIndex, read.reads, read.val, dispatch handlers read.val⟩,
    segment.setWord queue (segment.word queue - 1))

def processLoop (handlers : Handlers) (queue : Nat) (beyond : Nat → Nat → UInt8) :
    Nat → Segment → List Handled × Segment
  | 0, segment => ([], segment)
  | count + 1, segment =>
    let (handled, segment) := handleResponse handlers queue segment (beyond count)
    let (later, segment) := processLoop handlers queue beyond count segment
    (handled :: later, segment)

def processResponses (connected locked : Bool) (handlers : Handlers) (segment : Segment)
    (beyond : Nat → Nat → UInt8) : List Handled × Segment :=
  if !connected || !locked then ([], segment)
  else
    let queue := segment.rspQueueOffset
    processLoop handlers queue beyond (segment.word queue).toNat segment

theorem setWord_outside (segment : Segment) {offset address : Nat} (value : UInt32)
    (outside : address < offset ∨ offset + 4 ≤ address) :
    segment.setWord offset value address = segment address :=
  Memory.write_outside (by simpa using outside)

theorem word_congr {segment other : Segment} {offset : Nat}
    (same : ∀ address, offset ≤ address → address < offset + 4 → segment address = other address) :
    segment.word offset = other.word offset := by
  unfold word
  rw [same offset (by omega) (by omega), same (offset + 1) (by omega) (by omega),
    same (offset + 2) (by omega) (by omega), same (offset + 3) (by omega) (by omega)]

theorem word_setWord (segment : Segment) (offset : Nat) (value : UInt32) :
    (segment.setWord offset value).word offset = value := by
  have byte : ∀ index (inside : index < (LittleEndian.bytes32 value).length),
      segment.setWord offset value (offset + index) = (LittleEndian.bytes32 value)[index] :=
    fun index inside => Memory.write_inside segment offset _ inside
  have first := byte 0 (by simp)
  rw [Nat.add_zero] at first
  unfold word
  rw [first, byte 1 (by simp), byte 2 (by simp), byte 3 (by simp)]
  exact LittleEndian.word32_bytes value

theorem word_setWord_apart (segment : Segment) {offset other : Nat} (value : UInt32)
    (apart : other + 4 ≤ offset ∨ offset + 4 ≤ other) :
    (segment.setWord offset value).word other = segment.word other := by
  apply word_congr
  intro address above below
  exact segment.setWord_outside value (by omega)

theorem writeCommand_shift (segment : Segment) (base offset : Nat) (sequence clientId : UInt32)
    (type : RouteCommandType) (payload : PayloadData) :
    (fun index => writeCommand segment (base + offset) sequence clientId type payload
      (base + index)) =
      writeCommand (fun index => segment (base + index)) offset sequence clientId type payload := by
  unfold writeCommand
  simp only [Nat.add_assoc]
  split
  · simp only [Memory.write_shift]
  · simp only [Memory.write_shift]

/-- What `send_command` writes lies in its part of the memory. -/
theorem push_outside {segment : Segment} {queue : Nat} {agent : ShmAgent} {request : Request}
    (fits : request.2.length ≤ payloadSize) {address last : Nat}
    (inside : (segment.word (queue + 8) * UInt32.ofNat commandSize).toNat + commandSize ≤ last)
    (outside : address < queue ∨ queue + queueHeaderSize + last ≤ address) :
    segment.push queue agent request address = segment address := by
  unfold push
  rw [setWord_outside _ _ (by unfold queueHeaderSize at outside; omega),
    setWord_outside _ _ (by unfold queueHeaderSize at outside; omega),
    writeCommand_eq _ _ _ _ _ fits]
  apply Memory.write_outside
  simp only [List.length_append, BigEndian.bytes32_length, BigEndian.bytes16_length,
    List.length_singleton]
  unfold commandSize queueHeaderSize at *
  omega

theorem writeCommand_before (segment : Segment) {offset address : Nat} (sequence clientId : UInt32)
    (type : RouteCommandType) (payload : PayloadData) (before : address < offset) :
    writeCommand segment offset sequence clientId type payload address = segment address := by
  have outside : ∀ (memory : Nat → UInt8) {place : Nat} (cells : List UInt8), offset ≤ place →
      Memory.write memory place cells address = memory address :=
    fun memory place cells behind => Memory.write_outside (.inl (by omega))
  unfold writeCommand
  split
  · rw [outside _ _ (by omega), outside _ _ (by omega), outside _ _ (by omega),
      outside _ _ (Nat.le_refl _)]
  · rw [outside _ _ (by omega), outside _ _ (by omega), outside _ _ (by omega),
      outside _ _ (by omega), outside _ _ (Nat.le_refl _)]

theorem word_writeCommand (segment : Segment) {offset other : Nat} (sequence clientId : UInt32)
    (type : RouteCommandType) (payload : PayloadData) (before : other + 4 ≤ offset) :
    word (writeCommand segment offset sequence clientId type payload) other = segment.word other := by
  apply word_congr
  intro address above below
  exact segment.writeCommand_before sequence clientId type payload (by omega)

theorem push_before (segment : Segment) {queue address : Nat} (agent : ShmAgent) (request : Request)
    (before : address < queue) : segment.push queue agent request address = segment address := by
  unfold push
  rw [setWord_outside _ _ (.inl before), setWord_outside _ _ (by omega)]
  exact segment.writeCommand_before _ _ _ _ (by omega)

/-- What `send_command` does to its part of the memory. -/
theorem commands_push {segment : Segment} (behind : headerSize ≤ segment.cmdQueueOffset)
    (agent : ShmAgent) (request : Request) :
    (segment.push segment.cmdQueueOffset agent request).commands =
      ((segment.commands.write agent agent.sequence request).advance).increment := by
  have place : (segment.push segment.cmdQueueOffset agent request).cmdQueueOffset =
      segment.cmdQueueOffset := by
    apply congrArg UInt32.toNat
    apply word_congr
    intro address above below
    exact segment.push_before agent request (by unfold headerSize at behind; omega)
  unfold commands
  rw [place]
  generalize segment.cmdQueueOffset = queue at behind
  simp only [push, Region.write, Region.advance, Region.increment, Region.mk.injEq,
    CommandQueue.mk.injEq]
  set offset := (segment.word (queue + 8) * UInt32.ofNat commandSize).toNat
  have shifted := segment.writeCommand_shift (queue + queueHeaderSize) offset agent.sequence
    agent.clientId request.1 request.2
  have kept : ∀ place ≤ 12, word (writeCommand segment (queue + queueHeaderSize + offset)
      agent.sequence agent.clientId request.1 request.2) (queue + place) =
        segment.word (queue + place) := by
    intro place small
    apply word_writeCommand
    unfold queueHeaderSize
    omega
  generalize writeCommand segment (queue + queueHeaderSize + offset) agent.sequence
    agent.clientId request.1 request.2 = written at kept shifted ⊢
  have count := kept 0 (by omega)
  rw [Nat.add_zero] at count
  refine ⟨⟨?_, ?_, ?_, ?_⟩, ?_⟩
  · rw [word_setWord, word_setWord_apart _ _ (by omega), count]
  · rw [word_setWord_apart _ _ (by omega), word_setWord_apart _ _ (by omega), kept 4 (by omega)]
  · rw [word_setWord_apart _ _ (by omega), word_setWord, kept 8 (by omega), kept 12 (by omega)]
  · rw [word_setWord_apart _ _ (by omega), word_setWord_apart _ _ (by omega), kept 12 (by omega)]
  · rw [← shifted]
    funext index
    unfold queueHeaderSize
    rw [setWord_outside _ _ (by omega), setWord_outside _ _ (by omega)]

theorem handleResponse_outside (handlers : Handlers) {queue : Nat} (segment : Segment)
    (beyond : Nat → UInt8) {address : Nat} (outside : address < queue ∨ queue + 8 ≤ address) :
    (handleResponse handlers queue segment beyond).2 address = segment address := by
  simp only [handleResponse]
  rw [setWord_outside _ _ (by omega), setWord_outside _ _ (by omega)]

theorem processLoop_outside (handlers : Handlers) {queue : Nat} (beyond : Nat → Nat → UInt8)
    {count : Nat} (segment : Segment) {address : Nat}
    (outside : address < queue ∨ queue + 8 ≤ address) :
    (processLoop handlers queue beyond count segment).2 address = segment address := by
  induction count generalizing segment with
  | zero => rfl
  | succ count ih =>
    simp only [processLoop]
    rw [ih, handleResponse_outside _ _ _ outside]

/-- `process_responses` writes nothing but the count and the read index of its queue. -/
theorem processResponses_outside (connected locked : Bool) (handlers : Handlers)
    (segment : Segment) (beyond : Nat → Nat → UInt8) {address : Nat}
    (outside : address < segment.rspQueueOffset ∨ segment.rspQueueOffset + 8 ≤ address) :
    (segment.processResponses connected locked handlers beyond).2 address = segment address := by
  unfold processResponses
  split
  · rfl
  · exact processLoop_outside _ _ _ outside

theorem responses_handleResponse (handlers : Handlers) {segment : Segment}
    (behind : headerSize ≤ segment.rspQueueOffset) (beyond : Nat → UInt8) :
    (handleResponse handlers segment.rspQueueOffset segment beyond).1 =
        (Shm.handleResponse handlers segment.responses beyond).1 ∧
      (handleResponse handlers segment.rspQueueOffset segment beyond).2.responses =
        (Shm.handleResponse handlers segment.responses beyond).2 ∧
      (handleResponse handlers segment.rspQueueOffset segment beyond).2.rspQueueOffset =
        segment.rspQueueOffset := by
  have place : (handleResponse handlers segment.rspQueueOffset segment beyond).2.rspQueueOffset =
      segment.rspQueueOffset := by
    apply congrArg UInt32.toNat
    apply word_congr
    intro address above below
    exact handleResponse_outside _ _ _ (by unfold headerSize at behind; omega)
  refine ⟨rfl, ?_, place⟩
  unfold responses
  rw [place]
  generalize segment.rspQueueOffset = queue at behind
  simp only [handleResponse, Shm.handleResponse, ResponseRegion.mk.injEq, ResponseQueue.mk.injEq]
  refine ⟨⟨?_, ?_, ?_, ?_⟩, ?_⟩
  · rw [word_setWord, word_setWord_apart _ _ (by omega)]
  · rw [word_setWord_apart _ _ (by omega), word_setWord]
  · rw [word_setWord_apart _ _ (by omega), word_setWord_apart _ _ (by omega)]
  · rw [word_setWord_apart _ _ (by omega), word_setWord_apart _ _ (by omega)]
  · funext index
    unfold queueHeaderSize
    rw [setWord_outside _ _ (by omega), setWord_outside _ _ (by omega)]

/-- What `process_responses` does to its part of the memory. -/
theorem responses_processResponses (connected locked : Bool) (handlers : Handlers)
    {segment : Segment} (behind : headerSize ≤ segment.rspQueueOffset)
    (beyond : Nat → Nat → UInt8) :
    (segment.processResponses connected locked handlers beyond).1 =
        (Shm.processResponses connected locked handlers segment.responses beyond).1 ∧
      (segment.processResponses connected locked handlers beyond).2.responses =
        (Shm.processResponses connected locked handlers segment.responses beyond).2 := by
  have loop : ∀ count (segment : Segment), headerSize ≤ segment.rspQueueOffset →
      (processLoop handlers segment.rspQueueOffset beyond count segment).1 =
          (Shm.processLoop handlers beyond count segment.responses).1 ∧
        (processLoop handlers segment.rspQueueOffset beyond count segment).2.responses =
          (Shm.processLoop handlers beyond count segment.responses).2 := by
    intro count
    induction count with
    | zero => exact fun _ _ => ⟨rfl, rfl⟩
    | succ count ih =>
      intro segment behind
      obtain ⟨handled, after, place⟩ := responses_handleResponse handlers behind (beyond count)
      have later := ih (handleResponse handlers segment.rspQueueOffset segment (beyond count)).2
        (behind.trans place.ge)
      rw [place, after] at later
      simp only [processLoop, Shm.processLoop]
      exact ⟨by rw [handled, later.1], later.2⟩
  unfold processResponses Shm.processResponses
  split
  · exact ⟨rfl, rfl⟩
  · exact loop _ segment behind

/-- Where the daemon has put the queues and the registry, and what it has put there: the commands
    that wait, and the records of the services, behind which there may be room for more. -/
structure Laid (segment : Segment) (records : List ServiceRecord) (waiting : List Command) :
    Prop where
  commandsBehind : headerSize ≤ segment.cmdQueueOffset
  responsesBehind : headerSize ≤ segment.rspQueueOffset
  queuesApart :
    segment.cmdQueueOffset + queueHeaderSize +
        commandSize * segment.commands.queue.capacity.toNat ≤ segment.rspQueueOffset ∨
      segment.rspQueueOffset + queueHeaderSize ≤ segment.cmdQueueOffset
  commandsApart :
    segment.cmdQueueOffset + queueHeaderSize +
        commandSize * segment.commands.queue.capacity.toNat ≤ segment.srOffset ∨
      segment.srOffset + segment.srSize.toNat ≤ segment.cmdQueueOffset
  responsesApart :
    segment.rspQueueOffset + queueHeaderSize ≤ segment.srOffset ∨
      segment.srOffset + segment.srSize.toNat ≤ segment.rspQueueOffset
  holds : segment.commands.Holds waiting waiting.length waiting.length
  size : registryHeaderSize + (records.flatMap ServiceRecord.encode).length ≤
    segment.srSize.toNat
  count : segment.registry.count.toNat = records.length
  published : Tracked.Holds segment.registry.srData 0 (records.flatMap ServiceRecord.encode)

/-- Where the words at the front, the queue of the commands and the registry are left alone. -/
structure Kept (segment after : Segment) : Prop where
  header : ∀ address < headerSize, after address = segment address
  registry : ∀ address, segment.srOffset ≤ address →
    address < segment.srOffset + segment.srSize.toNat → after address = segment address

section Kept

variable {segment after : Segment} (kept : Kept segment after)
include kept

theorem Kept.word {offset : Nat} (inside : offset + 4 ≤ headerSize) :
    after.word offset = segment.word offset := by
  apply word_congr
  intro address above below
  exact kept.header address (by omega)

theorem Kept.cmdQueueOffset : after.cmdQueueOffset = segment.cmdQueueOffset :=
  congrArg UInt32.toNat (kept.word (by decide))

theorem Kept.rspQueueOffset : after.rspQueueOffset = segment.rspQueueOffset :=
  congrArg UInt32.toNat (kept.word (by decide))

theorem Kept.srOffset : after.srOffset = segment.srOffset :=
  congrArg UInt32.toNat (kept.word (by decide))

theorem Kept.srSize : after.srSize = segment.srSize := kept.word (by decide)

/-- The memory stays laid out where the registry is kept and the queue holds what it should. -/
theorem Laid.still {records : List ServiceRecord} {waiting more : List Command}
    (laid : Laid segment records waiting)
    (capacity : after.commands.queue.capacity = segment.commands.queue.capacity)
    (holds : after.commands.Holds more more.length more.length) : Laid after records more := by
  have small := laid.size
  have count : after.registry.count = segment.registry.count := by
    simp only [registry, kept.srOffset]
    apply word_congr
    intro address above below
    exact kept.registry address above (by unfold registryHeaderSize at small; omega)
  constructor
  · rw [kept.cmdQueueOffset]
    exact laid.commandsBehind
  · rw [kept.rspQueueOffset]
    exact laid.responsesBehind
  · rw [kept.cmdQueueOffset, kept.rspQueueOffset, capacity]
    exact laid.queuesApart
  · rw [kept.cmdQueueOffset, kept.srOffset, kept.srSize, capacity]
    exact laid.commandsApart
  · rw [kept.rspQueueOffset, kept.srOffset, kept.srSize]
    exact laid.responsesApart
  · exact holds
  · rw [kept.srSize]
    exact laid.size
  · rw [count]
    exact laid.count
  · rw [Tracked.holds_iff]
    intro index inside
    rw [← Tracked.holds_iff.mp laid.published index inside]
    simp only [registry, kept.srOffset]
    exact kept.registry _ (by omega) (by unfold registryHeaderSize at *; omega)

end Kept

theorem kept_push {segment : Segment} {records : List ServiceRecord} {waiting : List Command}
    (laid : Laid segment records waiting) (agent : ShmAgent) {request : Request}
    (fits : request.2.length ≤ payloadSize) :
    Kept segment (segment.push segment.cmdQueueOffset agent request) := by
  have behind := laid.commandsBehind
  have apart := laid.commandsApart
  have tail := laid.holds.tail_lt
  have offset := laid.holds.offset
  have slot := Nat.mul_le_mul_left commandSize (Nat.succ_le_of_lt tail)
  rw [Nat.mul_succ, ← offset] at slot
  constructor
  · intro address inside
    exact push_outside fits slot (.inl (by omega))
  · intro address above below
    apply push_outside fits slot
    rcases apart with before | after
    · exact .inr (before.trans above)
    · exact .inl (by omega)

/-- The queue of the commands depends on its words and its slots only. -/
theorem holds_congr {region other : Region} {waiting : List Command} {used counted : Nat}
    (holds : region.Holds waiting used counted) (queue : other.queue = region.queue)
    (slots : ∀ index < commandSize * region.queue.capacity.toNat,
      other.queueData index = region.queueData index) : other.Holds waiting used counted := by
  obtain ⟨fits, read, room, pending, tail, count⟩ := holds
  have positive : 0 < region.queue.capacity.toNat := by omega
  have slot : ∀ index < region.queue.capacity.toNat, other.slot index = region.slot index := by
    intro index inside
    have last := Nat.mul_le_mul_left commandSize (Nat.succ_le_of_lt inside)
    rw [Nat.mul_succ] at last
    exact Memory.readAt_congr fun place small => slots _ (by omega)
  constructor
  · rwa [queue]
  · rwa [queue]
  · rwa [queue]
  · rw [← pending, Region.pending, Region.pending, queue]
    apply Ring.contents_congr
    intro index _
    rw [slot _ (Nat.mod_lt _ positive)]
  · rwa [queue]
  · rwa [queue]

theorem laid_processResponses {segment : Segment} {records : List ServiceRecord}
    {waiting : List Command} (laid : Laid segment records waiting) (connected locked : Bool)
    (handlers : Handlers) (beyond : Nat → Nat → UInt8) :
    Laid (segment.processResponses connected locked handlers beyond).2 records waiting := by
  set after := (segment.processResponses connected locked handlers beyond).2
  have behind := laid.responsesBehind
  have apart := laid.responsesApart
  have queues := laid.queuesApart
  have outside : ∀ {address}, address < segment.rspQueueOffset ∨
      segment.rspQueueOffset + queueHeaderSize ≤ address → after address = segment address := by
    intro address outside
    exact processResponses_outside _ _ _ _ _ (by unfold queueHeaderSize at outside; omega)
  have kept : Kept segment after := by
    constructor
    · intro address inside
      exact outside (.inl (by omega))
    · intro address above below
      exact outside (by omega)
  have place := kept.cmdQueueOffset
  have words : ∀ offset, offset + 4 ≤ queueHeaderSize →
      after.word (segment.cmdQueueOffset + offset) =
        segment.word (segment.cmdQueueOffset + offset) := by
    intro offset inside
    apply word_congr
    intro address above below
    exact outside (by omega)
  have queue : after.commands.queue = segment.commands.queue := by
    simp only [commands, place, CommandQueue.mk.injEq]
    exact ⟨words 0 (by decide), words 4 (by decide), words 8 (by decide), words 12 (by decide)⟩
  apply laid.still kept (by rw [queue])
  apply holds_congr laid.holds queue
  intro index inside
  simp only [commands, place]
  exact outside (by omega)

theorem sendCommand_cases (segment : Segment) (agent : ShmAgent) (locked : Bool)
    (request : Request) : segment.sendCommand agent locked request = (false, segment, agent) ∨
      segment.commands.isFull = false ∧ segment.sendCommand agent locked request =
        (true, segment.push segment.cmdQueueOffset agent request, agent.number) := by
  unfold sendCommand
  split
  · exact .inl rfl
  · simp only
    split
    · exact .inl rfl
    · rename_i room
      exact .inr ⟨decide_eq_false room, rfl⟩

theorem laid_push {segment : Segment} {records : List ServiceRecord} {waiting : List Command}
    (laid : Laid segment records waiting) (agent : ShmAgent) {request : Request}
    (fits : request.2.length ≤ payloadSize) (room : segment.commands.isFull = false) :
    Laid (segment.push segment.cmdQueueOffset agent request) records
      (waiting ++ [commandOf agent agent.sequence request]) := by
  have pushed := commands_push laid.commandsBehind agent request
  have free : waiting.length < segment.commands.queue.capacity.toNat := by
    rw [← laid.holds.count]
    by_contra full
    rw [Region.isFull_iff.mpr (Nat.not_lt.mp full)] at room
    cases room
  apply laid.still (kept_push laid agent fits)
  · rw [pushed]
    rfl
  · rw [pushed, List.length_append, List.length_singleton]
    have written := laid.holds.write agent agent.sequence fits free
    exact written.advance.increment free

/-- A lookup gives the endpoints of the service that are published. -/
theorem Laid.lookup {segment : Segment} {records : List ServiceRecord} {waiting : List Command}
    (laid : Laid segment records waiting) (service : ServiceId) (instance' : InstanceId) :
    (RegistryRegion.lookupServiceEndpoints true true service instance' segment.registry).val =
      endpointsOf records service instance' := by
  have size := laid.size
  have bound := segment.srSize.toNat_lt
  have last : segment.registry.maxOffset = segment.srSize.toNat - registryHeaderSize :=
    RegistryRegion.maxOffset_eq (Nat.le_of_add_right_le size)
  have found := @RegistryRegion.lookupLoop_encode segment.registry segment.registry.maxOffset 0
    (by omega) records service instance' laid.published (by omega)
  rw [← laid.count] at found
  exact found

end Segment

/-- The agents of all processes that have mapped the memory. -/
structure Board (Agent : Type) where
  segment : Segment
  agents : Agent → ShmAgent

/-- What an agent does under the lock of the memory, and what the daemon leaves there. -/
inductive BoardAction (Agent : Type)
  | connected (agent : Agent) (value : Bool)
  | number (agent : Agent)
  | sendCommand (agent : Agent) (locked : Bool) (call : Call)
  | processResponses (agent : Agent) (locked : Bool) (handlers : Handlers)
      (beyond : Nat → Nat → UInt8)
  | daemon (segment : Segment) (records : List ServiceRecord) (waiting : List Command)

inductive BoardEffect (Agent : Type)
  | accepted (agent : Agent) (command : Command)
  | refused (agent : Agent) (call : Call)
  | handled (agent : Agent) (effects : List ResponseEffect)
  | left (records : List ServiceRecord) (waiting : List Command)

namespace Board

variable {Agent : Type} [DecidableEq Agent]

def setAgent (board : Board Agent) (agent : Agent) (value : ShmAgent) : Board Agent :=
  { board with agents := Function.update board.agents agent value }

def step : Runs.Step (Board Agent) (BoardAction Agent) (BoardEffect Agent) := fun board action =>
  match action with
  | .connected agent value =>
    some (board.setAgent agent { board.agents agent with connected := value }, [])
  | .number agent => some (board.setAgent agent (board.agents agent).number, [])
  | .sendCommand agent locked call =>
    let (sent, segment, after) :=
      board.segment.sendCommand (board.agents agent) locked call.request
    some ({ board.setAgent agent after with segment := segment },
      if sent then
        [.accepted agent (commandOf (board.agents agent) (board.agents agent).sequence call.request)]
      else [.refused agent call])
  | .processResponses agent locked handlers beyond =>
    let (handled, segment) :=
      board.segment.processResponses (board.agents agent).connected locked handlers beyond
    some ({ board with segment := segment }, [.handled agent (handled.flatMap Handled.effects)])
  | .daemon segment records waiting =>
    some ({ board with segment := segment }, [.left records waiting])

/-- The daemon leaves the memory laid out. -/
def Lays (_ : Board Agent) : BoardAction Agent → Prop
  | .daemon segment records waiting => segment.Laid records waiting
  | _ => True

/-- The records that are published and the commands that wait, by what the daemon has left and what
    was accepted since then. -/
def expect (left : List ServiceRecord × List Command) :
    BoardEffect Agent → List ServiceRecord × List Command
  | .left records waiting => (records, waiting)
  | .accepted _ command => (left.1, left.2 ++ [command])
  | _ => left

theorem laid_step {board next : Board Agent} {action : BoardAction Agent}
    {effects : List (BoardEffect Agent)} {left : List ServiceRecord × List Command}
    (laid : board.segment.Laid left.1 left.2) (lays : Lays board action)
    (stepped : step board action = some (next, effects)) :
    next.segment.Laid (effects.foldl expect left).1 (effects.foldl expect left).2 := by
  cases action with
  | connected agent value =>
    obtain ⟨rfl, rfl⟩ := Prod.mk.inj (Option.some.inj stepped)
    exact laid
  | number agent =>
    obtain ⟨rfl, rfl⟩ := Prod.mk.inj (Option.some.inj stepped)
    exact laid
  | processResponses agent locked handlers beyond =>
    obtain ⟨rfl, rfl⟩ := Prod.mk.inj (Option.some.inj stepped)
    exact Segment.laid_processResponses laid _ locked handlers beyond
  | daemon segment records waiting =>
    obtain ⟨rfl, rfl⟩ := Prod.mk.inj (Option.some.inj stepped)
    exact lays
  | sendCommand agent locked call =>
    rcases board.segment.sendCommand_cases (board.agents agent) locked call.request with
      same | ⟨free, same⟩
    · simp only [step, same] at stepped
      obtain ⟨rfl, rfl⟩ := Prod.mk.inj (Option.some.inj stepped)
      exact laid
    · simp only [step, same, ↓reduceIte] at stepped
      obtain ⟨rfl, rfl⟩ := Prod.mk.inj (Option.some.inj stepped)
      exact Segment.laid_push laid (board.agents agent) call.payload_fits free

/-- Whatever the agents of all processes send, and whatever responses they process, in any order,
    between the turns of the daemon: nothing is lost or overwritten in the memory that they share.
    A lookup gives the endpoints that the daemon has published last, and in the queue wait the
    commands that it has left, and behind them those that were accepted since then, in their
    order. -/
theorem memory_shared {start state : Board Agent} {actions : List (BoardAction Agent)}
    {effects : List (BoardEffect Agent)} {records : List ServiceRecord} {waiting : List Command}
    (laid : start.segment.Laid records waiting)
    (guarded : Runs.Guarded step Lays start actions effects state) :
    let left := effects.foldl expect (records, waiting)
    (∀ service instance', (RegistryRegion.lookupServiceEndpoints true true service instance'
        state.segment.registry).val = endpointsOf left.1 service instance') ∧
      state.segment.commands.queue.count.toNat = left.2.length ∧
      state.segment.commands.pending left.2.length = left.2.map some := by
  have after : state.segment.Laid (effects.foldl expect (records, waiting)).1
      (effects.foldl expect (records, waiting)).2 := by
    apply guarded.invariant fun _ effects state =>
      state.segment.Laid (effects.foldl expect (records, waiting)).1
        (effects.foldl expect (records, waiting)).2
    · exact laid
    · intro actions effects board action next emitted before lays stepped
      rw [List.foldl_append]
      exact laid_step before lays stepped
  intro left
  exact ⟨after.lookup, after.holds.count, after.holds.slots⟩

/-- The services of a registry before and after the daemon publishes one. -/
def published : Bool → List ServiceRecord
  | false => []
  | true => [⟨0x1234, 1, List.replicate 10 0, [⟨[49, 48], 30509, 17, by decide⟩], rfl⟩]

/-- A memory with room for two commands and for more services, in which a response waits. -/
def twoSlots (offered : Bool) : Segment :=
  let segment : Segment :=
    Memory.write (fun _ => 0) 888 ((published offered).flatMap ServiceRecord.encode)
  let segment : Segment := Memory.write segment 616 (BigEndian.bytes32 1 ++
    [RouteResponseType.serviceAvailable.value] ++ BigEndian.bytes32 4 ++ [0x12, 0x34, 0, 1])
  let words : List (Nat × UInt32) := [(16, 36), (24, 600), (28, 884), (32, 64), (48, 2), (600, 1),
    (612, 1), (884, if offered then 1 else 0)]
  words.foldl (fun segment (offset, value) => segment.setWord offset value) segment

theorem twoSlots_laid (offered : Bool) : (twoSlots offered).Laid (published offered) [] where
  commandsBehind := by decide +revert +kernel
  responsesBehind := by decide +revert +kernel
  queuesApart := by decide +revert +kernel
  commandsApart := by decide +revert +kernel
  responsesApart := by decide +revert +kernel
  holds := ⟨by decide +revert +kernel, by decide +revert +kernel, Nat.zero_le _, rfl,
    by decide +revert +kernel, by decide +revert +kernel⟩
  size := by decide +revert +kernel
  count := by decide +revert +kernel
  published := by
    rw [Tracked.holds_iff]
    decide +revert +kernel

/-- The board after a command that is accepted. -/
def sending (board : Board Agent) (agent : Agent) (call : Call) : Board Agent :=
  let result := board.segment.sendCommand (board.agents agent) true call.request
  { board.setAgent agent result.2.2 with segment := result.2.1 }

theorem step_sending {board : Board Agent} {agent : Agent} {call : Call}
    (sent : (board.segment.sendCommand (board.agents agent) true call.request).1 = true) :
    step board (.sendCommand agent true call) = some (board.sending agent call,
      [.accepted agent
        (commandOf (board.agents agent) (board.agents agent).sequence call.request)]) := by
  simp only [step, sending]
  generalize board.segment.sendCommand (board.agents agent) true call.request = result at sent ⊢
  obtain ⟨accepted, segment, after⟩ := result
  obtain rfl : accepted = true := sent
  rfl

/-- Two processes with an agent each find a service and send a heartbeat, and one of them processes a
    response; the daemon takes the commands and publishes the service, and they send again. -/
def publishing : List (BoardAction Bool) :=
  [.sendCommand true true (.findService 0x1234 1), .sendCommand false true (.heartbeat 7),
    .processResponses true true { availability := true } fun _ _ => 0,
    .daemon (twoSlots true) (published true) [],
    .sendCommand false true (.subscribe 0x1234 1 0x10 1), .sendCommand true true (.heartbeat 8)]

def twoProcesses : Board Bool where
  segment := twoSlots false
  agents := fun agent => { connected := true, clientId := if agent then 1 else 2 }

theorem publishing_shared : ∃ (effects : List (BoardEffect Bool)) (state : Board Bool),
    Runs.Run step twoProcesses publishing effects state ∧
      .handled true [.available 0x1234 1 true] ∈ effects ∧
      (RegistryRegion.lookupServiceEndpoints true true 0x1234 1 state.segment.registry).val =
        [⟨addressOf [49, 48], 30509, ⟨17⟩⟩] ∧
      (state.segment.commands.pending 2).map (Option.map Command.type) =
        [some .subscribe, some .heartbeat] := by
  let finding := twoProcesses.sending true (.findService 0x1234 1)
  let beating := finding.sending false (.heartbeat 7)
  let handled := beating.segment.processResponses true true { availability := true } fun _ _ => 0
  let left : Board Bool := { beating with segment := twoSlots true }
  let subscribing := left.sending false (.subscribe 0x1234 1 0x10 1)
  have notified : handled.1.flatMap Handled.effects = [.available 0x1234 1 true] := by
    decide +kernel
  have first : step twoProcesses (.sendCommand true true (.findService 0x1234 1)) =
      some (finding, _) := step_sending (by decide +kernel)
  have second : step finding (.sendCommand false true (.heartbeat 7)) = some (beating, _) :=
    step_sending (by decide +kernel)
  have processed : step beating
      (.processResponses true true { availability := true } fun _ _ => 0) =
        some ({ beating with segment := handled.2 }, [.handled true [.available 0x1234 1 true]]) := by
    rw [← notified]
    rfl
  have third : step left (.sendCommand false true (.subscribe 0x1234 1 0x10 1)) =
      some (subscribing, _) := step_sending (by decide +kernel)
  have fourth : step subscribing (.sendCommand true true (.heartbeat 8)) =
      some (subscribing.sending true (.heartbeat 8), _) := step_sending (by decide +kernel)
  have guarded : Runs.Guarded step Lays twoProcesses publishing _ _ :=
    (((((Runs.Guarded.nil.snoc trivial first).snoc trivial second).snoc trivial processed).snoc
      (twoSlots_laid true) rfl).snoc trivial third).snoc trivial fourth
  obtain ⟨found, -, pending⟩ := memory_shared (twoSlots_laid false) guarded
  refine ⟨_, _, guarded.run, ?_, found 0x1234 1, ?_⟩
  · simp
  · exact congrArg (List.map (Option.map Command.type)) pending

end Board
end Msomeip.Shm
