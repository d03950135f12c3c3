import Msomeip.Library.BigEndian
import Msomeip.Library.Memory
import Msomeip.Types

namespace Msomeip.Shm

open BigEndian

structure RouteCommandType where
  value : UInt8
deriving DecidableEq, Repr

namespace RouteCommandType

def registerService : RouteCommandType := ⟨0x01⟩
def unregisterService : RouteCommandType := ⟨0x02⟩
def findService : RouteCommandType := ⟨0x03⟩
def subscribe : RouteCommandType := ⟨0x04⟩
def unsubscribe : RouteCommandType := ⟨0x05⟩
def lookupSubscribers : RouteCommandType := ⟨0x07⟩
def heartbeat : RouteCommandType := ⟨0x08⟩

end RouteCommandType

structure CommandQueue where
  count : UInt32
  readIndex : UInt32
  writeIndex : UInt32
  capacity : UInt32
deriving DecidableEq, Repr

/-- The command queue in the shared memory, with the bytes from `queue_data` on. -/
structure Region where
  queue : CommandQueue
  queueData : Nat → UInt8

structure ShmAgent where
  connected : Bool := false
  sequence : UInt32 := 1
  clientId : UInt32 := 0
deriving DecidableEq, Repr

/-- What a public function hands to `send_command`. -/
abbrev Request := RouteCommandType × PayloadData

def sendRegisterService (config : ServiceConfig) : Request :=
  (.registerService, bytes16 config.serviceId ++ bytes16 config.instanceId ++
    [config.majorVersion] ++ bytes32 config.minorVersion ++ bytes32 (UInt32.ofInt config.ttl) ++
    bytes32 0)

def sendUnregisterService (service : ServiceId) (instance' : InstanceId) : Request :=
  (.unregisterService, bytes16 service ++ bytes16 instance')

def sendFindService (service : ServiceId) (instance' : InstanceId) : Request :=
  (.findService, bytes16 service ++ bytes16 instance')

def sendSubscribe (service : ServiceId) (instance' : InstanceId) (eventgroup : EventgroupId)
    (majorVersion : MajorVersion) : Request :=
  (.subscribe, bytes16 service ++ bytes16 instance' ++ bytes16 eventgroup ++ [majorVersion] ++
    bytes32 0)

def sendUnsubscribe (service : ServiceId) (instance' : InstanceId) (eventgroup : EventgroupId) :
    Request :=
  (.unsubscribe, bytes16 service ++ bytes16 instance' ++ bytes16 eventgroup)

def sendHeartbeat (clientId : UInt32) : Request :=
  (.heartbeat, bytes32 clientId ++ [0, 0, 0, 0])

def lookupSubscribers (service : ServiceId) (instance' : InstanceId) (eventgroup : EventgroupId) :
    Request :=
  (.lookupSubscribers, bytes16 service ++ bytes16 instance' ++ bytes16 eventgroup)

inductive Call
  | registerService (config : ServiceConfig)
  | unregisterService (service : ServiceId) (instance' : InstanceId)
  | findService (service : ServiceId) (instance' : InstanceId)
  | subscribe (service : ServiceId) (instance' : InstanceId) (eventgroup : EventgroupId)
      (majorVersion : MajorVersion)
  | unsubscribe (service : ServiceId) (instance' : InstanceId) (eventgroup : EventgroupId)
  | heartbeat (clientId : UInt32)
  | lookupSubscribers (service : ServiceId) (instance' : InstanceId) (eventgroup : EventgroupId)
deriving DecidableEq, Repr

namespace Call

def request : Call → Request
  | .registerService config => sendRegisterService config
  | .unregisterService service instance' => sendUnregisterService service instance'
  | .findService service instance' => sendFindService service instance'
  | .subscribe service instance' eventgroup majorVersion =>
    sendSubscribe service instance' eventgroup majorVersion
  | .unsubscribe service instance' eventgroup => sendUnsubscribe service instance' eventgroup
  | .heartbeat clientId => sendHeartbeat clientId
  | .lookupSubscribers service instance' eventgroup =>
    Shm.lookupSubscribers service instance' eventgroup

def type (call : Call) : RouteCommandType := call.request.1
def payload (call : Call) : PayloadData := call.request.2

end Call

def payloadSize : Nat := 256

/-- Four bytes of sequence number, two of client id, one of type, four of length. -/
def commandSize : Nat := 4 + 2 + 1 + 4 + payloadSize

/-- The copies of `send_command` into the slot at `offset`. -/
def writeCommand (queueData : Nat → UInt8) (offset : Nat) (sequence clientId : UInt32)
    (type : RouteCommandType) (payload : PayloadData) : Nat → UInt8 :=
  let queueData := Memory.write queueData offset (bytes32 sequence)
  let offset := offset + 4
  let queueData := Memory.write queueData offset (bytes16 clientId.toUInt16)
  let offset := offset + 2
  let queueData := Memory.write queueData offset [type.value]
  let offset := offset + 1
  let queueData := Memory.write queueData offset (bytes32 (UInt32.ofNat payload.length))
  let offset := offset + 4
  if payload.isEmpty then queueData
  else Memory.write queueData offset (payload.take (min payload.length payloadSize))

namespace Region

def isFull (region : Region) : Bool := region.queue.count ≥ region.queue.capacity

/-- The offset is computed in 32 bits. -/
def write (region : Region) (agent : ShmAgent) (sequence : UInt32) (request : Request) : Region :=
  { region with
    queueData := writeCommand region.queueData
      (region.queue.writeIndex * UInt32.ofNat commandSize).toNat sequence agent.clientId
      request.1 request.2 }

def advance (region : Region) : Region :=
  { region with queue := { region.queue with
      writeIndex := (region.queue.writeIndex + 1) % region.queue.capacity } }

def increment (region : Region) : Region :=
  { region with queue := { region.queue with count := region.queue.count + 1 } }

end Region

/-- `sequence_.fetch_add(1)`, which hands out the number it finds. -/
def ShmAgent.number (agent : ShmAgent) : ShmAgent := { agent with sequence := agent.sequence + 1 }

/-- `send_command` on its own; `locked` is whether `shm_lock` succeeds. -/
def sendCommand (region : Region) (agent : ShmAgent) (locked : Bool) (request : Request) :
    Bool × Region × ShmAgent :=
  if !agent.connected || !locked then (false, region, agent)
  else if region.isFull then (false, region, agent)
  else (true, ((region.write agent agent.sequence request).advance).increment, agent.number)

theorem sendCommand_accepted (region : Region) (agent : ShmAgent) (locked : Bool)
    (request : Request) : (sendCommand region agent locked request).1 = true ↔
      agent.connected = true ∧ locked = true ∧ region.isFull = false := by
  unfold sendCommand
  rcases agent.connected <;> rcases locked <;> rcases region.isFull <;> simp

/-- The agent and the shared memory as a call finds them; `locked` is whether `shm_lock`
    succeeds. -/
structure Link where
  agent : ShmAgent
  region : Region
  locked : Bool

def Link.Open (link : Link) : Prop :=
  link.agent.connected = true ∧ link.locked = true ∧ link.region.isFull = false

/-- What the agent answers, and false where there is none. -/
def accepts (link : Option Link) (call : Call) : Bool :=
  match link with
  | none => false
  | some link => (sendCommand link.region link.agent link.locked call.request).1

def sent (link : Option Link) (call : Call) : List Call :=
  if accepts link call then [call] else []

theorem accepts_iff (link : Option Link) (call : Call) :
    accepts link call = true ↔ ∃ shared ∈ link, shared.Open := by
  rcases link with _ | link
  · simp [accepts]
  · have answer := sendCommand_accepted link.region link.agent link.locked call.request
    simpa [accepts, Link.Open] using answer

theorem mem_sent {link : Option Link} {call : Call} :
    call ∈ sent link call ↔ ∃ shared ∈ link, shared.Open := by
  rw [← accepts_iff link call, sent]
  rcases accepts link call <;> simp

structure Command where
  sequence : UInt32
  client : UInt16
  type : RouteCommandType
  payload : PayloadData
deriving DecidableEq, Repr

/-- A slot as its reader takes it apart. -/
def decode : List UInt8 → Option Command
  | s0 :: s1 :: s2 :: s3 :: c0 :: c1 :: type :: l0 :: l1 :: l2 :: l3 :: rest =>
    some ⟨word32 s0 s1 s2 s3, word16 c0 c1, ⟨type⟩, rest.take (word32 l0 l1 l2 l3).toNat⟩
  | _ => none

def commandOf (agent : ShmAgent) (sequence : UInt32) (request : Request) : Command :=
  ⟨sequence, agent.clientId.toUInt16, request.1, request.2⟩

def Region.slot (region : Region) (index : Nat) : List UInt8 :=
  Memory.readAt region.queueData (commandSize * index) commandSize

theorem Call.payload_fits (call : Call) : call.payload.length ≤ payloadSize := by
  cases call <;> simp [Call.payload, Call.request, sendRegisterService, sendUnregisterService,
    sendFindService, sendSubscribe, sendUnsubscribe, sendHeartbeat, Shm.lookupSubscribers,
    payloadSize]

theorem writeCommand_eq (queueData : Nat → UInt8) (offset : Nat) (sequence clientId : UInt32)
    (type : RouteCommandType) {payload : PayloadData} (fits : payload.length ≤ payloadSize) :
    writeCommand queueData offset sequence clientId type payload =
      Memory.write queueData offset (bytes32 sequence ++ bytes16 clientId.toUInt16 ++
        [type.value] ++ bytes32 (UInt32.ofNat payload.length) ++ payload) := by
  have header : ∀ cells, Memory.write (Memory.write (Memory.write (Memory.write
      (Memory.write queueData offset (bytes32 sequence)) (offset + 4)
      (bytes16 clientId.toUInt16)) (offset + 4 + 2) [type.value]) (offset + 4 + 2 + 1)
      (bytes32 (UInt32.ofNat payload.length))) (offset + 4 + 2 + 1 + 4) cells =
        Memory.write queueData offset (bytes32 sequence ++ bytes16 clientId.toUInt16 ++
          [type.value] ++ bytes32 (UInt32.ofNat payload.length) ++ cells) := by
    intro cells
    simp only [← Memory.write_append, List.length_append, bytes32_length, bytes16_length,
      List.length_singleton, Nat.add_assoc]
  unfold writeCommand
  rw [Nat.min_eq_left fits, List.take_length]
  cases payload with
  | nil => exact (Memory.write_nil _ _).symm.trans (header [])
  | cons byte rest => exact header (byte :: rest)

theorem decode_writeCommand (queueData : Nat → UInt8) (offset : Nat) (agent : ShmAgent)
    (sequence : UInt32) {request : Request} (fits : request.2.length ≤ payloadSize) :
    decode (Memory.readAt (writeCommand queueData offset sequence agent.clientId request.1
      request.2) offset commandSize) = some (commandOf agent sequence request) := by
  have small : request.2.length < 2 ^ 32 := Nat.lt_of_le_of_lt fits (by decide)
  have count : (UInt32.ofNat request.2.length).toNat = request.2.length :=
    UInt32.toNat_ofNat_of_lt' small
  have size : commandSize = (bytes32 sequence ++ bytes16 agent.clientId.toUInt16 ++
      [request.1.value] ++ bytes32 (UInt32.ofNat request.2.length) ++ request.2).length +
        (payloadSize - request.2.length) := by
    simp only [List.length_append, bytes32_length, bytes16_length, List.length_singleton,
      commandSize]
    omega
  rw [writeCommand_eq _ _ _ _ _ fits, size, Memory.readAt_add, Memory.readAt_write]
  simp only [bytes32, bytes16, List.cons_append, List.nil_append, decode, word32_bytes,
    word16_bytes, count, List.take_left', commandOf]

theorem readAt_writeCommand {queueData : Nat → UInt8} {offset start : Nat}
    {sequence clientId : UInt32} {type : RouteCommandType} {payload : PayloadData}
    (fits : payload.length ≤ payloadSize)
    (apart : start + commandSize ≤ offset ∨ offset + commandSize ≤ start) :
    Memory.readAt (writeCommand queueData offset sequence clientId type payload) start commandSize =
      Memory.readAt queueData start commandSize := by
  rw [writeCommand_eq _ _ _ _ _ fits]
  apply Memory.readAt_write_apart
  simp only [List.length_append, bytes32_length, bytes16_length, List.length_singleton]
  unfold commandSize at *
  omega

end Msomeip.Shm
