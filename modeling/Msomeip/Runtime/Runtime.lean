import Msomeip.Sd.Actions
import Msomeip.Tp.Reassembler
import Msomeip.Tp.Segmenter

namespace Msomeip

open Std

namespace Transport

def UdpTransport.maxMessageSize : Nat := 65535
def TcpTransport.maxMessageSize : Nat := 4096

/-- What a transport is handed: the serialized message, its destination and the transport's kind. -/
structure Frame where
  data : List UInt8
  address : String
  port : UInt16
  reliable : Bool
deriving DecidableEq, Repr

end Transport

open Transport

/-- The handlers are callbacks from outside, of a type `Handler`; an empty one is `none`. -/
structure Runtime (Handler : Type) where
  clientId : ClientId
  serviceDiscovery : Option Sd.ServiceDiscovery := none
  tpReassembler : Tp.TpReassembler := {}
  serviceHandlers : ExtTreeMap (ServiceId × InstanceId) (Option Handler) := ∅

namespace Runtime

variable {Handler : Type}

inductive Effect (Handler : Type)
  | invoked (key : ServiceId × InstanceId) (handler : Handler) (message : Message)
  | discovery (effect : Sd.Effect)
deriving DecidableEq, Repr

/-- The time a message arrives, and what its processing gets from the outside. -/
structure Arrival where
  now : TimePoint
  beyond : Nat → UInt8
  moments : Nat → Sd.Moment

def registerServiceHandler (runtime : Runtime Handler) (service : ServiceId)
    (instance' : InstanceId) (handler : Option Handler) : Runtime Handler :=
  { runtime with serviceHandlers := runtime.serviceHandlers.insert (service, instance') handler }

def unregisterServiceHandler (runtime : Runtime Handler) (service : ServiceId)
    (instance' : InstanceId) : Runtime Handler :=
  { runtime with serviceHandlers := runtime.serviceHandlers.erase (service, instance') }

/-- The first part of both receive functions: a TP message is replaced by the message it
    completes, if any. -/
def reassembled (runtime : Runtime Handler) (message : Message) (now : TimePoint) :
    Option Message × Runtime Handler :=
  if message.isTpMessage then
    let requestId := message.getRequestId
    let (complete, reassembler) := runtime.tpReassembler.addSegment message now
    if complete then
      let (whole, reassembler) := reassembler.reassemble requestId
      (whole, { runtime with tpReassembler := reassembler })
    else (none, { runtime with tpReassembler := reassembler })
  else (some message, runtime)

def route (runtime : Runtime Handler) (message : Message) : List (Effect Handler) :=
  let key := (message.serviceId, message.instanceId)
  match runtime.serviceHandlers[key]? with
  | some (some handler) => [.invoked key handler message]
  | _ => []

def isSdMessage (message : Message) : Bool :=
  message.serviceId == someipSdServiceId && message.methodId == someipSdMethodId

def processSd (runtime : Runtime Handler) (message : Message) (arrival : Arrival) :
    Runtime Handler × List (Effect Handler) :=
  match runtime.serviceDiscovery with
  | none => (runtime, [])
  | some sd =>
    let (sd, effects) := sd.processSdMessage message arrival.beyond arrival.moments
    ({ runtime with serviceDiscovery := some sd }, effects.map .discovery)

def onUdpMessageReceived (runtime : Runtime Handler) (message : Message) (arrival : Arrival) :
    Runtime Handler × List (Effect Handler) :=
  match runtime.reassembled message arrival.now with
  | (none, runtime) => (runtime, [])
  | (some message, runtime) =>
    if isSdMessage message then runtime.processSd message arrival
    else (runtime, runtime.route message)

/-- There is no branch for SD messages here. -/
def onTcpMessageReceived (runtime : Runtime Handler) (message : Message) (arrival : Arrival) :
    Runtime Handler × List (Effect Handler) :=
  match runtime.reassembled message arrival.now with
  | (none, runtime) => (runtime, [])
  | (some message, runtime) => (runtime, runtime.route message)

/-- The loop over the segments, which ends at the first one that is not sent; `outcome` says how
    the sends of the transport end. -/
def sendAll (address : String) (port : UInt16) (reliable : Bool) (outcome : Nat → Bool) :
    Nat → List Message → Bool × List Frame
  | _, [] => (true, [])
  | index, segment :: rest =>
    let frame : Frame := ⟨segment.serialize, address, port, reliable⟩
    if outcome index then
      let (allSent, frames) := sendAll address port reliable outcome (index + 1) rest
      (allSent, frame :: frames)
    else (false, [frame])

def maxSegmentSize (reliable : Bool) : Nat :=
  if reliable then Tp.tcpSegmentSize else Tp.udpSegmentSize

def sendMessage (message : Message) (address : String) (port : UInt16) (reliable : Bool)
    (outcome : Nat → Bool) : Bool × List Frame :=
  if Tp.TpSegmenter.needsSegmentation message.payloadData.length (maxSegmentSize reliable) then
    let segments := Tp.TpSegmenter.segment message (maxSegmentSize reliable)
    if segments.isEmpty then (false, []) else sendAll address port reliable outcome 0 segments
  else (outcome 0, [⟨message.serialize, address, port, reliable⟩])

@[simp] theorem serviceHandlers_register (runtime : Runtime Handler) (service : ServiceId)
    (instance' : InstanceId) (handler : Option Handler) :
    (runtime.registerServiceHandler service instance' handler).serviceHandlers[(service, instance')]? =
      some handler := by
  simp [registerServiceHandler]

theorem reassembled_plain (runtime : Runtime Handler) {message : Message} (now : TimePoint)
    (plain : message.isTpMessage = false) :
    runtime.reassembled message now = (some message, runtime) := by
  simp [reassembled, plain]

theorem route_of_mem {runtime : Runtime Handler} {message : Message} {effect : Effect Handler}
    (routed : effect ∈ runtime.route message) : runtime.route message = [effect] := by
  simp only [route] at routed ⊢
  split at routed
  · rw [List.mem_singleton.mp routed]
  · cases routed

theorem processSd_discovery {runtime : Runtime Handler} {message : Message} {arrival : Arrival}
    {effect : Effect Handler} (processed : effect ∈ (runtime.processSd message arrival).2) :
    ∃ caused, effect = .discovery caused := by
  unfold processSd at processed
  split at processed
  · cases processed
  · obtain ⟨caused, -, same⟩ := List.mem_map.mp processed
    exact ⟨caused, same.symm⟩

theorem sendAll_subset {address : String} {port : UInt16} {reliable : Bool} {outcome : Nat → Bool}
    {index : Nat} {segments : List Message} {frame : Frame}
    (member : frame ∈ (sendAll address port reliable outcome index segments).2) :
    ∃ segment ∈ segments, frame.data = segment.serialize := by
  induction segments generalizing index with
  | nil => cases member
  | cons segment rest ih =>
    simp only [sendAll] at member
    split at member
    · rcases List.mem_cons.mp member with rfl | later
      · exact ⟨segment, by simp, rfl⟩
      · obtain ⟨source, inside, same⟩ := ih later
        exact ⟨source, by simp [inside], same⟩
    · obtain rfl := List.mem_singleton.mp member
      exact ⟨segment, by simp, rfl⟩

theorem sendAll_first (address : String) (port : UInt16) (reliable : Bool) (outcome : Nat → Bool)
    (index : Nat) (segment : Message) (rest : List Message) :
    ⟨segment.serialize, address, port, reliable⟩ ∈
      (sendAll address port reliable outcome index (segment :: rest)).2 := by
  simp only [sendAll]
  split <;> simp

end Runtime
end Msomeip
