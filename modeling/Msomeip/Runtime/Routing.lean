import Msomeip.Message.Codec
import Msomeip.Runtime.Runtime

namespace Msomeip.Runtime

variable {Handler : Type}

/-- Both receive functions call the handler registered under a key once, and no other handler. -/
def Reaches (runtime : Runtime Handler) (key : ServiceId × InstanceId) (handler : Handler)
    (delivered : Message) (arrival : Arrival) : Prop :=
  (runtime.onUdpMessageReceived delivered arrival).2 = [.invoked key handler delivered] ∧
    (runtime.onTcpMessageReceived delivered arrival).2 = [.invoked key handler delivered]

theorem onUdp_plain (runtime : Runtime Handler) {message : Message} (arrival : Arrival)
    (plain : message.isTpMessage = false) (notSd : isSdMessage message = false) :
    (runtime.onUdpMessageReceived message arrival).2 = runtime.route message := by
  simp [onUdpMessageReceived, reassembled_plain runtime arrival.now plain, notSd]

theorem onTcp_plain (runtime : Runtime Handler) {message : Message} (arrival : Arrival)
    (plain : message.isTpMessage = false) :
    (runtime.onTcpMessageReceived message arrival).2 = runtime.route message := by
  simp [onTcpMessageReceived, reassembled_plain runtime arrival.now plain]

theorem route_invoked_iff {runtime : Runtime Handler} {key : ServiceId × InstanceId}
    {handler : Handler} (registered : runtime.serviceHandlers[key]? = some (some handler))
    (message : Message) :
    runtime.route message = [.invoked key handler message] ↔
      (message.serviceId, message.instanceId) = key := by
  constructor
  · intro routed
    simp only [route] at routed
    split at routed
    · simp only [List.cons.injEq, Effect.invoked.injEq] at routed
      exact routed.1.1
    · cases routed
  · intro same
    simp [route, same, registered]

/-- A message from the wire reaches the handler of its instance exactly when that instance is the
    one every received message gets. -/
theorem reaches_iff (runtime : Runtime Handler) {message delivered : Message} {handler : Handler}
    (registered : runtime.serviceHandlers[(message.serviceId, message.instanceId)]? =
      some (some handler))
    (plain : message.isTpMessage = false) (notSd : isSdMessage message = false)
    (parsed : Message.deserialize message.serialize = some delivered) (arrival : Arrival) :
    runtime.Reaches (message.serviceId, message.instanceId) handler delivered arrival ↔
      message.instanceId = 0xFFFF := by
  obtain ⟨data, rfl⟩ := Message.deserialize_serialize_header parsed
  have udp : (runtime.onUdpMessageReceived (message.received.setPayload data) arrival).2 =
      runtime.route (message.received.setPayload data) := runtime.onUdp_plain arrival plain notSd
  have tcp : (runtime.onTcpMessageReceived (message.received.setPayload data) arrival).2 =
      runtime.route (message.received.setPayload data) := runtime.onTcp_plain arrival plain
  rw [Reaches, udp, tcp, and_self, route_invoked_iff registered]
  simp [Message.setPayload, Message.received, eq_comm]

def requestTo (instance' : InstanceId) : Message :=
  { Message.createRequest 0x1234 instance' 0x0001 0x0001 false with sessionId := 1 }

def registeredAt (instance' : InstanceId) : Runtime Unit :=
  ({ clientId := 0x0001 } : Runtime Unit).registerServiceHandler 0x1234 instance' (some ())

def arrival : Arrival := ⟨0, fun _ => 0, fun _ => ⟨0, true⟩⟩

theorem registeredAt_lookup (instance' : InstanceId) :
    (registeredAt instance').serviceHandlers[((requestTo instance').serviceId,
      (requestTo instance').instanceId)]? = some (some ()) :=
  serviceHandlers_register _ _ _ _

theorem anyInstance_reached :
    (registeredAt 0xFFFF).Reaches (0x1234, 0xFFFF) () (requestTo 0xFFFF).received arrival :=
  (reaches_iff (registeredAt 0xFFFF) (registeredAt_lookup 0xFFFF) rfl rfl
    (Message.deserialize_serialize (requestTo 0xFFFF) rfl (by decide)) arrival).mpr rfl

theorem instance_unreached : ¬ ∀ (runtime : Runtime Unit) (message delivered : Message),
    runtime.serviceHandlers[(message.serviceId, message.instanceId)]? = some (some ()) →
    message.isTpMessage = false → isSdMessage message = false →
    Message.deserialize message.serialize = some delivered →
    ∀ arrival, runtime.Reaches (message.serviceId, message.instanceId) () delivered arrival := by
  intro all
  have reached := all (registeredAt 0x0001) (requestTo 0x0001) (requestTo 0x0001).received
    (registeredAt_lookup 0x0001) rfl rfl
    (Message.deserialize_serialize (requestTo 0x0001) rfl (by decide)) arrival
  have udp := reached.1
  revert udp
  decide +kernel

end Msomeip.Runtime
