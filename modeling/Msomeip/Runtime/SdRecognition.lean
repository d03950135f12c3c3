import Msomeip.Runtime.Routing
import Msomeip.Sd.SenderParser

namespace Msomeip

namespace Runtime

variable {Handler : Type}

/-- Where `on_udp_message_received` passes a message on. -/
inductive Destination
  | serviceDiscovery (message : Message)
  | serviceHandlers (message : Message)

def udpDestination (runtime : Runtime Handler) (message : Message) (now : TimePoint) :
    Option Destination :=
  (runtime.reassembled message now).1.map fun whole =>
    if isSdMessage whole then .serviceDiscovery whole else .serviceHandlers whole

theorem onUdpMessageReceived_eq (runtime : Runtime Handler) (message : Message)
    (arrival : Arrival) : runtime.onUdpMessageReceived message arrival =
      let after := (runtime.reassembled message arrival.now).2
      match runtime.udpDestination message arrival.now with
      | none => (after, [])
      | some (.serviceDiscovery whole) => after.processSd whole arrival
      | some (.serviceHandlers whole) => (after, after.route whole) := by
  unfold onUdpMessageReceived udpDestination
  generalize runtime.reassembled message arrival.now = replaced
  obtain ⟨whole, after⟩ := replaced
  cases whole with
  | none => rfl
  | some whole =>
    simp only [Option.map_some]
    by_cases isSd : isSdMessage whole = true
    · rw [if_pos isSd, if_pos isSd]
    · rw [if_neg isSd, if_neg isSd]

/-- A peer that receives the message takes it for one of service discovery. -/
def Recognises (peer : Runtime Handler) (message : Message) (arrival : Arrival) : Prop :=
  ∃ delivered, Message.deserialize message.serialize = some delivered ∧
    peer.udpDestination delivered arrival.now = some (.serviceDiscovery delivered)

end Runtime

namespace Sd.ServiceDiscovery

variable {Handler : Type}

open Msomeip.Runtime

theorem event_not_sd {method : MethodId} (known : method ∈ sdMethods) :
    method ||| 0x8000 ≠ someipSdMethodId := by
  have others : sdMethods.all (· ||| 0x8000 != someipSdMethodId) = true := by decide
  exact bne_iff_ne.mp (List.all_eq_true.mp others method known)

theorem deserialize_sdMessage (method : MethodId) (entry : ServiceEntry) :
    Message.deserialize (sdMessage method entry).serialize =
      some (sdMessage method entry).received := by
  have short : (sdMessage method entry).payloadData.length < 2 ^ 32 := by
    change entry.serialize.length < 2 ^ 32
    rw [ServiceEntry.serialize_length]
    decide
  exact Message.deserialize_serialize _ rfl short

theorem udpDestination_sdMessage (peer : Runtime Handler) {method : MethodId}
    (known : method ∈ sdMethods) (entry : ServiceEntry) (now : TimePoint) :
    peer.udpDestination (sdMessage method entry).received now =
      some (.serviceHandlers (sdMessage method entry).received) := by
  have plain : (sdMessage method entry).received.isTpMessage = false := rfl
  have notSd : ¬ isSdMessage (sdMessage method entry).received = true := by
    intro isSd
    have same := (Bool.and_eq_true_iff.mp isSd).2
    exact event_not_sd known (eq_of_beq same)
  rw [udpDestination, reassembled_plain peer now plain, Option.map_some, if_neg notSd]

/-- No message that is sent is taken for one of service discovery by any peer: it goes to the
    service handlers. -/
theorem sent_unrecognised {config : Config} {actions : List Action} {effects : List Effect}
    {sd : ServiceDiscovery} (run : Runs.Run step (create config) actions effects sd)
    {entry : ServiceEntry} {message : Message} {address : String} {port : UInt16}
    (sent : .sent entry message address port ∈ effects) (peer : Runtime Handler)
    (arrival : Arrival) : ¬ peer.Recognises message arrival ∧
      ∃ delivered, Message.deserialize message.serialize = some delivered ∧
        peer.onUdpMessageReceived delivered arrival = (peer, peer.route delivered) := by
  obtain ⟨method, known, rfl⟩ := run_made run _ sent
  have parsed := deserialize_sdMessage method entry
  have handlers := udpDestination_sdMessage peer known entry arrival.now
  constructor
  · intro recognises
    obtain ⟨delivered, received, discovery⟩ := recognises
    obtain rfl := Option.some.inj (parsed.symm.trans received)
    rw [handlers] at discovery
    cases discovery
  · refine ⟨_, parsed, ?_⟩
    rw [onUdpMessageReceived_eq, handlers, reassembled_plain peer arrival.now rfl]

def listener : Runtime Unit where
  clientId := 0x0002
  serviceDiscovery := some (create {})

theorem initialOffer_unrecognised : ¬ listener.Recognises
    (sdMessage someipSdMethodOfferService (.createOfferService 0x1234 0x0001 1 0 3))
    Runtime.arrival := by
  obtain ⟨sd, run⟩ := offering_run
  exact (sent_unrecognised run (List.mem_singleton_self initialOffer) listener Runtime.arrival).1

theorem initialOffer_routed : ¬ ∀ config actions effects sd,
    Runs.Run step (create config) actions effects sd → ∀ entry message address port,
      .sent entry message address port ∈ effects → ∀ (peer : Runtime Unit) arrival,
        peer.serviceDiscovery.isSome = true → peer.Recognises message arrival := by
  intro all
  obtain ⟨sd, run⟩ := offering_run
  obtain ⟨delivered, received, discovery⟩ := all _ _ _ _ run _ _ _ _
    (List.mem_singleton_self initialOffer) listener Runtime.arrival rfl
  rw [deserialize_sdMessage] at received
  obtain rfl := Option.some.inj received
  rw [udpDestination_sdMessage listener (by decide)] at discovery
  cases discovery

end Sd.ServiceDiscovery
end Msomeip
