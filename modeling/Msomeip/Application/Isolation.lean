import Msomeip.Application.Deliveries
import Msomeip.Runtime.SdRecognition
import Msomeip.Sd.Subscriptions

namespace Msomeip

open Transport

namespace Sd

/-- The operations that no message of a peer leads to. -/
def Action.Own : Action → Prop
  | .handle _ _ => False
  | _ => True

instance : (action : Action) → Decidable action.Own
  | .handle _ _ => .isFalse id
  | .init .. | .setServiceAvailableHandler _ | .setSubscriptionHandler _
  | .setSendMessageCallback _ | .offerService .. | .stopOfferService .. | .findService ..
  | .stopFindService .. | .subscribeEventgroup .. | .unsubscribeEventgroup ..
  | .offerEventgroup .. | .stopOfferEventgroup .. | .checkTtlExpiration _ | .sendPeriodicOffers
  | .retryPendingSubscriptions => .isTrue trivial

/-- Nothing is known of any peer. -/
structure ServiceDiscovery.Solitary (sd : ServiceDiscovery) : Prop where
  discovered : sd.discoveredServices = ∅
  subscribers : ∀ key, sd.subscribers key = []

def Effect.Sending : Effect → Prop
  | .sent .. => True
  | _ => False

namespace ServiceDiscovery

theorem send_sending (sd : ServiceDiscovery) (method : MethodId) (entry : ServiceEntry) :
    ∀ effect ∈ sd.send method entry, effect.Sending := by
  unfold send
  split
  · exact List.forall_mem_singleton.mpr trivial
  · exact List.forall_mem_nil _

theorem sendEach_sending {Source : Type} {emit : Source → List Effect} {picked : Source → Prop}
    [DecidablePred picked] (sending : ∀ source, ∀ effect ∈ emit source, effect.Sending)
    (sources : List Source) :
    ∀ effect ∈ sources.flatMap fun source => if picked source then emit source else [],
      effect.Sending := by
  intro effect member
  obtain ⟨source, -, emitted⟩ := List.mem_flatMap.mp member
  split at emitted
  · exact sending source effect emitted
  · cases emitted

theorem Solitary.discovered_own {sd : ServiceDiscovery} (solitary : sd.Solitary) {action : Action}
    (own : action.Own) : (sd.perform action).1.discoveredServices = ∅ := by
  cases action with
  | handle call moment => exact own.elim
  | stopOfferService service instance' =>
    simp only [perform, stopOfferService]
    split
    · exact solitary.discovered
    · exact solitary.discovered
  | checkTtlExpiration now =>
    simp only [perform, checkTtlExpiration, solitary.discovered]
    rfl
  | _ => exact solitary.discovered

theorem Solitary.subscribers_own {sd : ServiceDiscovery} (solitary : sd.Solitary) {action : Action}
    (own : action.Own) (key : EventgroupKey) : (sd.perform action).1.subscribers key = [] := by
  rw [subscribers_perform, solitary.subscribers]
  cases action with
  | handle call moment => exact own.elim
  | offerEventgroup service instance' eventgroup endpoints indeterminate =>
    simp [noted, Record.store]
  | stopOfferEventgroup service instance' eventgroup => simp [noted, Record.store]
  | stopOfferService service instance' =>
    simp only [noted]
    split
    · rfl
    · rfl
  | _ => rfl

theorem Solitary.effects_own {sd : ServiceDiscovery} (solitary : sd.Solitary) {action : Action}
    (own : action.Own) : ∀ effect ∈ (sd.perform action).2, effect.Sending := by
  cases action with
  | handle call moment => exact own.elim
  | offerService config now => exact sd.send_sending _ _
  | findService service instance' now => exact sd.send_sending _ _
  | stopOfferService service instance' =>
    simp only [perform, stopOfferService]
    split
    · exact List.forall_mem_nil _
    · exact sd.send_sending _ _
  | checkTtlExpiration now =>
    have nothing : sd.discoveredServices.values = [] := by
      rw [solitary.discovered]
      rfl
    simp [perform, checkTtlExpiration, nothing]
  | sendPeriodicOffers => exact sendEach_sending (fun info => sd.send_sending _ _) _
  | retryPendingSubscriptions => exact sendEach_sending (fun sub => sd.send_sending _ _) _
  | _ => exact List.forall_mem_nil _

theorem solitary_create (config : Config) : (create config).Solitary := ⟨rfl, fun _ => rfl⟩

theorem Solitary.run {sd after : ServiceDiscovery} (solitary : sd.Solitary) {actions : List Action}
    {effects : List Effect}
    (guarded : Runs.Guarded step (fun _ action => action.Own) sd actions effects after) :
    after.Solitary ∧ ∀ effect ∈ effects, effect.Sending := by
  apply guarded.invariant fun _ effects sd => sd.Solitary ∧ ∀ effect ∈ effects, effect.Sending
  · exact ⟨solitary, List.forall_mem_nil _⟩
  · intro actions effects sd action next emitted before own stepped
    obtain ⟨rfl, rfl⟩ := step_some stepped
    obtain ⟨solitary, sending⟩ := before
    exact ⟨⟨solitary.discovered_own own, solitary.subscribers_own own⟩,
      List.forall_mem_append.mpr ⟨sending, solitary.effects_own own⟩⟩

end ServiceDiscovery
end Sd
namespace Runtime

variable {Handler : Type}

theorem serviceDiscovery_reassembled (runtime : Runtime Handler) (message : Message)
    (now : TimePoint) :
    (runtime.reassembled message now).2.serviceDiscovery = runtime.serviceDiscovery := by
  unfold reassembled
  split
  · simp only
    split
    · rfl
    · rfl
  · rfl

def Effect.discovered? : Effect Handler → Option Sd.Effect
  | .discovery effect => some effect
  | .invoked .. => none

theorem route_undiscovered (runtime : Runtime Handler) (message : Message) :
    (runtime.route message).filterMap Effect.discovered? = [] := by
  simp only [route]
  split
  · rfl
  · rfl

/-- A message that is not one of service discovery, and completes nothing, is none of its
    business. -/
theorem receive_unheard {runtime : Runtime Handler} (unfinished : runtime.Unfinished)
    {message : Message} (inert : Inert message)
    (other : message.isTpMessage = false → isSdMessage message = false) (reliable : Bool)
    (arrival : Arrival) :
    (runtime.receive message reliable arrival).1.serviceDiscovery = runtime.serviceDiscovery ∧
      (runtime.receive message reliable arrival).2.filterMap Effect.discovered? = [] := by
  have whole := (reassembled_inert unfinished inert arrival.now).2
  have same := serviceDiscovery_reassembled runtime message arrival.now
  unfold receive onTcpMessageReceived onUdpMessageReceived
  generalize runtime.reassembled message arrival.now = passed at whole same ⊢
  obtain ⟨none | passedOn, next⟩ := passed
  · cases reliable <;> exact ⟨same, rfl⟩
  · have plain : message.isTpMessage = false ∧ passedOn = message := by
      simp only at whole
      split at whole
      · cases whole
      · rename_i plain
        exact ⟨Bool.eq_false_iff.mpr plain, Option.some.inj whole⟩
    obtain ⟨plain, rfl⟩ := plain
    cases reliable with
    | false =>
      simp only [Bool.false_eq_true, ↓reduceIte, other plain]
      exact ⟨same, next.route_undiscovered _⟩
    | true => exact ⟨same, next.route_undiscovered _⟩

end Runtime

/-- Besides what a peer does: a call of its service discovery, whose messages are sent with
    `send_message`. -/
inductive NodeCommand
  | peer (command : PeerCommand)
  | discovery (action : Sd.Action) (outcome : Nat → Bool)

inductive NodeReport
  | peer (report : PeerReport)
  | discovery (effect : Sd.Effect)
deriving DecidableEq

structure NodeInput extends PeerInput where
  outcome : Nat → Bool

namespace Responder

def discoveryFrames (outcome : Nat → Bool) (effects : List Sd.Effect) : List Frame :=
  effects.flatMap fun effect =>
    match effect with
    | .sent _ message address port => (Runtime.sendMessage message address port false outcome).2
    | _ => []

/-- The futures that a call completes. -/
def callCompletions (responder : Responder) : PeerCommand → List PeerReport
  | .call action =>
    match Application.step responder.app action with
    | some (_, effects) => completions effects
    | none => []
  | _ => []

/-- Only `process_sd_message` calls the handlers of the service discovery. -/
def actNode (responder : Responder) :
    NodeCommand → Option (Responder × List Frame × List NodeReport)
  | .peer (.discover _) | .discovery (.handle _ _) _ => none
  | .peer command =>
    (responder.act command).map fun (next, frames, reports) =>
      (next, frames, (reports ++ responder.callCompletions command).map .peer)
  | .discovery action outcome =>
    responder.runtime.serviceDiscovery.map fun sd =>
      let (sd, effects) := sd.perform action
      ({ responder with runtime := { responder.runtime with serviceDiscovery := some sd } },
        discoveryFrames outcome effects, effects.map .discovery)

/-- What a call does to a node: what it does to a peer that keeps its service discovery, or a step
    of the service discovery of its own. -/
inductive ActsNode (responder : Responder) :
    NodeCommand → Responder × List Frame × List NodeReport → Prop
  | peer {command : PeerCommand} {next : Responder} {frames : List Frame}
      {reports : List PeerReport} : (∀ sd, command ≠ .discover sd) →
      responder.act command = some (next, frames, reports) →
      ActsNode responder (.peer command)
        (next, frames, (reports ++ responder.callCompletions command).map .peer)
  | discovery {action : Sd.Action} {outcome : Nat → Bool} {sd : Sd.ServiceDiscovery} :
      action.Own → responder.runtime.serviceDiscovery = some sd →
      ActsNode responder (.discovery action outcome)
        ({ responder with
            runtime := { responder.runtime with serviceDiscovery := some (sd.perform action).1 } },
          discoveryFrames outcome (sd.perform action).2, (sd.perform action).2.map .discovery)

theorem actsNode_of_actNode {responder : Responder} {command : NodeCommand}
    {result : Responder × List Frame × List NodeReport}
    (acted : responder.actNode command = some result) : responder.ActsNode command result := by
  unfold actNode at acted
  split at acted
  · cases acted
  · cases acted
  · rename_i command other
    obtain ⟨⟨next, frames, reports⟩, stepped, rfl⟩ := Option.map_eq_some_iff.mp acted
    exact .peer other stepped
  · rename_i action outcome other
    obtain ⟨sd, current, rfl⟩ := Option.map_eq_some_iff.mp acted
    refine .discovery ?_ current
    cases action with
    | handle call moment => exact (other call moment rfl).elim
    | _ => trivial

/-- A call of a peer leaves the service discovery alone. -/
theorem serviceDiscovery_act {responder next : Responder} {command : PeerCommand}
    {frames : List Frame} {reports : List PeerReport} (other : ∀ sd, command ≠ .discover sd)
    (acted : responder.act command = some (next, frames, reports)) :
    next.runtime.serviceDiscovery = responder.runtime.serviceDiscovery := by
  unfold act at acted
  split at acted
  · cases acted
  · obtain ⟨⟨app, effects⟩, -, same⟩ := Option.map_eq_some_iff.mp acted
    cases same
    rfl
  · cases acted
    rfl
  · cases acted
    rfl
  · cases acted
    rfl
  · exact (other _ rfl).elim

/-- What the service discovery does about a frame that arrives. -/
def heard (responder : Responder) (frame : Frame) (input : PeerInput) : List Sd.Effect :=
  if frame.data.length ≤ Runtime.receiveLimit frame.reliable then
    match Message.deserialize frame.data with
    | none => []
    | some message =>
      (responder.runtime.receive message frame.reliable input.arrival).2.filterMap
        Runtime.Effect.discovered?
  else []

def receiveNode (responder : Responder) (frame : Frame) (input : NodeInput) :
    Responder × List Frame × List NodeReport :=
  let effects := responder.heard frame input.toPeerInput
  let (next, frames, reports) := responder.receive frame input.toPeerInput
  (next, discoveryFrames input.outcome effects ++ frames,
    effects.map .discovery ++ reports.map .peer)

end Responder

/-- No segment, and no message of service discovery. -/
def Message.Ordinary (message : Message) : Prop :=
  message.isTpMessage = false ∧ Runtime.isSdMessage message = false

theorem Sd.ServiceDiscovery.sdMessage_ordinary {method : MethodId} (known : method ∈ Sd.sdMethods)
    (entry : Sd.ServiceEntry) : (sdMessage method entry).Ordinary := by
  refine ⟨rfl, ?_⟩
  rw [Bool.eq_false_iff]
  intro isSd
  have same := (Bool.and_eq_true_iff.mp isSd).2
  exact event_not_sd known (eq_of_beq same)

namespace Nodes

variable {Node : Type}

def protocol (Node : Type) :
    Network.Protocol Node Responder NodeCommand NodeInput Frame NodeReport where
  act := fun _ responder command => responder.actNode command
  receive := fun _ responder frame input => responder.receiveNode frame input

abbrev State (Node : Type) := Network.State Node Responder Frame

def create (clientIds : Node → ClientId) (configs : Node → Sd.Config) : State Node where
  locals := fun node =>
    let responder := Responder.create (clientIds node)
    { responder with
      runtime := { responder.runtime with serviceDiscovery := some (.create (configs node)) } }

/-- What is sent by other code than the service discovery does not pass for one of its messages,
    and is no segment. -/
def Unassuming (_ : Node) : NodeCommand → Prop
  | .peer (.sendMessage message _ _ _ _) => message.Ordinary
  | .peer (.call (.sendBegin service _ method _ _ _ _))
  | .peer (.call (.sendRequestNoReturn service _ method _ _ _)) =>
    ¬ (service = someipSdServiceId ∧ method = someipSdMethodId)
  | _ => True

instance (node : Node) : (command : NodeCommand) → Decidable (Unassuming node command)
  | .peer (.sendMessage ..) => inferInstanceAs (Decidable (_ ∧ _))
  | .peer (.call (.sendBegin ..)) | .peer (.call (.sendRequestNoReturn ..)) =>
    inferInstanceAs (Decidable (¬ (_ ∧ _)))
  | .peer (.call .start) | .peer (.call (.stop _)) | .peer (.call (.sendFinish _))
  | .peer (.call (.handleMessage ..)) | .peer (.call (.cleanupExpiredRequests ..))
  | .peer (.call (.registerMethodHandler ..)) | .peer (.call (.unregisterMethodHandler _))
  | .peer (.call (.setEventHandler ..)) | .peer (.registerServiceHandler ..)
  | .peer (.unregisterServiceHandler ..) | .peer (.discover _) | .discovery .. => .isTrue trivial

/-- The frame carries an ordinary message, or a segment of it. -/
def Foreign (frame : Frame) : Prop :=
  ∃ original : Message, original.Ordinary ∧ Runtime.IsFrameOf original frame

structure Unaware (responder : Responder) : Prop where
  unfinished : responder.runtime.Unfinished
  sending : ∀ sending ∈ responder.app.sending, sending.message.Ordinary

theorem callReports_ordinary {node : Node} {app : Application Application.MethodHandler}
    {action : Application.Action Application.MethodHandler}
    (unassuming : Unassuming node (.peer (.call action))) {request : Message}
    (made : .told request ∈ Responder.callReports app action ∨
      ∃ promise, .asked promise request ∈ Responder.callReports app action) :
    request.Ordinary := by
  refine ⟨Responder.callReports_plain made, ?_⟩
  have other : ∀ service method, ¬ (service = someipSdServiceId ∧ method = someipSdMethodId) →
      (service == someipSdServiceId && method == someipSdMethodId) = false := by
    intro service method apart
    rw [Bool.eq_false_iff]
    intro same
    obtain ⟨first, second⟩ := Bool.and_eq_true_iff.mp same
    exact apart ⟨eq_of_beq first, eq_of_beq second⟩
  cases action with
  | sendBegin service instance' method payload reliable timeout now =>
    rcases made with told | ⟨promise, asked⟩
    · simp [Responder.callReports] at told
    · obtain ⟨-, rfl⟩ := PeerReport.asked.inj (List.mem_singleton.mp asked)
      exact other service method unassuming
  | sendRequestNoReturn service instance' method payload reliable network =>
    rcases made with told | ⟨promise, asked⟩
    · simp only [Responder.callReports, List.mem_cons, PeerReport.told.injEq, reduceCtorEq,
        or_false, List.not_mem_nil] at told
      rw [told]
      exact other service method unassuming
    · simp [Responder.callReports] at asked
  | sendFinish network => simp [Responder.callReports] at made
  | _ => simp [Responder.callReports] at made

theorem Unaware.outgoing {node : Node} {responder : Responder} (unaware : Unaware responder)
    {action : Application.Action Application.MethodHandler}
    (unassuming : Unassuming node (.peer (.call action))) {message : Message}
    (outgoing : .outgoing message ∈ Responder.callReports responder.app action) :
    message.Ordinary := by
  rcases Responder.callReports_outgoing outgoing with ⟨sending, current, rfl⟩ | told
  · exact unaware.sending sending current
  · exact callReports_ordinary unassuming (Or.inl told)

theorem Unaware.call {node : Node} {responder : Responder} (unaware : Unaware responder)
    {action : Application.Action Application.MethodHandler}
    (unassuming : Unassuming node (.peer (.call action)))
    {app : Application Application.MethodHandler}
    {effects : List (Application.Effect Application.MethodHandler)}
    (stepped : Application.step responder.app action = some (app, effects)) :
    Unaware { responder with app := app } := by
  refine ⟨unaware.unfinished, ?_⟩
  intro sending current
  rcases Responder.call_sending stepped current with before | asked
  · exact unaware.sending sending before
  · exact callReports_ordinary unassuming (Or.inr ⟨_, asked⟩)

theorem Unaware.handle {responder : Responder} (unaware : Unaware responder)
    (message : Message) (reliable : Bool) (network : Application.Network) :
    Unaware (responder.handle message reliable network).1 := by
  refine ⟨unaware.unfinished, ?_⟩
  intro sending current
  rcases Responder.handleMessage_sending responder.app message network with same | ended
  · exact unaware.sending sending (same ▸ current)
  · exact absurd (ended.symm.trans current) (by simp)

theorem unfinished_act {responder next : Responder} (unfinished : responder.runtime.Unfinished)
    {command : PeerCommand} {frames : List Frame} {reports : List PeerReport}
    (acted : responder.act command = some (next, frames, reports)) : next.runtime.Unfinished := by
  have acts := Responder.acts_of_act acted
  cases acts with
  | called _ stepped => exact unfinished
  | sent => exact unfinished
  | changed same =>
    intro requestId buffer found
    rw [same] at found
    exact unfinished requestId buffer found

theorem Unaware.act {node : Node} {responder : Responder} (unaware : Unaware responder)
    {command : PeerCommand} (unassuming : Unassuming node (.peer command)) {next : Responder}
    {frames : List Frame} {reports : List PeerReport}
    (acted : responder.act command = some (next, frames, reports)) :
    Unaware next ∧ ∀ frame ∈ frames, Foreign frame := by
  have acts := Responder.acts_of_act acted
  have carried := fun frame (member : frame ∈ frames) => acts.frames member
  cases acts with
  | called _ stepped =>
    refine ⟨unaware.call unassuming stepped, ?_⟩
    intro frame member
    obtain ⟨message, outgoing, sent⟩ := carried frame member
    exact ⟨message, unaware.outgoing unassuming outgoing, sent⟩
  | sent => exact ⟨unaware, fun frame member => ⟨_, unassuming, Runtime.isFrameOf_of_mem member⟩⟩
  | changed same =>
    exact ⟨⟨unfinished_act unaware.unfinished acted, unaware.sending⟩, List.forall_mem_nil _⟩

theorem discoveryFrames_foreign {outcome : Nat → Bool} {effects : List Sd.Effect}
    (made : ∀ effect ∈ effects, effect.Made) :
    ∀ frame ∈ Responder.discoveryFrames outcome effects, Foreign frame := by
  intro frame member
  obtain ⟨effect, emitted, inside⟩ := List.mem_flatMap.mp member
  cases effect with
  | sent entry message address port =>
    obtain ⟨method, known, rfl⟩ := made _ emitted
    exact ⟨_, Sd.ServiceDiscovery.sdMessage_ordinary known entry, Runtime.isFrameOf_of_mem inside⟩
  | _ => cases inside

theorem response_ordinary {request : Message} (ordinary : Runtime.isSdMessage request = false)
    (answer : Answer) : (answer.response request).Ordinary := by
  refine ⟨Responder.response_plain answer request, ?_⟩
  cases answer with
  | respond payload => exact ordinary
  | refuse code => exact ordinary

theorem heard_nothing {responder : Responder} (unfinished : responder.runtime.Unfinished)
    {frame : Frame} (foreign : Foreign frame) (input : PeerInput) :
    responder.heard frame input = [] ∧
      (responder.receive frame input).1.runtime.serviceDiscovery =
        responder.runtime.serviceDiscovery := by
  obtain ⟨original, ⟨plain, notSd⟩, sent⟩ := foreign
  by_cases fits : frame.data.length ≤ Runtime.receiveLimit frame.reliable
  · cases parsed : Message.deserialize frame.data with
    | none => simp [Responder.heard, Responder.receive, fits, parsed]
    | some message =>
      obtain ⟨inert, whole⟩ := Runtime.received_of_frame plain sent parsed
      have other : message.isTpMessage = false → Runtime.isSdMessage message = false := by
        intro single
        rw [(whole single).1]
        exact notSd
      rw [Responder.heard, if_pos fits, parsed, Peers.runtime_receive fits parsed]
      exact (Runtime.receive_unheard unfinished inert other _ _).symm
  · simp [Responder.heard, Responder.receive, fits]

theorem Unaware.receive {responder : Responder} (unaware : Unaware responder) {frame : Frame}
    (foreign : Foreign frame) (input : PeerInput) :
    Unaware (responder.receive frame input).1 ∧
      ∀ sent ∈ (responder.receive frame input).2.1, Foreign sent := by
  obtain ⟨original, ⟨plain, notSd⟩, sent⟩ := foreign
  have receives := Responder.receives unaware.unfinished plain sent input
  generalize responder.receive frame input = result at receives ⊢
  cases receives with
  | nothing unfinished => exact ⟨⟨unfinished, unaware.sending⟩, List.forall_mem_nil _⟩
  | @handed runtime unfinished short fits =>
    have after : Unaware { responder with runtime := runtime } := ⟨unfinished, unaware.sending⟩
    refine ⟨after.handle _ _ _, ?_⟩
    intro reply member
    obtain ⟨answer, -, -, inside⟩ := Peers.frames_handle member
    have other : Runtime.isSdMessage original.received = false := notSd
    exact ⟨_, response_ordinary other answer, inside⟩

theorem unaware_invariant : (protocol Node).Invariant Unassuming (fun _ => Foreign)
    (fun _ _ responder => Unaware responder) fun _ _ => True := by
  refine ⟨⟨?_, ?_, ?_⟩, ?_, ?_⟩
  · exact fun _ _ _ foreign => foreign
  · exact fun _ _ _ _ => trivial
  · exact fun _ _ _ _ _ _ unaware => unaware
  · intro reports node responder command result unaware unassuming acted
    have acts := Responder.actsNode_of_actNode acted
    cases acts with
    | @peer command next frames own _ stepped =>
      obtain ⟨after, frames⟩ := unaware.act unassuming stepped
      exact ⟨after, frames, fun _ _ => trivial⟩
    | @discovery action outcome sd _ current =>
      exact ⟨⟨unaware.unfinished, unaware.sending⟩,
        discoveryFrames_foreign (sd.perform_made action), fun _ _ => trivial⟩
  · intro reports node responder frame input unaware foreign
    obtain ⟨after, frames⟩ := unaware.receive foreign input.toPeerInput
    refine ⟨after, ?_, fun _ _ => trivial⟩
    intro sent member
    have nothing := (heard_nothing unaware.unfinished foreign input.toPeerInput).1
    have own : sent ∈ (responder.receive frame input.toPeerInput).2.1 := by
      simpa [protocol, Responder.receiveNode, nothing, Responder.discoveryFrames] using member
    exact frames sent own

/-- The calls of a node's service discovery. -/
def discovering : NodeCommand → List Sd.Action
  | .peer _ => []
  | .discovery action _ => [action]

def discovered : NodeReport → Option Sd.Effect
  | .peer _ => none
  | .discovery effect => some effect

/-- The calls of the service discovery of one node, and all that it did. -/
abbrev callsAt [DecidableEq Node] (node : Node)
    (actions : List (Network.Action Node NodeCommand NodeInput Frame)) : List Sd.Action :=
  Network.Protocol.told discovering node actions

abbrev effectsAt [DecidableEq Node] (node : Node) (reports : List (Node × NodeReport)) :
    List Sd.Effect :=
  Network.Protocol.noted discovered node reports

theorem discovered_peer (reports : List PeerReport) :
    (reports.map NodeReport.peer).filterMap discovered = [] := by
  simp [List.filterMap_map, discovered]

theorem discovered_discovery (effects : List Sd.Effect) :
    (effects.map NodeReport.discovery).filterMap discovered = effects := by
  rw [List.filterMap_map]
  exact List.filterMap_some

/-- The service discovery of a node. -/
def Hosts (responder : Responder) (sd : Sd.ServiceDiscovery) : Prop :=
  responder.runtime.serviceDiscovery = some sd

theorem acts_alone {responder next : Responder} {command : NodeCommand} {frames : List Frame}
    {own : List NodeReport} {sd : Sd.ServiceDiscovery}
    (acted : responder.actNode command = some (next, frames, own)) (hosts : Hosts responder sd) :
    ∃ after, Runs.Guarded Sd.ServiceDiscovery.step (fun _ action => action.Own) sd
      (discovering command) (own.filterMap discovered) after ∧ Hosts next after := by
  have acts := Responder.actsNode_of_actNode acted
  cases acts with
  | peer other stepped =>
    rw [discovered_peer]
    exact ⟨sd, .nil, (Responder.serviceDiscovery_act other stepped).trans hosts⟩
  | @discovery action outcome host single current =>
    obtain rfl := Option.some.inj (hosts.symm.trans current)
    rw [discovered_discovery]
    exact ⟨(sd.perform action).1, .head single rfl, rfl⟩

theorem receives_alone {responder : Responder} {frame : Frame} {input : NodeInput}
    {sd : Sd.ServiceDiscovery} (unfinished : responder.runtime.Unfinished)
    (foreign : Foreign frame) (hosts : Hosts responder sd) :
    (responder.receiveNode frame input).2.2.filterMap discovered = [] ∧
      Hosts (responder.receiveNode frame input).1 sd := by
  obtain ⟨nothing, same⟩ := heard_nothing unfinished foreign input.toPeerInput
  refine ⟨?_, same.trans hosts⟩
  simp only [Responder.receiveNode, nothing, List.map_nil, List.nil_append]
  exact discovered_peer _

theorem unaware_create (clientId : ClientId) (config : Sd.Config) :
    Unaware { Responder.create clientId with
      runtime := { (Responder.create clientId).runtime with
        serviceDiscovery := some (.create config) } } := by
  constructor
  · exact (Peers.quiescent_create clientId).unfinished
  · intro sending current
    cases current

theorem hosted_alone [DecidableEq Node] {clientIds : Node → ClientId}
    {configs : Node → Sd.Config}
    {actions : List (Network.Action Node NodeCommand NodeInput Frame)}
    {reports : List (Node × NodeReport)} {state : State Node}
    (guarded : Runs.Guarded (protocol Node).step (Network.Protocol.Commanded Unassuming)
      (create clientIds configs) actions reports state) (node : Node) :
    ∃ sd, Runs.Guarded Sd.ServiceDiscovery.step (fun _ action => action.Own)
      (.create (configs node)) (callsAt node actions) (effectsAt node reports) sd ∧
        Hosts (state.locals node) sd :=
  unaware_invariant.alone Hosts discovering discovered
    (fun _ _ _ _ _ _ _ acted hosts => acts_alone acted hosts)
    (fun _ _ _ _ _ _ unaware foreign hosts => receives_alone unaware.unfinished foreign hosts) rfl
    (fun node => unaware_create (clientIds node) (configs node)) guarded node rfl

/-- The nodes' service discoveries know nothing of one another. Whatever the transports lose, delay,
    reorder and duplicate, and whatever services the nodes offer, find and subscribe to, at any
    time: each service discovery goes the way it would go alone. It discovers no service, records
    no subscriber, and calls no handler. -/
theorem discoveries_isolated [DecidableEq Node] {clientIds : Node → ClientId}
    {configs : Node → Sd.Config}
    {actions : List (Network.Action Node NodeCommand NodeInput Frame)}
    {reports : List (Node × NodeReport)} {state : State Node}
    (guarded : Runs.Guarded (protocol Node).step (Network.Protocol.Commanded Unassuming)
      (create clientIds configs) actions reports state) (node : Node) :
    ∃ sd, (state.locals node).runtime.serviceDiscovery = some sd ∧
      Runs.Guarded Sd.ServiceDiscovery.step (fun _ action => action.Own) (.create (configs node))
        (callsAt node actions) (effectsAt node reports) sd ∧
      sd.Solitary ∧ ∀ effect ∈ effectsAt node reports, effect.Sending := by
  obtain ⟨sd, run, current⟩ := hosted_alone guarded node
  obtain ⟨solitary, sending⟩ := (Sd.ServiceDiscovery.solitary_create _).run run
  exact ⟨sd, current, run, solitary, sending⟩

def offerFrame : Frame where
  data := (Sd.ServiceDiscovery.sdMessage someipSdMethodOfferService
    (.createOfferService 0x1234 0x0001 1 0 3)).serialize
  address := "224.244.224.245"
  port := someipSdPort
  reliable := false

/-- A node offers a service, the message arrives, and the other node looks for the service. -/
def offerAcross : List (Network.Action (Fin 2) NodeCommand NodeInput Frame) :=
  [.act Peers.asker (.discovery (.setSendMessageCallback true) fun _ => true),
    .act Peers.asker (.discovery (.offerService Sd.ServiceDiscovery.offeredConfig 0) fun _ => true),
    .arrive Peers.answerer offerFrame ⟨Peers.quietInput, fun _ => true⟩,
    .act Peers.answerer (.discovery (.findService 0x1234 0x0001 1) fun _ => true)]

theorem offerAcross_unnoticed : ∃ (state : State (Fin 2)) (sd : Sd.ServiceDiscovery),
    Runs.Run (protocol (Fin 2)).step (create Peers.twoPeers fun _ => {}) offerAcross
      [(Peers.asker, .discovery Sd.ServiceDiscovery.initialOffer)] state ∧
      (state.locals Peers.answerer).runtime.serviceDiscovery = some sd ∧ sd.Solitary := by
  have run : ∃ state, Runs.Guarded (protocol (Fin 2)).step (Network.Protocol.Commanded Unassuming)
      (create Peers.twoPeers fun _ => {}) offerAcross
      [(Peers.asker, .discovery Sd.ServiceDiscovery.initialOffer)] state :=
    Runs.exists_guarded (by decide +kernel)
  obtain ⟨state, guarded⟩ := run
  obtain ⟨sd, hosts, -, solitary, -⟩ := discoveries_isolated guarded Peers.answerer
  exact ⟨state, sd, guarded.run, hosts, solitary⟩

end Nodes
end Msomeip
