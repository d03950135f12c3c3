import Msomeip.Application.Isolation
import Msomeip.Service.Results

namespace Msomeip

open Transport

theorem Sd.ServiceDiscovery.Solitary.recordedEndpoints {sd : Sd.ServiceDiscovery}
    (solitary : sd.Solitary) : sd.recordedEndpoints = [] := by
  have services : sd.getDiscoveredServices = [] := by
    rw [Sd.ServiceDiscovery.getDiscoveredServices, solitary.discovered]
    rfl
  have lists : sd.eventgroups.values.flatMap (·.subscribers) = [] := by
    rw [List.flatMap_eq_nil_iff]
    intro info member
    obtain ⟨key, found⟩ := Maps.mem_values.mp member
    have none := solitary.subscribers key
    rw [Sd.ServiceDiscovery.subscribers_eq, found] at none
    exact none
  rw [Sd.ServiceDiscovery.recordedEndpoints, services, lists]
  rfl

/-- An error that an application makes for a future of its own: no endpoint could be reached, the
    time was over, or the application was stopped. -/
def Message.Failure (message : Message) : Prop :=
  message.messageType = .error ∧
    message.returnCode ∈ [ReturnCode.eNotReachable, .eTimeout, .eNotOk]

namespace Responder

def recordedEndpoints (responder : Responder) : List Endpoint :=
  match responder.runtime.serviceDiscovery with
  | some sd => sd.recordedEndpoints
  | none => []

end Responder

namespace Application

variable {Handler : Type}

/-- What an action gets to know of the endpoints of a service. -/
def Action.network : Action Handler → Option Network
  | .sendFinish network | .sendRequestNoReturn _ _ _ _ _ network | .handleMessage _ network =>
    some network
  | _ => none

/-- What a call may do that reaches nobody. -/
structure Effect.Local (effect : Effect Handler) : Prop where
  unsent : ∀ frame, effect ≠ .sent frame
  failed : ∀ promise message, effect = .completed promise message → message.Failure

theorem completeEach_local {app : Application Handler} {message : Message}
    (failure : message.Failure) {eraseDone : Bool} {entries : List (RequestId × PendingRequest)} :
    ∀ effect ∈ (app.completeEach message eraseDone entries).2.2, effect.Local := by
  intro effect member
  constructor
  · rintro frame rfl
    exact completeEach_sent member
  · rintro promise completed rfl
    rw [ServiceProxy.completed_completeEach member]
    exact failure

/-- Where there is no endpoint, the request is not sent, and its future is completed with an error
    if it was not completed before. -/
theorem sendFinish_local (app : Application Handler) (sending : Sending) {network : Network}
    (unreached : network.endpoints = []) :
    ∀ effect ∈ (app.sendFinish sending network).2, effect.Local := by
  simp only [sendFinish, unreached, sendVia, Bool.false_eq_true, ↓reduceIte, List.map_nil,
    List.nil_append]
  split
  · exact List.forall_mem_singleton.mpr ⟨by simp, by simp⟩
  · refine List.forall_mem_singleton.mpr ⟨by simp, ?_⟩
    intro promise message completed
    obtain ⟨-, rfl⟩ := Effect.completed.inj completed
    exact ⟨rfl, List.mem_cons_self⟩

theorem stop_local {app : Application Handler} {traversal : Traversal} :
    ∀ effect ∈ (app.stop traversal).2, effect.Local := by
  simp only [stop]
  split
  · exact List.forall_mem_nil _
  · split
    · exact completeEach_local ⟨rfl, by decide⟩
    · exact completeEach_local ⟨rfl, by decide⟩

/-- A call of an application that finds no endpoint sends nothing, and completes futures with its
    own errors only. -/
theorem step_unreached {app next : Application Handler} {action : Action Handler}
    {effects : List (Effect Handler)} (stepped : step app action = some (next, effects))
    (calls : ∀ message network, action ≠ .handleMessage message network)
    (unreached : ∀ network ∈ action.network, network.endpoints = []) :
    ∀ effect ∈ effects, effect.Local := by
  cases action with
  | sendBegin service instance' method payload reliable timeout now =>
    simp only [step] at stepped
    split at stepped
    · cases stepped
    · obtain ⟨-, rfl⟩ := Prod.mk.inj (Option.some.inj stepped)
      exact List.forall_mem_singleton.mpr ⟨by simp, by simp⟩
  | sendFinish network =>
    simp only [step] at stepped
    split at stepped
    · rename_i sending _
      obtain ⟨-, rfl⟩ := Prod.mk.inj (Option.some.inj stepped)
      exact app.sendFinish_local sending (unreached network rfl)
    · cases stepped
  | sendRequestNoReturn service instance' method payload reliable network =>
    simp only [step] at stepped
    split at stepped
    · cases stepped
    · obtain ⟨-, rfl⟩ := Prod.mk.inj (Option.some.inj stepped)
      have none := unreached network rfl
      simp [none, sendVia]
  | stop traversal =>
    obtain ⟨-, rfl⟩ := Prod.mk.inj (Option.some.inj stepped)
    exact stop_local
  | cleanupExpiredRequests now traversal =>
    obtain ⟨-, rfl⟩ := Prod.mk.inj (Option.some.inj stepped)
    exact completeEach_local ⟨rfl, by decide⟩
  | handleMessage message network => exact (calls message network rfl).elim
  | start | registerMethodHandler method handler | unregisterMethodHandler method
  | setEventHandler event handler =>
    obtain ⟨-, rfl⟩ := Prod.mk.inj (Option.some.inj stepped)
    exact List.forall_mem_nil _

end Application

namespace Nodes

variable {Node : Type}

/-- What a node sends goes to endpoints that its own service discovery has recorded. -/
def LooksUp (state : State Node) : Network.Action Node NodeCommand NodeInput Frame → Prop
  | .act node (.peer (.sendMessage _ address port _ _)) =>
    ∃ endpoint ∈ (state.locals node).recordedEndpoints,
      endpoint.address = address ∧ endpoint.port = port
  | .act node (.peer (.call action)) =>
    ∀ network ∈ action.network, network.endpoints ⊆ (state.locals node).recordedEndpoints
  | .arrive node _ input => input.network.endpoints ⊆ (state.locals node).recordedEndpoints
  | _ => True

instance (state : State Node) :
    (action : Network.Action Node NodeCommand NodeInput Frame) → Decidable (LooksUp state action)
  | .act node (.peer (.sendMessage _ address port _ _)) =>
    inferInstanceAs (Decidable (∃ endpoint ∈ (state.locals node).recordedEndpoints,
      endpoint.address = address ∧ endpoint.port = port))
  | .act node (.peer (.call action)) =>
    inferInstanceAs (Decidable (∀ network ∈ action.network,
      ∀ endpoint ∈ network.endpoints, endpoint ∈ (state.locals node).recordedEndpoints))
  | .arrive node _ input =>
    inferInstanceAs (Decidable (∀ endpoint ∈ input.network.endpoints,
      endpoint ∈ (state.locals node).recordedEndpoints))
  | .act _ (.peer (.registerServiceHandler ..)) | .act _ (.peer (.unregisterServiceHandler ..))
  | .act _ (.peer (.discover _)) | .act _ (.discovery ..) => .isTrue trivial

/-- The frame carries a message of service discovery. -/
def Announcing (frame : Frame) : Prop :=
  ∃ method ∈ Sd.sdMethods, ∃ entry,
    Runtime.IsFrameOf (Sd.ServiceDiscovery.sdMessage method entry) frame

/-- A report of a node that nobody has talked to. -/
def Unanswered : NodeReport → Prop
  | .peer (.completed _ message) => message.Failure
  | .peer (.answered _ _) => False
  | _ => True

theorem discoveryFrames_announcing {outcome : Nat → Bool} {effects : List Sd.Effect}
    (made : ∀ effect ∈ effects, effect.Made) :
    ∀ frame ∈ Responder.discoveryFrames outcome effects, Announcing frame := by
  intro frame member
  obtain ⟨effect, emitted, inside⟩ := List.mem_flatMap.mp member
  cases effect with
  | sent entry message address port =>
    obtain ⟨method, known, rfl⟩ := made _ emitted
    exact ⟨method, known, entry, Runtime.isFrameOf_of_mem inside⟩
  | _ => cases inside

theorem callReports_unanswered {app : Application Application.MethodHandler}
    {action : Application.Action Application.MethodHandler} :
    ∀ report ∈ Responder.callReports app action, Unanswered (.peer report) := by
  cases action <;> simp [Responder.callReports, Unanswered]

theorem completions_unanswered {effects : List (Application.Effect Application.MethodHandler)}
    (unreached : ∀ effect ∈ effects, effect.Local) :
    ∀ report ∈ Responder.completions effects, Unanswered (.peer report) := by
  intro report member
  obtain ⟨effect, emitted, same⟩ := List.mem_filterMap.mp member
  split at same
  · rename_i promise message
    obtain rfl := Option.some.inj same
    exact (unreached _ emitted).failed promise message rfl
  · cases same

/-- A call at a node that has recorded no endpoint puts nothing on the wire, and completes futures
    with errors only. -/
theorem act_silent {responder next : Responder} {command : PeerCommand} {frames : List Frame}
    {reports : List PeerReport} (acted : responder.act command = some (next, frames, reports))
    (alone : ∀ action, command = .call action → ∀ network ∈ action.network, network.endpoints = [])
    (unsent : ∀ message address port reliable outcome,
      command ≠ .sendMessage message address port reliable outcome) :
    frames = [] ∧
      ∀ report ∈ reports ++ responder.callCompletions command, Unanswered (.peer report) := by
  unfold Responder.act at acted
  split at acted
  · cases acted
  · rename_i action other
    obtain ⟨⟨app, effects⟩, stepped, same⟩ := Option.map_eq_some_iff.mp acted
    have unreached := Application.step_unreached stepped
      (fun message network => other message network) (alone action rfl)
    cases same
    constructor
    · rw [List.eq_nil_iff_forall_not_mem]
      intro frame member
      exact (unreached _ (Responder.mem_framesOf.mp member)).unsent frame rfl
    · rw [Responder.callCompletions, stepped]
      exact List.forall_mem_append.mpr ⟨callReports_unanswered, completions_unanswered unreached⟩
  · exact (unsent _ _ _ _ _ rfl).elim
  · cases acted
    exact ⟨rfl, List.forall_mem_nil _⟩
  · cases acted
    exact ⟨rfl, List.forall_mem_nil _⟩
  · cases acted
    exact ⟨rfl, List.forall_mem_nil _⟩

/-- A message of service discovery that is handed to an application is an event for it: no future
    is completed, and nothing is answered. -/
theorem handle_silent {responder : Responder} {method : MethodId} (known : method ∈ Sd.sdMethods)
    (entry : Sd.ServiceEntry) (reliable : Bool) (network : Application.Network) :
    let message := (Sd.ServiceDiscovery.sdMessage method entry).received
    (responder.handle message reliable network).2.1 = [] ∧
      ∀ report ∈ (responder.handle message reliable network).2.2, Unanswered (.peer report) := by
  intro message
  have event : message.isEvent = true := by
    have others : Sd.sdMethods.all (fun method => (method ||| 0x8000) &&& 0x8000 != 0) = true := by
      decide
    exact List.all_eq_true.mp others method known
  have response : message.isResponseType = false := rfl
  have unanswered : responder.app.answer message = none := by
    simp only [Application.answer, response, event, Bool.false_eq_true, ↓reduceIte]
  have uncompleted : Responder.completions (responder.app.handleMessage message network).2 = [] := by
    simp only [Application.handleMessage, response, event, Bool.false_eq_true, ↓reduceIte]
    split <;> rfl
  simp [Responder.handle, unanswered, uncompleted, Unanswered]

theorem receive_silent {responder : Responder} (unfinished : responder.runtime.Unfinished)
    {frame : Frame} (announcing : Announcing frame) (input : PeerInput) :
    (responder.receive frame input).2.1 = [] ∧
      ∀ report ∈ (responder.receive frame input).2.2, Unanswered (.peer report) := by
  obtain ⟨method, known, entry, sent⟩ := announcing
  have plain := (Sd.ServiceDiscovery.sdMessage_ordinary known entry).1
  have receives := Responder.receives unfinished plain sent input
  generalize responder.receive frame input = result at receives ⊢
  cases receives with
  | nothing _ => exact ⟨rfl, List.forall_mem_nil _⟩
  | handed _ _ _ => exact handle_silent known entry frame.reliable input.network

theorem acts_silent {state : State Node} {node : Node} {command : NodeCommand}
    {result : Responder × List Frame × List NodeReport}
    (acted : (state.locals node).actNode command = some result)
    (nothing : (state.locals node).recordedEndpoints = [])
    (looksUp : LooksUp state (.act node command)) :
    (∀ frame ∈ result.2.1, Announcing frame) ∧ ∀ report ∈ result.2.2, Unanswered report := by
  have acts := Responder.actsNode_of_actNode acted
  cases acts with
  | @peer command next frames own other stepped =>
    have unsent : ∀ message address port reliable outcome,
        command ≠ .sendMessage message address port reliable outcome := by
      rintro message address port reliable outcome rfl
      obtain ⟨endpoint, member, -⟩ := looksUp
      rw [nothing] at member
      cases member
    have alone : ∀ action, command = .call action →
        ∀ network ∈ action.network, network.endpoints = [] := by
      rintro action rfl network asked
      have inside := looksUp network asked
      rw [nothing] at inside
      exact List.subset_nil.mp inside
    obtain ⟨rfl, unanswered⟩ := act_silent stepped alone unsent
    exact ⟨List.forall_mem_nil _, List.forall_mem_map.mpr unanswered⟩
  | @discovery action outcome sd single current =>
    refine ⟨discoveryFrames_announcing (sd.perform_made action), ?_⟩
    exact List.forall_mem_map.mpr fun _ _ => trivial

/-- A node whose stored segments stay incomplete and whose service discovery knows nobody. -/
structure Secluded (responder : Responder) : Prop where
  unfinished : responder.runtime.Unfinished
  alone : ∃ sd, Hosts responder sd ∧ sd.Solitary

theorem Secluded.recordedEndpoints {responder : Responder} (secluded : Secluded responder) :
    responder.recordedEndpoints = [] := by
  obtain ⟨sd, hosts, solitary⟩ := secluded.alone
  rw [Responder.recordedEndpoints, hosts]
  exact solitary.recordedEndpoints

theorem secluded_create (clientId : ClientId) (config : Sd.Config) :
    Secluded { Responder.create clientId with
      runtime := { (Responder.create clientId).runtime with
        serviceDiscovery := some (.create config) } } where
  unfinished := (unaware_create clientId config).unfinished
  alone := ⟨_, rfl, Sd.ServiceDiscovery.solitary_create config⟩

theorem Secluded.act {responder : Responder} (secluded : Secluded responder)
    {command : NodeCommand} {result : Responder × List Frame × List NodeReport}
    (acted : responder.actNode command = some result) : Secluded result.1 := by
  obtain ⟨sd, hosts, solitary⟩ := secluded.alone
  obtain ⟨after, run, stays⟩ := acts_alone acted hosts
  refine ⟨?_, after, stays, (solitary.run run).1⟩
  have acts := Responder.actsNode_of_actNode acted
  cases acts with
  | peer other stepped => exact unfinished_act secluded.unfinished stepped
  | discovery own current => exact secluded.unfinished

theorem Secluded.receive {responder : Responder} (secluded : Secluded responder) {frame : Frame}
    (announcing : Announcing frame) (input : NodeInput) :
    Secluded (responder.receiveNode frame input).1 ∧
      (responder.receiveNode frame input).2.1 = [] ∧
      ∀ report ∈ (responder.receiveNode frame input).2.2, Unanswered report := by
  obtain ⟨none, quiet⟩ := receive_silent secluded.unfinished announcing input.toPeerInput
  obtain ⟨method, known, entry, sent⟩ := announcing
  have ordinary := Sd.ServiceDiscovery.sdMessage_ordinary known entry
  have foreign : Foreign frame := ⟨_, ordinary, sent⟩
  have nothing := (heard_nothing secluded.unfinished foreign input.toPeerInput).1
  refine ⟨⟨?_, ?_⟩, ?_, ?_⟩
  · have receives := Responder.receives secluded.unfinished ordinary.1 sent input.toPeerInput
    change (responder.receive frame input.toPeerInput).1.runtime.Unfinished
    generalize responder.receive frame input.toPeerInput = result at receives ⊢
    cases receives with
    | nothing unfinished => exact unfinished
    | handed unfinished _ _ => exact unfinished
  · obtain ⟨sd, hosts, solitary⟩ := secluded.alone
    exact ⟨sd, (receives_alone secluded.unfinished foreign hosts).2, solitary⟩
  · simp [Responder.receiveNode, nothing, Responder.discoveryFrames, none]
  · simpa [Responder.receiveNode, nothing] using quiet

variable [DecidableEq Node] {clientIds : Node → ClientId} {configs : Node → Sd.Config}
  {actions : List (Network.Action Node NodeCommand NodeInput Frame)}
  {reports : List (Node × NodeReport)} {state : State Node}

/-- A closed system of nodes that send to the endpoints that they have discovered never gets to
    talk. Whatever their applications ask, tell, offer, subscribe to and notify, and whatever the
    transports do: all that is ever sent are messages of service discovery, no request is ever
    answered, and every future that is completed holds an error of its own application. -/
theorem nodes_silent
    (guarded : Runs.Guarded (protocol Node).step LooksUp (create clientIds configs) actions reports
      state) :
    (∀ frame ∈ state.wire, Announcing frame) ∧
      ∀ node report, (node, report) ∈ reports → Unanswered report := by
  have lasting : Network.Protocol.Lasting (fun (_ : List (Node × NodeReport)) => Announcing)
      (fun _ _ => Secluded) fun _ report => Unanswered report.2 :=
    ⟨fun _ _ _ announcing => announcing, fun _ _ _ quiet => quiet,
      fun _ _ _ _ _ _ secluded => secluded⟩
  have holds : Network.Protocol.Holds (fun _ => Announcing) (fun _ _ => Secluded)
      (fun _ report => Unanswered report.2) reports state := by
    apply guarded.invariant fun _ reports state => Network.Protocol.Holds (fun _ => Announcing)
      (fun _ _ => Secluded) (fun _ report => Unanswered report.2) reports state
    · exact ⟨List.forall_mem_nil _, fun node => secluded_create (clientIds node) (configs node),
        List.forall_mem_nil _⟩
    · intro _ reports state action next emitted holds looksUp stepped
      cases action with
      | act node command =>
        obtain ⟨result, acted, same⟩ := Option.map_eq_some_iff.mp stepped
        obtain ⟨rfl, rfl⟩ := Prod.mk.inj same
        have secluded := holds.locals node
        obtain ⟨announcing, quiet⟩ := acts_silent acted secluded.recordedEndpoints looksUp
        exact holds.moved lasting ⟨secluded.act acted, announcing, quiet⟩
      | arrive node frame input =>
        simp only [Network.Protocol.step] at stepped
        split at stepped
        · rename_i sent
          obtain ⟨rfl, rfl⟩ := Prod.mk.inj (Option.some.inj stepped)
          obtain ⟨secluded, none, quiet⟩ :=
            (holds.locals node).receive (holds.wire frame sent) input
          have leaves : Network.Protocol.Leaves (fun _ => Announcing) (fun _ _ => Secluded)
              (fun _ report => Unanswered report.2) reports node
              ((state.locals node).receiveNode frame input) :=
            ⟨secluded, none ▸ List.forall_mem_nil _, quiet⟩
          exact holds.moved lasting leaves
        · cases stepped
  exact ⟨holds.wire, fun node report member => holds.reports (node, report) member⟩

/-- A node offers a service, and the other asks for it, in vain, as it asks service discovery. -/
def askInVain : List (Network.Action (Fin 2) NodeCommand NodeInput Frame) :=
  [.act Peers.answerer (.discovery (.setSendMessageCallback true) fun _ => true),
    .act Peers.answerer (.discovery (.offerService Sd.ServiceDiscovery.offeredConfig 0) fun _ => true),
    .arrive Peers.asker offerFrame ⟨Peers.quietInput, fun _ => true⟩,
    .act Peers.asker (.peer (.call (.sendBegin 0x1234 0x0001 0x0001 [0x2A] false 5000 1))),
    .act Peers.asker (.peer (.call (.sendFinish ⟨[], fun _ _ => true⟩))),
    .act Peers.asker (.peer (.call (.sendRequestNoReturn someipSdServiceId 0x0001 someipSdMethodId
      [] false ⟨[], fun _ _ => true⟩)))]

def vainAsker : Application Application.MethodHandler := .create (Peers.twoPeers Peers.asker)

def vainRequest : Message := vainAsker.request 0x1234 0x0001 0x0001 [0x2A] false

def vainNotice : Message :=
  { { vainAsker with sessionId := 2 }.request someipSdServiceId 0x0001 someipSdMethodId [] false with
    messageType := .requestNoReturn }

def inVain : List (Fin 2 × NodeReport) :=
  [(Peers.answerer, .discovery Sd.ServiceDiscovery.initialOffer),
    (Peers.asker, .peer (.asked 0 vainRequest)), (Peers.asker, .peer (.outgoing vainRequest)),
    (Peers.asker, .peer (.completed 0 (vainRequest.createErrorResponse .eNotReachable))),
    (Peers.asker, .peer (.told vainNotice)), (Peers.asker, .peer (.outgoing vainNotice))]

theorem askInVain_silent : ∃ state : State (Fin 2),
    Runs.Run (protocol (Fin 2)).step (create Peers.twoPeers fun _ => {}) askInVain inVain
      state ∧
      ∀ frame ∈ state.wire, Announcing frame := by
  have run : ∃ state, Runs.Guarded (protocol (Fin 2)).step LooksUp
      (create Peers.twoPeers fun _ => {}) askInVain inVain state :=
    Runs.exists_guarded (by decide +kernel)
  obtain ⟨state, guarded⟩ := run
  exact ⟨state, guarded.run, (nodes_silent guarded).1⟩

end Nodes
end Msomeip
