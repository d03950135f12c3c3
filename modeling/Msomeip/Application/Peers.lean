import Msomeip.Application.Replies
import Msomeip.Application.Steps
import Msomeip.Library.Network
import Msomeip.Runtime.SentFrames

namespace Msomeip

open Transport

/-- Peers with a runtime and an application each, which reach one another by their transports
    only. What happens at a peer of itself: a call of the application, a call of `send_message` by
    other code, a service handler set or removed, or anything that the service discovery goes
    through. -/
inductive PeerCommand
  | call (action : Application.Action Application.MethodHandler)
  | sendMessage (message : Message) (address : String) (port : UInt16) (reliable : Bool)
      (outcome : Nat → Bool)
  | registerServiceHandler (service : ServiceId) (instance' : InstanceId)
  | unregisterServiceHandler (service : ServiceId) (instance' : InstanceId)
  | discover (serviceDiscovery : Option Sd.ServiceDiscovery)

/-- What is noted at a peer: the requests that it numbers, with a future or without one, the
    messages that it makes to be sent, those that a service handler is called with, how requests
    are answered, and the futures that a received message completes. -/
inductive PeerReport
  | asked (promise : Nat) (request : Message)
  | told (request : Message)
  | outgoing (message : Message)
  | handed (reliable : Bool) (message : Message)
  | answered (request : Message) (answer : Answer)
  | completed (promise : Nat) (message : Message)
deriving DecidableEq

/-- What the processing of a received frame gets from the outside. -/
structure PeerInput where
  arrival : Runtime.Arrival
  network : Application.Network

namespace Responder

def create (clientId : ClientId) : Responder where
  runtime := { clientId := clientId }
  app := Application.create clientId

def framesOf (effects : List (Application.Effect Application.MethodHandler)) : List Frame :=
  effects.filterMap fun effect =>
    match effect with
    | .sent frame => some frame
    | _ => none

def completions (effects : List (Application.Effect Application.MethodHandler)) :
    List PeerReport :=
  effects.filterMap fun effect =>
    match effect with
    | .completed promise message => some (.completed promise message)
    | _ => none

def callReports (app : Application Application.MethodHandler) :
    Application.Action Application.MethodHandler → List PeerReport
  | .sendBegin service instance' method payload reliable _ _ =>
    [.asked app.promises.next (app.request service instance' method payload reliable)]
  | .sendFinish _ => app.sending.toList.map fun sending => .outgoing sending.message
  | .sendRequestNoReturn service instance' method payload reliable _ =>
    let message := { app.request service instance' method payload reliable with
      messageType := .requestNoReturn }
    [.told message, .outgoing message]
  | _ => []

/-- Only the runtime calls `handle_message`. -/
def act (responder : Responder) :
    PeerCommand → Option (Responder × List Frame × List PeerReport)
  | .call (.handleMessage _ _) => none
  | .call action =>
    (Application.step responder.app action).map fun (app, effects) =>
      ({ responder with app := app }, framesOf effects, callReports responder.app action)
  | .sendMessage message address port reliable outcome =>
    some (responder, (Runtime.sendMessage message address port reliable outcome).2,
      [.outgoing message])
  | .registerServiceHandler service instance' =>
    some ({ responder with
      runtime := responder.runtime.registerServiceHandler service instance' (some ()) }, [], [])
  | .unregisterServiceHandler service instance' =>
    some ({ responder with
      runtime := responder.runtime.unregisterServiceHandler service instance' }, [], [])
  | .discover serviceDiscovery =>
    some ({ responder with
      runtime := { responder.runtime with serviceDiscovery := serviceDiscovery } }, [], [])

/-- The service handlers are `handle_message` of the application; it answers at once. -/
def handle (responder : Responder) (message : Message) (reliable : Bool)
    (network : Application.Network) : Responder × List Frame × List PeerReport :=
  let (app, effects) := responder.app.handleMessage message network
  let answers := (responder.app.answer message).toList
  ({ responder with app := app },
    answers.flatMap fun answer => Application.reply (answer.response message) network,
    .handed reliable message :: (completions effects ++ answers.flatMap fun answer =>
      [.answered message answer, .outgoing (answer.response message)]))

/-- A message is handed to one handler at most. -/
def invoked (effects : List (Runtime.Effect Unit)) : Option Message :=
  effects.findSome? fun effect =>
    match effect with
    | .invoked _ _ message => some message
    | .discovery _ => none

/-- A receive thread: a frame that is too long is not read, and one that is no message is
    dropped. -/
def receive (responder : Responder) (frame : Frame) (input : PeerInput) :
    Responder × List Frame × List PeerReport :=
  if frame.data.length ≤ Runtime.receiveLimit frame.reliable then
    match Message.deserialize frame.data with
    | none => (responder, [], [])
    | some message =>
      let (runtime, effects) := responder.runtime.receive message frame.reliable input.arrival
      match invoked effects with
      | none => ({ responder with runtime := runtime }, [], [])
      | some message =>
        { responder with runtime := runtime }.handle message frame.reliable input.network
  else (responder, [], [])

end Responder

namespace Peers

def protocol (Peer : Type) : Network.Protocol Peer Responder PeerCommand PeerInput Frame PeerReport where
  act := fun _ responder command => responder.act command
  receive := fun _ responder frame input => responder.receive frame input

abbrev State (Peer : Type) := Network.State Peer Responder Frame

def create {Peer : Type} (clientIds : Peer → ClientId) : State Peer where
  locals := fun peer => Responder.create (clientIds peer)

end Peers

namespace Application

variable {Handler : Type}

theorem sendVia_frames {message : Message} {reliable : Bool} {outcome : Nat → Nat → Bool}
    {index : Nat} {endpoints : List Endpoint} {frame : Frame}
    (member : frame ∈ (sendVia message reliable outcome index endpoints).2) :
    Runtime.IsFrameOf message frame := by
  induction endpoints generalizing index with
  | nil => cases member
  | cons endpoint rest ih =>
    simp only [sendVia] at member
    split at member
    · split at member
      · exact Runtime.isFrameOf_of_mem member
      · rcases List.mem_append.mp member with here | later
        · exact Runtime.isFrameOf_of_mem here
        · exact ih later
    · exact ih member

theorem reply_frames {response : Message} {network : Network} {frame : Frame}
    (member : frame ∈ reply response network) : Runtime.IsFrameOf response frame := by
  unfold reply at member
  split at member
  · cases member
  · exact Runtime.isFrameOf_of_mem member

theorem sendFinish_frames {app : Application Handler} {sending : Sending} {network : Network}
    {frame : Frame} : .sent frame ∈ (app.sendFinish sending network).2 →
      Runtime.IsFrameOf sending.message frame := by
  simp only [sendFinish]
  split
  · simpa using sendVia_frames
  · split
    · simpa using sendVia_frames
    · simpa using sendVia_frames

theorem completeEach_sent {message : Message} {eraseDone : Bool} {app : Application Handler}
    {entries : List (RequestId × PendingRequest)} {frame : Frame} :
    .sent frame ∉ (app.completeEach message eraseDone entries).2.2 := by
  induction entries generalizing app with
  | nil => exact List.not_mem_nil
  | cons entry rest ih =>
    simp only [completeEach]
    split
    · simp
    · intro member
      rcases List.mem_cons.mp member with same | later
      · cases same
      · exact ih later

theorem stop_sent {app : Application Handler} {traversal : Traversal} {frame : Frame} :
    .sent frame ∉ (app.stop traversal).2 := by
  simp only [stop]
  split
  · exact List.not_mem_nil
  · split
    · exact completeEach_sent
    · exact completeEach_sent

end Application

namespace Responder

theorem mem_framesOf {effects : List (Application.Effect Application.MethodHandler)}
    {frame : Frame} : frame ∈ framesOf effects ↔ .sent frame ∈ effects := by
  simp only [framesOf, List.mem_filterMap]
  constructor
  · rintro ⟨effect, member, same⟩
    split at same
    · rwa [← Option.some.inj same]
    · cases same
  · intro member
    exact ⟨_, member, rfl⟩

/-- All that a call puts on the wire is reported. -/
theorem call_frames {responder : Responder}
    {action : Application.Action Application.MethodHandler}
    {app : Application Application.MethodHandler}
    {effects : List (Application.Effect Application.MethodHandler)}
    (stepped : Application.step responder.app action = some (app, effects)) {frame : Frame}
    (sent : .sent frame ∈ effects)
    (calls : ∀ message network, action ≠ .handleMessage message network) :
    ∃ message, .outgoing message ∈ callReports responder.app action ∧
      Runtime.IsFrameOf message frame := by
  cases action with
  | sendFinish network =>
    simp only [Application.step] at stepped
    split at stepped
    · rename_i sending current
      obtain ⟨-, rfl⟩ := Prod.mk.inj (Option.some.inj stepped)
      exact ⟨sending.message, by simp [callReports, current], Application.sendFinish_frames sent⟩
    · cases stepped
  | sendRequestNoReturn service instance' method payload reliable network =>
    simp only [Application.step] at stepped
    split at stepped
    · cases stepped
    · obtain ⟨-, rfl⟩ := Prod.mk.inj (Option.some.inj stepped)
      obtain ⟨own, member, same⟩ := List.mem_map.mp sent
      obtain rfl := Application.Effect.sent.inj same
      exact ⟨_, by simp [callReports], Application.sendVia_frames member⟩
  | sendBegin service instance' method payload reliable timeout now =>
    simp only [Application.step] at stepped
    split at stepped
    · cases stepped
    · obtain ⟨-, rfl⟩ := Prod.mk.inj (Option.some.inj stepped)
      simp at sent
  | stop traversal =>
    obtain ⟨-, rfl⟩ := Prod.mk.inj (Option.some.inj stepped)
    exact (Application.stop_sent sent).elim
  | cleanupExpiredRequests now traversal =>
    obtain ⟨-, rfl⟩ := Prod.mk.inj (Option.some.inj stepped)
    exact (Application.completeEach_sent sent).elim
  | handleMessage message network => exact (calls message network rfl).elim
  | start | registerMethodHandler method handler | unregisterMethodHandler method
  | setEventHandler event handler =>
    obtain ⟨-, rfl⟩ := Prod.mk.inj (Option.some.inj stepped)
    cases sent

/-- What a command does to a peer: a call of the application that reports what it sends, one
    message that is sent, or something that changes the runtime only, and not what it has stored
    of segments. -/
inductive Acts (responder : Responder) :
    PeerCommand → Responder × List Frame × List PeerReport → Prop
  | called {action : Application.Action Application.MethodHandler}
      {app : Application Application.MethodHandler}
      {effects : List (Application.Effect Application.MethodHandler)} :
      (∀ message network, action ≠ .handleMessage message network) →
      Application.step responder.app action = some (app, effects) →
      Acts responder (.call action)
        ({ responder with app := app }, framesOf effects, callReports responder.app action)
  | sent {message : Message} {address : String} {port : UInt16} {reliable : Bool}
      {outcome : Nat → Bool} :
      Acts responder (.sendMessage message address port reliable outcome)
        (responder, (Runtime.sendMessage message address port reliable outcome).2,
          [.outgoing message])
  | changed {command : PeerCommand} {runtime : Runtime Unit} :
      runtime.tpReassembler = responder.runtime.tpReassembler →
      Acts responder command ({ responder with runtime := runtime }, [], [])

theorem acts_of_act {responder : Responder} {command : PeerCommand}
    {result : Responder × List Frame × List PeerReport}
    (acted : responder.act command = some result) : responder.Acts command result := by
  unfold act at acted
  split at acted
  · cases acted
  · rename_i action other
    obtain ⟨⟨app, effects⟩, stepped, rfl⟩ := Option.map_eq_some_iff.mp acted
    exact .called (fun message network => other message network) stepped
  · obtain rfl := Option.some.inj acted
    exact .sent
  · obtain rfl := Option.some.inj acted
    exact .changed rfl
  · obtain rfl := Option.some.inj acted
    exact .changed rfl
  · obtain rfl := Option.some.inj acted
    exact .changed rfl

theorem Acts.frames {responder : Responder} {command : PeerCommand}
    {result : Responder × List Frame × List PeerReport} (acts : responder.Acts command result)
    {frame : Frame} (sent : frame ∈ result.2.1) :
    ∃ message, .outgoing message ∈ result.2.2 ∧ Runtime.IsFrameOf message frame := by
  cases acts with
  | called calls stepped => exact call_frames stepped (mem_framesOf.mp sent) calls
  | @sent message _ _ _ _ =>
    exact ⟨message, List.mem_singleton_self _, Runtime.isFrameOf_of_mem sent⟩
  | changed _ => cases sent

/-- What the arrival of a frame of a message that is no segment does to a peer whose stored
    segments stay incomplete. -/
inductive Receives (responder : Responder) (original : Message) (frame : Frame)
    (network : Application.Network) : Responder × List Frame × List PeerReport → Prop
  | nothing {runtime : Runtime Unit} : runtime.Unfinished →
      Receives responder original frame network ({ responder with runtime := runtime }, [], [])
  | handed {runtime : Runtime Unit} : runtime.Unfinished →
      original.payloadData.length ≤ Runtime.maxSegmentSize frame.reliable →
      Message.headerSize + original.payloadData.length ≤ Runtime.receiveLimit frame.reliable →
      Receives responder original frame network
        ({ responder with runtime := runtime }.handle original.received frame.reliable network)

theorem receives {responder : Responder} (unfinished : responder.runtime.Unfinished)
    {original : Message} {frame : Frame} (plain : original.isTpMessage = false)
    (sent : Runtime.IsFrameOf original frame) (input : PeerInput) :
    responder.Receives original frame input.network (responder.receive frame input) := by
  unfold receive
  split
  · rename_i fits
    split
    · exact .nothing unfinished
    · rename_i message parsed
      obtain ⟨inert, whole⟩ := Runtime.received_of_frame plain sent parsed
      have after := Runtime.receive_unfinished unfinished inert frame.reliable input.arrival
      have handing : ∀ {key handler handed}, .invoked key handler handed ∈
          (responder.runtime.receive message frame.reliable input.arrival).2 →
            handed = message ∧ message.isTpMessage = false := fun member =>
        Runtime.receive_invoked unfinished inert member
      generalize responder.runtime.receive message frame.reliable input.arrival = received
        at after handing ⊢
      obtain ⟨runtime, effects⟩ := received
      simp only
      split
      · exact .nothing after
      · rename_i other found
        obtain ⟨effect, member, same⟩ := List.exists_of_findSome?_eq_some found
        cases effect with
        | discovery caused => cases same
        | invoked key handler handed =>
          obtain rfl := Option.some.inj same
          obtain ⟨rfl, other⟩ := handing member
          obtain ⟨rfl, short, length⟩ := whole other
          exact .handed after short (length ▸ fits)
  · exact .nothing unfinished

end Responder
end Msomeip
