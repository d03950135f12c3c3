import Msomeip.Application.Events
import Msomeip.Application.Responses

namespace Msomeip

open Transport

/-- What a method handler does with a request: it calls `send_response` or `send_error_response`. -/
inductive Answer
  | respond (payload : PayloadData)
  | refuse (code : ReturnCode)
deriving DecidableEq, Repr

namespace Answer

def response (answer : Answer) (request : Message) : Message :=
  match answer with
  | .respond payload => (Message.createResponse request).setPayload payload
  | .refuse code => Message.createErrorResponse request code

/-- The call of `send_message` that the answer leads to: its destination is looked up among the
    endpoints discovered for the service. -/
def calls (answer : Answer) (request : Message) (sd : Sd.ServiceDiscovery) : List SendCall :=
  match (sd.getServiceEndpoints request.serviceId request.instanceId).find?
    (·.protocol == .udp) with
  | none => []
  | some endpoint => [⟨answer.response request, endpoint.address, endpoint.port, false⟩]

@[simp] theorem response_ids (answer : Answer) (request : Message) :
    (answer.response request).clientId = request.clientId ∧
      (answer.response request).sessionId = request.sessionId := by
  cases answer with
  | respond payload => exact ⟨rfl, rfl⟩
  | refuse code => exact ⟨rfl, rfl⟩

/-- The frames of `send_response` and `send_error_response` are those of the calls. -/
theorem calls_frames (answer : Answer) (request : Message) (sd : Sd.ServiceDiscovery)
    (outcome : Nat → Nat → Bool) :
    Application.reply (answer.response request)
        ⟨sd.getServiceEndpoints request.serviceId request.instanceId, outcome⟩ =
      (answer.calls request sd).flatMap fun call =>
        (Runtime.sendMessage call.message call.address call.port call.reliable (outcome 0)).2 := by
  simp only [Application.reply, calls]
  cases (sd.getServiceEndpoints request.serviceId request.instanceId).find?
      (·.protocol == .udp) with
  | none => rfl
  | some endpoint => rw [List.flatMap_singleton]

end Answer

namespace Application

abbrev MethodHandler := Message → Option Answer

/-- How `handle_message` has a request answered: by its method handler, and where there is none
    by itself. -/
def answer (app : Application MethodHandler) (request : Message) : Option Answer :=
  if request.isResponseType then none
  else if request.isEvent then none
  else if request.isRequestType then
    match app.methodHandlers[request.methodId]? with
    | some (some handler) => handler request
    | _ => some (.refuse .eUnknownMethod)
  else none

theorem answer_some {app : Application MethodHandler} {request : Message} {answer : Answer}
    (answered : app.answer request = some answer) (network : Network) :
    (∃ handler, (app.handleMessage request network).2 = [.invoked handler request] ∧
        handler request = some answer) ∨
      answer = .refuse .eUnknownMethod ∧ (app.handleMessage request network).2 =
        (sendErrorResponse request .eUnknownMethod network).map .sent := by
  unfold Application.answer at answered
  unfold handleMessage
  split at answered
  · cases answered
  · rename_i notResponse
    split at answered
    · cases answered
    · rename_i notEvent
      split at answered
      · rename_i isRequest
        rw [if_neg notResponse, if_neg notEvent, if_pos isRequest]
        split at answered
        · rename_i handler found
          rw [found]
          exact .inl ⟨handler, rfl, answered⟩
        · rename_i missing
          obtain rfl := Option.some.inj answered
          apply Or.inr
          apply And.intro rfl
          split
          · rename_i handler found
            exact absurd found (missing handler)
          · rfl
      · cases answered

end Application

/-- A runtime with one application, whose `handle_message` is its only service handler. -/
structure Responder where
  runtime : Runtime Unit
  app : Application Application.MethodHandler

namespace Responder

/-- The calls of `send_message` while a message is received from a source, whose address and port
    go no further than `on_udp_message_received`; `sd` is the discovery at the time of the
    answer. -/
def onUdpMessageReceived (responder : Responder) (message : Message) (_address : String)
    (_port : UInt16) (arrival : Runtime.Arrival) (sd : Sd.ServiceDiscovery) : List SendCall :=
  (responder.runtime.onUdpMessageReceived message arrival).2.flatMap fun effect =>
    match effect with
    | .discovery _ => []
    | .invoked _ _ request =>
      match responder.app.answer request with
      | none => []
      | some answer => answer.calls request sd

def Handed (responder : Responder) (message : Message) (arrival : Runtime.Arrival)
    (request : Message) : Prop :=
  ∃ key handler, .invoked key handler request ∈
    (responder.runtime.onUdpMessageReceived message arrival).2

theorem invoked_only {runtime : Runtime Unit} {message request : Message}
    {arrival : Runtime.Arrival} {key : ServiceId × InstanceId} {handler : Unit}
    (invoked : .invoked key handler request ∈ (runtime.onUdpMessageReceived message arrival).2) :
    (runtime.onUdpMessageReceived message arrival).2 = [.invoked key handler request] := by
  unfold Runtime.onUdpMessageReceived at invoked ⊢
  generalize runtime.reassembled message arrival.now = replaced at invoked ⊢
  obtain ⟨whole, runtime⟩ := replaced
  cases whole with
  | none => cases invoked
  | some whole =>
    by_cases isSd : Runtime.isSdMessage whole = true
    · simp only [isSd, if_true] at invoked
      obtain ⟨caused, same⟩ := Runtime.processSd_discovery invoked
      cases same
    · simp only [isSd] at invoked ⊢
      exact Runtime.route_of_mem invoked

theorem calls_of_handed {responder : Responder} {message request : Message}
    {arrival : Runtime.Arrival} {answer : Answer} (address : String) (port : UInt16)
    (sd : Sd.ServiceDiscovery) (handed : responder.Handed message arrival request)
    (answered : responder.app.answer request = some answer) :
    responder.onUdpMessageReceived message address port arrival sd = answer.calls request sd := by
  obtain ⟨key, handler, invoked⟩ := handed
  simp only [onUdpMessageReceived, invoked_only invoked, List.flatMap_singleton, answered]

/-- One response goes out, to the source of the request and with its client and session id. -/
def AnsweredToSource (responder : Responder) (message request : Message) (address : String)
    (port : UInt16) (arrival : Runtime.Arrival) (sd : Sd.ServiceDiscovery) : Prop :=
  ∃ response : Message, response.clientId = request.clientId ∧
    response.sessionId = request.sessionId ∧
    responder.onUdpMessageReceived message address port arrival sd =
      [⟨response, address, port, false⟩]

/-- A request is answered to its source exactly when the first UDP endpoint discovered for its
    service is that source. -/
theorem answeredToSource_iff {responder : Responder} {message request : Message}
    {arrival : Runtime.Arrival} {answer : Answer} (address : String) (port : UInt16)
    (sd : Sd.ServiceDiscovery) (handed : responder.Handed message arrival request)
    (answered : responder.app.answer request = some answer) :
    responder.AnsweredToSource message request address port arrival sd ↔
      (sd.getServiceEndpoints request.serviceId request.instanceId).find? (·.protocol == .udp) =
        some ⟨address, port, .udp⟩ := by
  have calls := calls_of_handed address port sd handed answered
  unfold AnsweredToSource
  rw [calls, Answer.calls]
  cases found : (sd.getServiceEndpoints request.serviceId request.instanceId).find?
      (·.protocol == .udp) with
  | none => simp
  | some endpoint =>
    have udp : endpoint.protocol = .udp := by simpa using List.find?_some found
    obtain ⟨address', port', protocol⟩ := endpoint
    obtain rfl := udp
    constructor
    · intro sent
      obtain ⟨response, -, -, same⟩ := sent
      obtain ⟨-, rfl, rfl, -⟩ := SendCall.mk.inj (List.cons.inj same).1
      rfl
    · intro same
      obtain ⟨rfl, rfl, -⟩ := Endpoint.mk.inj (Option.some.inj same)
      exact ⟨_, (answer.response_ids request).1, (answer.response_ids request).2, rfl⟩

def echo : Responder where
  runtime := ({ clientId := 0x0001 } : Runtime Unit).registerServiceHandler 0x1234 0xFFFF (some ())
  app :=
    { clientId := 0x0001
      methodHandlers := (∅ : Std.ExtTreeMap MethodId (Option Application.MethodHandler)).insert
        0x0001 (some fun request => some (.respond request.payloadData)) }

def echoRequest : Message :=
  { Message.createRequest 0x1234 0xFFFF 0x0001 0x0002 false with sessionId := 0x0007 }

def atOnce : Runtime.Arrival := ⟨0, fun _ => 0, fun _ => ⟨0, true⟩⟩

theorem echo_handed : echo.Handed echoRequest atOnce echoRequest :=
  ⟨(0x1234, 0xFFFF), (), by decide +kernel⟩

theorem echo_answer : echo.app.answer echoRequest = some (.respond []) := by decide +kernel

/-- The provider of the service has been discovered at the endpoint. -/
def discoveredAt (port : UInt16) : Sd.ServiceDiscovery :=
  (Sd.ServiceDiscovery.handleOfferService (.create {}) (.createOfferService 0x1234 0xFFFF 1 0 3)
    [Sd.ServiceDiscovery.client port .udp] 0).1

theorem echo_answered : echo.AnsweredToSource echoRequest echoRequest "10.0.0.2" 40000 atOnce
    (discoveredAt 40000) :=
  (answeredToSource_iff "10.0.0.2" 40000 (discoveredAt 40000) echo_handed echo_answer).mpr
    (by decide +kernel)

theorem echo_unanswered : ¬ ∀ (responder : Responder) message request arrival answer address port
    (sd : Sd.ServiceDiscovery), responder.Handed message arrival request →
      responder.app.answer request = some answer →
        responder.AnsweredToSource message request address port arrival sd := by
  intro all
  obtain ⟨response, -, -, sent⟩ := all echo echoRequest echoRequest atOnce (.respond []) "10.0.0.2"
    40000 (discoveredAt 30509) echo_handed echo_answer
  have calls : echo.onUdpMessageReceived echoRequest "10.0.0.2" 40000 atOnce (discoveredAt 30509) =
      [⟨(Answer.respond []).response echoRequest, "10.0.0.2", 30509, false⟩] := by
    decide +kernel
  rw [calls] at sent
  have port : [(30509 : UInt16)] = [40000] := congrArg (List.map SendCall.port) sent
  revert port
  decide

end Responder
end Msomeip
