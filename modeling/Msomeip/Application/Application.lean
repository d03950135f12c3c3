import Msomeip.Library.Maps
import Msomeip.Library.Promises
import Msomeip.Library.Runs
import Msomeip.Runtime.Runtime

namespace Msomeip

open Std Transport

structure PendingRequest where
  promise : Nat
  timestamp : TimePoint
  timeout : Milliseconds
deriving DecidableEq, Repr

/-- A `send_request` between the insertion of its request and its return; it holds
    `session_mutex_`. -/
structure Sending where
  message : Message
  promise : Nat
  reliable : Bool

/-- The handlers are callbacks from outside, of a type `Handler`; an empty one is `none`. -/
structure Application (Handler : Type) where
  clientId : ClientId
  sessionId : SessionId := 1
  pendingRequests : ExtTreeMap RequestId PendingRequest := ∅
  promises : Promises Message := {}
  methodHandlers : ExtTreeMap MethodId (Option Handler) := ∅
  eventHandlers : ExtTreeMap EventId (Option Handler) := ∅
  running : Bool := false
  sending : Option Sending := none

namespace Application

variable {Handler : Type}

inductive Effect (Handler : Type)
  | requested (promise : Nat) (requestId : RequestId)
  | completed (promise : Nat) (message : Message)
  | futureError (promise : Nat)
  | sent (frame : Frame)
  | invoked (handler : Handler) (message : Message)
deriving DecidableEq, Repr

/-- The endpoints discovered for the service, and the results of the transport's sends for each. -/
structure Network where
  endpoints : List Endpoint
  outcome : Nat → Nat → Bool

def create (clientId : ClientId) : Application Handler := { clientId := clientId }

def matchesProtocol (endpoint : Endpoint) (reliable : Bool) : Bool :=
  (endpoint.protocol == .udp && !reliable) || (endpoint.protocol == .tcp && reliable)

def sendVia (message : Message) (reliable : Bool) (outcome : Nat → Nat → Bool) :
    Nat → List Endpoint → Bool × List Frame
  | _, [] => (false, [])
  | index, endpoint :: rest =>
    if matchesProtocol endpoint reliable then
      let (sent, frames) :=
        Runtime.sendMessage message endpoint.address endpoint.port reliable (outcome index)
      if sent then (true, frames)
      else
        let (sentLater, later) := sendVia message reliable outcome (index + 1) rest
        (sentLater, frames ++ later)
    else sendVia message reliable outcome (index + 1) rest

def request (app : Application Handler) (service : ServiceId) (instance' : InstanceId)
    (method : MethodId) (payload : PayloadData) (reliable : Bool) : Message :=
  { Message.createRequest service instance' method app.clientId reliable with
    sessionId := app.sessionId }.setPayload payload

def nextRequestId (app : Application Handler) : RequestId :=
  (app.clientId.toUInt32 <<< 16) ||| app.sessionId.toUInt32

/-- The first part of `send_request`, up to the end of the block under `requests_mutex_`. -/
def sendBegin (app : Application Handler) (message : Message) (reliable : Bool)
    (timeout : Milliseconds) (now : TimePoint) : Application Handler × List (Effect Handler) :=
  let promise := app.promises.next
  ({ app with
      sessionId := app.sessionId + 1
      promises := app.promises.create
      pendingRequests := app.pendingRequests.insert message.getRequestId ⟨promise, now, timeout⟩
      sending := some ⟨message, promise, reliable⟩ },
    [.requested promise message.getRequestId])

/-- The rest of `send_request`: an unsent request completes its own promise, and stays in the map. -/
def sendFinish (app : Application Handler) (sending : Sending) (network : Network) :
    Application Handler × List (Effect Handler) :=
  let app := { app with sending := none }
  let (sent, frames) := sendVia sending.message sending.reliable network.outcome 0 network.endpoints
  if sent then (app, frames.map .sent)
  else
    let error := Message.createErrorResponse sending.message .eNotReachable
    match app.promises.setValue sending.promise error with
    | none => (app, frames.map .sent ++ [.futureError sending.promise])
    | some promises =>
      ({ app with promises := promises }, frames.map .sent ++ [.completed sending.promise error])

def sendRequestNoReturn (app : Application Handler) (service : ServiceId) (instance' : InstanceId)
    (method : MethodId) (payload : PayloadData) (reliable : Bool) (network : Network) :
    Application Handler × List (Effect Handler) :=
  let message :=
    { app.request service instance' method payload reliable with messageType := .requestNoReturn }
  ({ app with sessionId := app.sessionId + 1 },
    (sendVia message reliable network.outcome 0 network.endpoints).2.map .sent)

/-- The body of the loops over the pending requests: a promise that is already satisfied throws,
    which ends the loop. -/
def completeEach (message : Message) (eraseDone : Bool) (app : Application Handler) :
    List (RequestId × PendingRequest) → Bool × Application Handler × List (Effect Handler)
  | [] => (true, app, [])
  | (requestId, request) :: rest =>
    match app.promises.setValue request.promise message with
    | none => (false, app, [.futureError request.promise])
    | some promises =>
      let pendingRequests :=
        if eraseDone then app.pendingRequests.erase requestId else app.pendingRequests
      let (finished, app, effects) := completeEach message eraseDone
        { app with promises := promises, pendingRequests := pendingRequests } rest
      (finished, app, .completed request.promise message :: effects)

def handleResponse (app : Application Handler) (message : Message) :
    Application Handler × List (Effect Handler) :=
  match app.pendingRequests[message.getRequestId]? with
  | none => (app, [])
  | some request => (app.completeEach message true [(message.getRequestId, request)]).2

def sendErrorResponse (message : Message) (code : ReturnCode) (network : Network) : List Frame :=
  match network.endpoints.find? (·.protocol == .udp) with
  | none => []
  | some endpoint =>
    (Runtime.sendMessage (Message.createErrorResponse message code) endpoint.address endpoint.port
      false (network.outcome 0)).2

/-- `handle_message` up to its last statement, the call of `cleanup_expired_requests`. -/
def handleMessage (app : Application Handler) (message : Message) (network : Network) :
    Application Handler × List (Effect Handler) :=
  if message.isResponseType then app.handleResponse message
  else if message.isEvent then
    match app.eventHandlers[message.methodId]? with
    | some (some handler) => (app, [.invoked handler message])
    | _ => (app, [])
  else if message.isRequestType then
    match app.methodHandlers[message.methodId]? with
    | some (some handler) => (app, [.invoked handler message])
    | _ => (app, (sendErrorResponse message .eUnknownMethod network).map .sent)
  else (app, [])

def timedOut (request : PendingRequest) (now : TimePoint) : Bool :=
  (now - request.timestamp).tdiv 1000000 > request.timeout

/-- The order of an unordered map is not the program's choice: each loop is given one. -/
abbrev Traversal := Maps.Traversal RequestId PendingRequest

/-- The pending requests whose time is over, in the order in which they are come by. -/
def expired (app : Application Handler) (now : TimePoint) (traversal : Traversal) :
    List (RequestId × PendingRequest) :=
  (traversal.entries app.pendingRequests).filter fun (_, request) => timedOut request now

def cleanupExpiredRequests (app : Application Handler) (now : TimePoint) (traversal : Traversal) :
    Application Handler × List (Effect Handler) :=
  (app.completeEach (Message.createErrorResponse (Message.createRequest 0 0 0 0 false) .eTimeout) true
    (app.expired now traversal)).2

def start (app : Application Handler) : Application Handler := { app with running := true }

def stop (app : Application Handler) (traversal : Traversal) :
    Application Handler × List (Effect Handler) :=
  if !app.running then (app, [])
  else
    let (finished, app, effects) := { app with running := false }.completeEach
      (Message.createErrorResponse (Message.createRequest 0 0 0 0 false) .eNotOk) false
      (traversal.entries app.pendingRequests)
    if finished then ({ app with pendingRequests := ∅ }, effects) else (app, effects)

inductive Action (Handler : Type)
  | start
  | stop (traversal : Traversal)
  | sendBegin (service : ServiceId) (instance' : InstanceId) (method : MethodId)
      (payload : PayloadData) (reliable : Bool) (timeout : Milliseconds) (now : TimePoint)
  | sendFinish (network : Network)
  | sendRequestNoReturn (service : ServiceId) (instance' : InstanceId) (method : MethodId)
      (payload : PayloadData) (reliable : Bool) (network : Network)
  | handleMessage (message : Message) (network : Network)
  | cleanupExpiredRequests (now : TimePoint) (traversal : Traversal)
  | registerMethodHandler (method : MethodId) (handler : Option Handler)
  | unregisterMethodHandler (method : MethodId)
  | setEventHandler (event : EventId) (handler : Option Handler)

def Action.Starts : Action Handler → Prop
  | .sendBegin .. => True
  | _ => False

instance : (action : Action Handler) → Decidable action.Starts
  | .sendBegin .. => .isTrue trivial
  | .start | .stop .. | .sendFinish .. | .sendRequestNoReturn .. | .handleMessage ..
  | .cleanupExpiredRequests .. | .registerMethodHandler .. | .unregisterMethodHandler ..
  | .setEventHandler .. => .isFalse id

/-- Every critical section is one step; a call that waits for `session_mutex_` is not enabled. -/
def step : Runs.Step (Application Handler) (Action Handler) (Effect Handler) := fun app action =>
  match action with
  | .start => some (app.start, [])
  | .stop traversal => some (app.stop traversal)
  | .sendBegin service instance' method payload reliable timeout now =>
    match app.sending with
    | some _ => none
    | none => some (app.sendBegin (app.request service instance' method payload reliable) reliable
        timeout now)
  | .sendFinish network =>
    match app.sending with
    | some sending => some (app.sendFinish sending network)
    | none => none
  | .sendRequestNoReturn service instance' method payload reliable network =>
    match app.sending with
    | some _ => none
    | none => some (app.sendRequestNoReturn service instance' method payload reliable network)
  | .handleMessage message network => some (app.handleMessage message network)
  | .cleanupExpiredRequests now traversal => some (app.cleanupExpiredRequests now traversal)
  | .registerMethodHandler method handler =>
    some ({ app with methodHandlers := app.methodHandlers.insert method handler }, [])
  | .unregisterMethodHandler method =>
    some ({ app with methodHandlers := app.methodHandlers.erase method }, [])
  | .setEventHandler event handler =>
    some ({ app with eventHandlers := app.eventHandlers.insert event handler }, [])

end Application
end Msomeip
