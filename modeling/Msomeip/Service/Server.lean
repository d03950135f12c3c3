import Msomeip.Application.Responses
import Msomeip.Service.ServiceSkeleton

namespace Msomeip

open Transport

namespace Application

variable {Handler Other : Type}

def Action.map (wrap : Handler → Other) : Action Handler → Action Other
  | .start => .start
  | .stop traversal => .stop traversal
  | .sendBegin service instance' method payload reliable timeout now =>
    .sendBegin service instance' method payload reliable timeout now
  | .sendFinish network => .sendFinish network
  | .sendRequestNoReturn service instance' method payload reliable network =>
    .sendRequestNoReturn service instance' method payload reliable network
  | .handleMessage message network => .handleMessage message network
  | .cleanupExpiredRequests now traversal => .cleanupExpiredRequests now traversal
  | .registerMethodHandler method handler => .registerMethodHandler method (handler.map wrap)
  | .unregisterMethodHandler method => .unregisterMethodHandler method
  | .setEventHandler event handler => .setEventHandler event (handler.map wrap)

/-- The two tables of callbacks. -/
def handlers (app : Application Handler) :=
  (app.methodHandlers, app.eventHandlers)

theorem completeEach_handlers (message : Message) (eraseDone : Bool)
    (app : Application Handler) (entries : List (RequestId × PendingRequest)) :
    (app.completeEach message eraseDone entries).2.1.handlers = app.handlers := by
  induction entries generalizing app with
  | nil => rfl
  | cons entry rest ih =>
    simp only [completeEach]
    split
    · rfl
    · exact ih _

theorem handleMessage_handlers (app : Application Handler) (message : Message)
    (network : Network) : (app.handleMessage message network).1.handlers = app.handlers := by
  unfold handleMessage
  split
  · unfold handleResponse
    split
    · rfl
    · exact completeEach_handlers ..
  · repeat' split
    all_goals rfl

theorem stop_handlers (app : Application Handler) (traversal : Traversal) :
    (app.stop traversal).1.handlers = app.handlers := by
  simp only [stop]
  split
  · rfl
  · split
    · exact completeEach_handlers ..
    · exact completeEach_handlers ..

theorem sendFinish_handlers (app : Application Handler) (sending : Sending) (network : Network) :
    (app.sendFinish sending network).1.handlers = app.handlers := by
  simp only [sendFinish]
  split
  · rfl
  · split
    · rfl
    · rfl

theorem step_handlers {app next : Application Handler} {action : Action Handler}
    {emitted : List (Effect Handler)} (stepped : step app action = some (next, emitted)) :
    next.handlers =
      match action with
      | .registerMethodHandler method handler =>
        (app.methodHandlers.insert method handler, app.eventHandlers)
      | .unregisterMethodHandler method => (app.methodHandlers.erase method, app.eventHandlers)
      | .setEventHandler event handler =>
        (app.methodHandlers, app.eventHandlers.insert event handler)
      | _ => app.handlers := by
  cases action with
  | start | setEventHandler | registerMethodHandler | unregisterMethodHandler =>
    obtain ⟨rfl, -⟩ := Prod.mk.inj (Option.some.inj stepped)
    rfl
  | stop traversal =>
    obtain ⟨rfl, -⟩ := Prod.mk.inj (Option.some.inj stepped)
    exact app.stop_handlers traversal
  | sendBegin | sendRequestNoReturn =>
    simp only [step] at stepped
    split at stepped
    · cases stepped
    · obtain ⟨rfl, -⟩ := Prod.mk.inj (Option.some.inj stepped)
      rfl
  | sendFinish network =>
    simp only [step] at stepped
    split at stepped
    · obtain ⟨rfl, -⟩ := Prod.mk.inj (Option.some.inj stepped)
      exact app.sendFinish_handlers _ network
    · cases stepped
  | handleMessage message network =>
    obtain ⟨rfl, -⟩ := Prod.mk.inj (Option.some.inj stepped)
    exact app.handleMessage_handlers message network
  | cleanupExpiredRequests now traversal =>
    obtain ⟨rfl, -⟩ := Prod.mk.inj (Option.some.inj stepped)
    exact completeEach_handlers ..

theorem step_methodHandlers {app next : Application Handler} {action : Action Handler}
    {emitted : List (Effect Handler)} (stepped : step app action = some (next, emitted)) :
    next.methodHandlers =
      match action with
      | .registerMethodHandler method handler => app.methodHandlers.insert method handler
      | .unregisterMethodHandler method => app.methodHandlers.erase method
      | _ => app.methodHandlers := by
  have both := step_handlers stepped
  cases action <;> exact congrArg Prod.fst both

theorem step_eventHandlers {app next : Application Handler} {action : Action Handler}
    {emitted : List (Effect Handler)} (stepped : step app action = some (next, emitted)) :
    next.eventHandlers =
      match action with
      | .setEventHandler event handler => app.eventHandlers.insert event handler
      | _ => app.eventHandlers := by
  have both := step_handlers stepped
  cases action <;> exact congrArg Prod.snd both

end Application

/-- What an application calls back: a skeleton that registered itself, or a handler of the user. -/
inductive Callback (Handler : Type)
  | skeleton (index : Nat)
  | other (handler : Handler)
deriving DecidableEq, Repr

/-- An application and the skeletons that share it. -/
structure Server (Handler : Type) where
  app : Application (Callback Handler)
  skeletons : List ServiceSkeleton := []

namespace Server

variable {Handler : Type}

inductive Effect (Handler : Type)
  | application (effect : Application.Effect (Callback Handler))
  | skeleton (index : Nat) (effect : ServiceSkeleton.Effect)
  | sent (frame : Frame)
deriving DecidableEq, Repr

inductive Action (Handler : Type)
  | construct (service : ServiceId) (instance' : InstanceId)
  | registerMethod (index : Nat) (method : MethodId)
      (handler : Option (PayloadData → PayloadData))
  | registerEvent (index : Nat) (event : EventId) (eventgroup : EventgroupId)
  | registerField (index : Nat) (field : FieldId) (eventgroup : EventgroupId)
      (getter : Option PayloadData) (setter : Option (PayloadData → Bool))
  | init (index : Nat)
  | application (action : Application.Action Handler)

def create (clientId : ClientId) : Server Handler := { app := Application.create clientId }

def init (server : Server Handler) (index : Nat) : Server Handler :=
  { server with
    app := { server.app with
      methodHandlers := server.app.methodHandlers.insert 0 (some (.skeleton index)) } }

def answer (network : Application.Network) : ServiceSkeleton.Effect → List Frame
  | .responded request payload => Application.sendResponse request payload network
  | .refused request code => Application.sendErrorResponse request code network
  | .methodInvoked .. | .getterInvoked .. | .setterInvoked .. | .badFunctionCall | .notified .. => []

def relay (index : Nat) (network : Application.Network) (effect : ServiceSkeleton.Effect) :
    List (Effect Handler) :=
  .skeleton index effect :: (answer network effect).map .sent

/-- An effect of the application, with what follows where it calls back a skeleton. -/
def follow (server : Server Handler) (network : Application.Network) :
    Application.Effect (Callback Handler) → List (Effect Handler)
  | .invoked (.skeleton index) message =>
    match server.skeletons[index]? with
    | none => []
    | some skeleton => (skeleton.onMessageReceived message).flatMap (relay index network)
  | .sent frame => [.sent frame]
  | effect => [.application effect]

def handleMessage (server : Server Handler) (message : Message) (network : Application.Network) :
    Server Handler × List (Effect Handler) :=
  let (app, effects) := server.app.handleMessage message network
  ({ server with app := app }, effects.flatMap (server.follow network))

/-- A call on the skeleton of an index; there has to be one. -/
def applyTo (server : Server Handler) (index : Nat)
    (change : ServiceSkeleton → ServiceSkeleton) : Option (Server Handler × List (Effect Handler)) :=
  if index < server.skeletons.length then
    some ({ server with skeletons := server.skeletons.modify index change }, [])
  else none

def step : Runs.Step (Server Handler) (Action Handler) (Effect Handler) := fun server action =>
  match action with
  | .construct service instance' =>
    let skeleton : ServiceSkeleton := { serviceId := service, instanceId := instance' }
    some ({ server with skeletons := server.skeletons ++ [skeleton] }, [])
  | .registerMethod index method handler =>
    server.applyTo index fun skeleton => skeleton.registerMethod method handler
  | .registerEvent index event eventgroup =>
    server.applyTo index fun skeleton => skeleton.registerEvent event eventgroup
  | .registerField index field eventgroup getter setter =>
    server.applyTo index fun skeleton => skeleton.registerField field eventgroup getter setter
  | .init index =>
    if index < server.skeletons.length then some (server.init index, []) else none
  | .application (.handleMessage message network) => some (server.handleMessage message network)
  | .application action =>
    (Application.step server.app (action.map .other)).map fun (app, effects) =>
      ({ server with app := app }, effects.map .application)

end Server
end Msomeip
