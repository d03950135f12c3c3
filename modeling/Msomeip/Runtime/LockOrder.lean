import Msomeip.Library.LockOrder
import Msomeip.Sd.CallbackLocks

namespace Msomeip.LockOrder

open Locks (under)
open Sd (Callbacks.Work)

/-- The mutexes of a process with one `Runtime`; those of an `Application`, a `ServiceSkeleton` or
    a `ServiceProxy` once for each object. Those of `Sd.Callbacks` are the three of the
    `ServiceDiscovery` and the `event_configs_mutex_` of the applications. -/
inductive Mutex
  | sd (mutex : Sd.Callbacks.Mutex)
  | handlers
  | methods (application : Nat)
  | events (application : Nat)
  | session (application : Nat)
  | fields (application : Nat)
  | requests (application : Nat)
  | skeleton (object : Nat)
  | proxy (object : Nat)
  | endpointMap
  | connections
  | reassembler
  | defaultRuntime
  | pending
  | response
deriving DecidableEq

/-- The order in which the functions below take them. -/
def rank : Mutex → Nat
  | .sd .cv => 0
  | .handlers => 1
  | .methods _ | .events _ => 2
  | .skeleton _ | .proxy _ => 3
  | .session _ => 4
  | .fields _ => 5
  | .sd (.eventConfigs _) => 6
  | .sd .services | .sd .subscriptions => 7
  | .requests _ | .reassembler | .defaultRuntime | .pending | .response => 8
  | .endpointMap => 9
  | .connections => 10

/-- Code of the user that the library calls, some of it with what it is called for. -/
inductive Item
  | effect (effect : Sd.Effect)
  | handler
deriving DecidableEq

abbrev Event := Locks.Event Mutex Callbacks.Work Item

abbrev ofSd (events : List Sd.Callbacks.Event) : List Event :=
  events.map (.embed .sd .effect)

namespace ServiceDiscovery

def perform (action : Sd.Action) : List Event := ofSd (Sd.Callbacks.eventsOf action)

/-- `get_service_endpoints`, `get_subscribers` and the other getters. -/
def get : List Event := ofSd (Locks.critical Callbacks.Work.mutex .read)

end ServiceDiscovery

namespace TcpTransport

/-- What `connect` comes to: a connection that exists already, no connection, or a new one; where
    there is none yet, the endpoint may still be mapped to one that was closed. -/
inductive Connect
  | existing
  | failed (stale : Bool)
  | established (stale : Bool)

def lookup (mapped : Bool) : List Event :=
  under .endpointMap (if mapped then under .connections [] else [])

def connect : Connect → List Event
  | .existing => lookup true
  | .failed stale => lookup stale
  | .established stale => lookup stale ++ under .connections [] ++ under .endpointMap []

def sendTo : List Event := under .connections []

def sendToEndpoint (connection : Connect) : List Event :=
  connect connection ++
    match connection with
    | .failed _ => []
    | _ => sendTo

def closeConnection (known : Bool) : List Event :=
  under .connections [] ++ if known then under .endpointMap [] else []

def hasConnection : List Event := under .endpointMap []

def acceptThread : List Event := under .connections []

end TcpTransport

/-- How a message is sent: by UDP, or by TCP in some segments. -/
inductive Transmission
  | unreliable
  | reliable (segments : List TcpTransport.Connect)

namespace Runtime

def sendMessage : Transmission → List Event
  | .unreliable => []
  | .reliable segments => segments.flatMap TcpTransport.sendToEndpoint

def get : List Event := under .defaultRuntime []

def setDefault : List Event := under .defaultRuntime []

def registerServiceHandler : List Event := under .handlers []

def unregisterServiceHandler : List Event := under .handlers []

end Runtime

namespace Application

variable (app : Nat)

def stop : List Event := under (.requests app) []

/-- With the sends it tries, one endpoint after the other. -/
def sendRequest (sends : List Transmission) : List Event :=
  under (.session app)
    (under (.requests app) [] ++ ServiceDiscovery.get ++ sends.flatMap Runtime.sendMessage)

def sendRequestNoReturn (sends : List Transmission) : List Event :=
  under (.session app) (ServiceDiscovery.get ++ sends.flatMap Runtime.sendMessage)

/-- `none` where the agent of the shared memory takes the subscription. -/
def subscribeEvent (subscription : Option Sd.Action) : List Event :=
  under (.sd (.eventConfigs app)) (subscription.toList.flatMap ServiceDiscovery.perform)

def setEventHandler : List Event := under (.events app) []

def registerMethodHandler : List Event := under (.methods app) []

def unregisterMethodHandler : List Event := under (.methods app) []

/-- A response goes out by UDP only. -/
def sendResponse : List Event := ServiceDiscovery.get ++ Runtime.sendMessage .unreliable

def sendErrorResponse : List Event := ServiceDiscovery.get ++ Runtime.sendMessage .unreliable

def offerEvent (eventgroup : Sd.Action) : List Event :=
  under (.sd (.eventConfigs app)) (ServiceDiscovery.perform eventgroup)

/-- `none` where the event is not configured. -/
def stopOfferEvent (eventgroup : Option Sd.Action) : List Event :=
  under (.sd (.eventConfigs app)) (eventgroup.toList.flatMap ServiceDiscovery.perform)

/-- One transmission for each subscriber; `none` where the event is not configured. -/
def notifyEvent (subscribers : Option (List Transmission)) : List Event :=
  under (.sd (.eventConfigs app)) (subscribers.toList.flatMap fun sends =>
    ServiceDiscovery.get ++ sends.flatMap Runtime.sendMessage)

def offerField (eventgroup : Sd.Action) : List Event :=
  under (.fields app) (offerEvent app eventgroup)

def setFieldValue (subscribers : Option (List Transmission)) : List Event :=
  under (.fields app) [] ++ notifyEvent app subscribers

def cleanupExpiredRequests : List Event := under (.requests app) []

end Application

namespace ServiceSkeleton

/-- What `on_message_received` finds: nothing to do, no handler, a method handler, a getter or a
    setter that refuses, and a setter that accepts. -/
inductive Call
  | ignored
  | missing
  | answered
  | changed (subscribers : Option (List Transmission))

def onMessageReceived (app object : Nat) : Call → List Event
  | .ignored => []
  | .missing => under (.skeleton object) Application.sendErrorResponse
  | .answered => under (.skeleton object) ([.deliver .handler] ++ Application.sendResponse)
  | .changed subscribers =>
    under (.skeleton object) ([.deliver .handler] ++ Application.sendResponse ++
      Application.notifyEvent app subscribers)

/-- `register_method`, `register_field_getter`, `register_field_setter` and `register_event`. -/
def register (object : Nat) : List Event := under (.skeleton object) []

def registerField (object : Nat) : List Event :=
  register object ++ register object ++ under (.skeleton object) []

def offer (app : Nat) (service : Sd.Action) (eventgroups : List Sd.Action) : List Event :=
  ServiceDiscovery.perform service ++ eventgroups.flatMap (Application.offerEvent app)

def stopOffer (app : Nat) (service : Sd.Action) (eventgroups : List (Option Sd.Action)) :
    List Event :=
  ServiceDiscovery.perform service ++ eventgroups.flatMap (Application.stopOfferEvent app)

end ServiceSkeleton

namespace ServiceProxy

def onEventReceived (object : Nat) (found : Bool) : List Event :=
  under (.proxy object) (if found then [.deliver .handler] else [])

def subscribeEvent (app object : Nat) (subscription : Option Sd.Action) : List Event :=
  under (.proxy object) [] ++ Application.setEventHandler app ++
    Application.subscribeEvent app subscription

def unsubscribeEvent (object : Nat) (subscription : Sd.Action) : List Event :=
  under (.proxy object) [] ++ ServiceDiscovery.perform subscription

end ServiceProxy

namespace Application

/-- What `handle_message` does with a message, and which handler is registered for it. -/
inductive Received
  | response
  | unknownEvent
  | event
  | proxyEvent (object : Nat) (found : Bool)
  | unknownMethod
  | request
  | skeletonRequest (object : Nat) (call : ServiceSkeleton.Call)
  | other

def dispatch (app : Nat) : Received → List Event
  | .response => under (.requests app) []
  | .unknownEvent => under (.events app) []
  | .event => under (.events app) [.deliver .handler]
  | .proxyEvent object found => under (.events app) (ServiceProxy.onEventReceived object found)
  | .unknownMethod => under (.methods app) sendErrorResponse
  | .request => under (.methods app) [.deliver .handler]
  | .skeletonRequest object call =>
    under (.methods app) (ServiceSkeleton.onMessageReceived app object call)
  | .other => []

def handleMessage (app : Nat) (received : Received) : List Event :=
  dispatch app received ++ cleanupExpiredRequests app

end Application

namespace Runtime

/-- The calls of the reassembler before a message is routed. -/
inductive Reassembly
  | unsegmented
  | waiting
  | completed

def reassembly : Reassembly → List Event
  | .unsegmented => []
  | .waiting => under .reassembler []
  | .completed => under .reassembler [] ++ under .reassembler []

/-- What the service handler is that a message is routed to. -/
inductive Route
  | missing
  | handler
  | application (app : Nat) (received : Application.Received)

def route : Route → List Event
  | .missing => under .handlers []
  | .handler => under .handlers [.deliver .handler]
  | .application app received => under .handlers (Application.handleMessage app received)

/-- A message that waits for others is not routed; one for the service discovery is not either. -/
def onUdpMessageReceived (segments : Reassembly) (sdMessage : Option Sd.Callbacks.Operation)
    (routed : Option Route) : List Event :=
  reassembly segments ++ ofSd (sdMessage.toList.flatMap Sd.Callbacks.Operation.events) ++
    routed.toList.flatMap route

def onTcpMessageReceived (segments : Reassembly) (routed : Option Route) : List Event :=
  reassembly segments ++ routed.toList.flatMap route

end Runtime

namespace ShmAgent

/-- Whether the command of `lookup_subscribers` was sent, and whether a response came. -/
def lookupSubscribers (sent answered : Bool) : List Event :=
  under .pending [] ++
    if sent then under .response [] ++ (if answered then [] else under .pending [])
    else under .pending []

end ShmAgent

/-- What a thread can call. The functions that only wait for a thread (`start`, and `stop` of the
    `Runtime`, of the transports and of the `ServiceDiscovery`) are not among them. -/
inductive Operation
  | serviceDiscovery (operation : Sd.Callbacks.Operation)
  | connect (connection : TcpTransport.Connect)
  | sendTo
  | sendToEndpoint (connection : TcpTransport.Connect)
  | closeConnection (known : Bool)
  | hasConnection
  | acceptThread
  | runtimeGet
  | setDefault
  | sendMessage (transmission : Transmission)
  | registerServiceHandler
  | unregisterServiceHandler
  | onUdpMessageReceived (segments : Runtime.Reassembly)
      (sdMessage : Option Sd.Callbacks.Operation) (routed : Option Runtime.Route)
  | onTcpMessageReceived (segments : Runtime.Reassembly) (routed : Option Runtime.Route)
  | applicationStop (app : Nat)
  | sendRequest (app : Nat) (sends : List Transmission)
  | sendRequestNoReturn (app : Nat) (sends : List Transmission)
  | subscribeEvent (app : Nat) (subscription : Option Sd.Action)
  | setEventHandler (app : Nat)
  | registerMethodHandler (app : Nat)
  | unregisterMethodHandler (app : Nat)
  | sendResponse
  | sendErrorResponse
  | offerEvent (app : Nat) (eventgroup : Sd.Action)
  | stopOfferEvent (app : Nat) (eventgroup : Option Sd.Action)
  | notifyEvent (app : Nat) (subscribers : Option (List Transmission))
  | offerField (app : Nat) (eventgroup : Sd.Action)
  | setFieldValue (app : Nat) (subscribers : Option (List Transmission))
  | handleMessage (app : Nat) (received : Application.Received)
  | registerMethod (object : Nat)
  | registerField (object : Nat)
  | offer (app : Nat) (service : Sd.Action) (eventgroups : List Sd.Action)
  | stopOffer (app : Nat) (service : Sd.Action) (eventgroups : List (Option Sd.Action))
  | proxySubscribeEvent (app object : Nat) (subscription : Option Sd.Action)
  | proxyUnsubscribeEvent (object : Nat) (subscription : Sd.Action)
  | lookupSubscribers (sent answered : Bool)

namespace Operation

def events : Operation → List Event
  | .serviceDiscovery operation => ofSd operation.events
  | .connect connection => TcpTransport.connect connection
  | .sendTo => TcpTransport.sendTo
  | .sendToEndpoint connection => TcpTransport.sendToEndpoint connection
  | .closeConnection known => TcpTransport.closeConnection known
  | .hasConnection => TcpTransport.hasConnection
  | .acceptThread => TcpTransport.acceptThread
  | .runtimeGet => Runtime.get
  | .setDefault => Runtime.setDefault
  | .sendMessage transmission => Runtime.sendMessage transmission
  | .registerServiceHandler => Runtime.registerServiceHandler
  | .unregisterServiceHandler => Runtime.unregisterServiceHandler
  | .onUdpMessageReceived segments sdMessage routed =>
    Runtime.onUdpMessageReceived segments sdMessage routed
  | .onTcpMessageReceived segments routed => Runtime.onTcpMessageReceived segments routed
  | .applicationStop app => Application.stop app
  | .sendRequest app sends => Application.sendRequest app sends
  | .sendRequestNoReturn app sends => Application.sendRequestNoReturn app sends
  | .subscribeEvent app subscription => Application.subscribeEvent app subscription
  | .setEventHandler app => Application.setEventHandler app
  | .registerMethodHandler app => Application.registerMethodHandler app
  | .unregisterMethodHandler app => Application.unregisterMethodHandler app
  | .sendResponse => Application.sendResponse
  | .sendErrorResponse => Application.sendErrorResponse
  | .offerEvent app eventgroup => Application.offerEvent app eventgroup
  | .stopOfferEvent app eventgroup => Application.stopOfferEvent app eventgroup
  | .notifyEvent app subscribers => Application.notifyEvent app subscribers
  | .offerField app eventgroup => Application.offerField app eventgroup
  | .setFieldValue app subscribers => Application.setFieldValue app subscribers
  | .handleMessage app received => Application.handleMessage app received
  | .registerMethod object => ServiceSkeleton.register object
  | .registerField object => ServiceSkeleton.registerField object
  | .offer app service eventgroups => ServiceSkeleton.offer app service eventgroups
  | .stopOffer app service eventgroups => ServiceSkeleton.stopOffer app service eventgroups
  | .proxySubscribeEvent app object subscription =>
    ServiceProxy.subscribeEvent app object subscription
  | .proxyUnsubscribeEvent object subscription =>
    ServiceProxy.unsubscribeEvent object subscription
  | .lookupSubscribers sent answered => ShmAgent.lookupSubscribers sent answered

def joins : Operation → Bool
  | .serviceDiscovery .stop => true
  | _ => false

end Operation

def run (work : Callbacks.Work) (sd : Sd.ServiceDiscovery) : Sd.ServiceDiscovery × List Item :=
  ((work.run sd).1, (work.run sd).2.map .effect)

def callsBack : Item → Bool
  | .effect (.invoked _) => false
  | _ => true

/-- Any thread may start any operation, and so may the code that it calls back. -/
def system : Locks.System Sd.ServiceDiscovery Nat Mutex Callbacks.Work Item Operation where
  run := run
  needs := fun work => work.mutex.map .sd
  callsBack := callsBack
  events := Operation.events
  starts := fun _ operation => !operation.joins
  reenters := fun operation => !operation.joins

abbrev State := Locks.State Sd.ServiceDiscovery Nat Mutex Callbacks.Work Item

def create (config : Sd.Config) : State := .idle (Sd.ServiceDiscovery.create config)

section Order

open Locks

/-- Where a work of the service discovery needs a mutex, it is one of the two of its tables. -/
theorem rank_mutex {work : Callbacks.Work} {mutex : Sd.Callbacks.Mutex}
    (needs : work.mutex = some mutex) : rank (.sd mutex) = 7 := by
  have table : mutex = .services ∨ mutex = .subscriptions := by
    cases work with
    | perform action =>
      cases action with
      | handle call moment => cases call <;> simp_all [Callbacks.Work.mutex, Sd.Callbacks.mutexOf]
      | _ => simp_all [Callbacks.Work.mutex, Sd.Callbacks.mutexOf]
    | _ => simp_all [Callbacks.Work.mutex]
  rcases table with rfl | rfl <;> rfl

theorem above_critical (work : Callbacks.Work) :
    Above rank 7 (ofSd (critical Callbacks.Work.mutex work)) := by
  unfold critical
  split
  · rename_i mutex needs
    have level := rank_mutex needs
    rw [ofSd, map_under]
    apply above_under (le_of_eq level.symm) (Nat.lt_succ_self _)
    exact above_work work
  · exact above_work work

theorem above_eventsOf (action : Sd.Action) : Above rank 7 (ofSd (Sd.Callbacks.eventsOf action)) := by
  have invoked : ofSd ((Sd.Callbacks.invocation action).map .deliver) =
      ((Sd.Callbacks.invocation action).map Item.effect).map .deliver := by
    rw [ofSd, List.map_map, List.map_map]
    rfl
  rw [ofSd, Sd.Callbacks.eventsOf, List.map_append, List.map_flatMap]
  apply Above.append
  · have delivered : Above rank 7 (ofSd ((Sd.Callbacks.invocation action).map .deliver)) := by
      rw [invoked]
      exact above_deliver _
    exact delivered
  · exact Above.flatMap fun work _ => above_critical work

theorem above_taking (mutex : Mutex) {events : List Event}
    (inside : Above rank (rank mutex + 1) events) : Above rank (rank mutex) (under mutex events) :=
  above_under le_rfl (Nat.lt_succ_self _) inside

theorem above_leaf (mutex : Mutex) : Above rank (rank mutex) (under mutex [] : List Event) :=
  above_taking mutex above_nil

theorem above_handler {level : Nat} : Above rank level ([.deliver .handler] : List Event) :=
  above_deliver [Item.handler]

theorem above_sdEvents (operation : Sd.Callbacks.Operation) :
    Above rank 0 (ofSd operation.events) := by
  have actions : ∀ list : List Sd.Action,
      Above rank 7 (ofSd (list.flatMap Sd.Callbacks.eventsOf)) := by
    intro list
    rw [ofSd, List.map_flatMap]
    exact Above.flatMap fun action _ => above_eventsOf action
  have getter := (above_critical .read).mono (Nat.zero_le 7)
  cases operation with
  | perform action => exact (above_eventsOf action).mono (Nat.zero_le 7)
  | processSdMessage message beyond moments =>
    rw [ofSd, Sd.Callbacks.Operation.events, List.map_flatMap]
    exact Above.flatMap fun handler _ => (above_eventsOf _).mono (Nat.zero_le 7)
  | start => exact above_nil
  | stop => exact above_nil
  | notifyEvent application config =>
    rw [ofSd, Sd.Callbacks.Operation.events, map_under, List.map_flatMap]
    apply Above.mono _ (Nat.zero_le 6)
    apply above_taking (.sd (.eventConfigs application))
    exact Above.flatMap fun _ _ => above_critical .read
  | workerThread now offersDue =>
    rw [ofSd, Sd.Callbacks.Operation.events, map_under]
    exact above_taking (.sd .cv) ((actions _).mono (show 1 ≤ 7 by decide))
  | _ => exact getter

theorem above_get : Above rank 7 ServiceDiscovery.get := above_critical .read

theorem above_lookup (mapped : Bool) : Above rank 9 (TcpTransport.lookup mapped) := by
  apply above_taking .endpointMap
  cases mapped with
  | true => exact above_leaf .connections
  | false => exact above_nil

theorem above_connect (connection : TcpTransport.Connect) :
    Above rank 9 (TcpTransport.connect connection) := by
  have stored := (above_leaf .connections).mono (show 9 ≤ 10 by decide)
  cases connection with
  | existing => exact above_lookup true
  | failed stale => exact above_lookup stale
  | established stale => exact ((above_lookup stale).append stored).append (above_leaf .endpointMap)

theorem above_sendToEndpoint (connection : TcpTransport.Connect) :
    Above rank 9 (TcpTransport.sendToEndpoint connection) := by
  have sent := (above_leaf .connections).mono (show 9 ≤ 10 by decide)
  apply (above_connect connection).append
  cases connection with
  | failed stale => exact above_nil
  | existing => exact sent
  | established stale => exact sent

theorem above_closeConnection (known : Bool) :
    Above rank 9 (TcpTransport.closeConnection known) := by
  apply ((above_leaf .connections).mono (show 9 ≤ 10 by decide)).append
  cases known with
  | true => exact above_leaf .endpointMap
  | false => exact above_nil

theorem above_sendMessage (transmission : Transmission) :
    Above rank 9 (Runtime.sendMessage transmission) := by
  cases transmission with
  | unreliable => exact above_nil
  | reliable segments => exact Above.flatMap fun segment _ => above_sendToEndpoint segment

/-- Endpoints are looked up before anything is sent. -/
theorem above_sends (sends : List Transmission) :
    Above rank 7 (ServiceDiscovery.get ++ sends.flatMap Runtime.sendMessage) := by
  apply above_get.append
  apply Above.flatMap
  intro transmission _
  exact (above_sendMessage transmission).mono (show 7 ≤ 9 by decide)

theorem above_respond : Above rank 7 (ServiceDiscovery.get ++ Runtime.sendMessage .unreliable) :=
  above_get.append above_nil

theorem above_sendRequest (app : Nat) (sends : List Transmission) :
    Above rank 4 (Application.sendRequest app sends) := by
  apply above_taking (.session app)
  rw [List.append_assoc]
  have stored := (above_leaf (.requests app)).mono (show 5 ≤ 8 by decide)
  exact stored.append ((above_sends sends).mono (show 5 ≤ 7 by decide))

theorem above_eventgroup (app : Nat) (action : Option Sd.Action) :
    Above rank 6 (under (.sd (.eventConfigs app))
      (action.toList.flatMap ServiceDiscovery.perform)) := by
  apply above_taking (.sd (.eventConfigs app))
  exact Above.flatMap fun action _ => above_eventsOf action

theorem above_offerEvent (app : Nat) (eventgroup : Sd.Action) :
    Above rank 6 (Application.offerEvent app eventgroup) :=
  above_taking (.sd (.eventConfigs app)) (above_eventsOf eventgroup)

theorem above_notifyEvent (app : Nat) (subscribers : Option (List Transmission)) :
    Above rank 6 (Application.notifyEvent app subscribers) := by
  apply above_taking (.sd (.eventConfigs app))
  exact Above.flatMap fun sends _ => above_sends sends

theorem above_onMessageReceived (app object : Nat) (call : ServiceSkeleton.Call) :
    Above rank 3 (ServiceSkeleton.onMessageReceived app object call) := by
  have respond := above_respond.mono (show 4 ≤ 7 by decide)
  cases call with
  | ignored => exact above_nil
  | missing => exact above_taking (.skeleton object) respond
  | answered => exact above_taking (.skeleton object) (above_handler.append respond)
  | changed subscribers =>
    have notify := (above_notifyEvent app subscribers).mono (show 4 ≤ 6 by decide)
    exact above_taking (.skeleton object) ((above_handler.append respond).append notify)

theorem above_onEventReceived (object : Nat) (found : Bool) :
    Above rank 3 (ServiceProxy.onEventReceived object found) := by
  apply above_taking (.proxy object)
  cases found with
  | true => exact above_handler
  | false => exact above_nil

theorem above_handleMessage (app : Nat) (received : Application.Received) :
    Above rank 2 (Application.handleMessage app received) := by
  have respond := above_respond.mono (show 3 ≤ 7 by decide)
  have completed := (above_leaf (.requests app)).mono (show 2 ≤ 8 by decide)
  apply Above.append _ completed
  cases received with
  | response => exact completed
  | unknownEvent => exact above_leaf (.events app)
  | event => exact above_taking (.events app) above_handler
  | proxyEvent object found =>
    exact above_taking (.events app) (above_onEventReceived object found)
  | unknownMethod => exact above_taking (.methods app) respond
  | request => exact above_taking (.methods app) above_handler
  | skeletonRequest object call =>
    exact above_taking (.methods app) (above_onMessageReceived app object call)
  | other => exact above_nil

theorem above_reassembly (segments : Runtime.Reassembly) :
    Above rank 8 (Runtime.reassembly segments) := by
  have taken := above_leaf .reassembler
  cases segments with
  | unsegmented => exact above_nil
  | waiting => exact taken
  | completed => exact taken.append taken

theorem above_routed (routed : Option Runtime.Route) :
    Above rank 1 (routed.toList.flatMap Runtime.route) := by
  apply Above.flatMap
  intro route _
  cases route with
  | missing => exact above_leaf .handlers
  | handler => exact above_taking .handlers above_handler
  | application app received => exact above_taking .handlers (above_handleMessage app received)

theorem above_onUdpMessageReceived (segments : Runtime.Reassembly)
    (sdMessage : Option Sd.Callbacks.Operation) (routed : Option Runtime.Route) :
    Above rank 0 (Runtime.onUdpMessageReceived segments sdMessage routed) := by
  have processed : Above rank 0 (ofSd (sdMessage.toList.flatMap Sd.Callbacks.Operation.events)) := by
    rw [ofSd, List.map_flatMap]
    exact Above.flatMap fun operation _ => above_sdEvents operation
  have reassembled := (above_reassembly segments).mono (Nat.zero_le 8)
  exact (reassembled.append processed).append ((above_routed routed).mono (Nat.zero_le 1))

theorem above_lookupSubscribers (sent answered : Bool) :
    Above rank 8 (ShmAgent.lookupSubscribers sent answered) := by
  have taken := above_leaf .pending
  apply taken.append
  cases sent with
  | false => exact taken
  | true =>
    apply (above_leaf .response).append
    cases answered with
    | false => exact taken
    | true => exact above_nil

theorem above_events (operation : Operation) : Above rank 0 operation.events := by
  have lowest : ∀ {level : Nat} {events : List Event}, Above rank level events →
      Above rank 0 events := fun above => above.mono (Nat.zero_le _)
  have leaf : ∀ mutex, Above rank 0 (under mutex [] : List Event) := fun mutex =>
    lowest (above_leaf mutex)
  cases operation with
  | serviceDiscovery operation => exact above_sdEvents operation
  | connect connection => exact lowest (above_connect connection)
  | sendToEndpoint connection => exact lowest (above_sendToEndpoint connection)
  | closeConnection known => exact lowest (above_closeConnection known)
  | sendMessage transmission => exact lowest (above_sendMessage transmission)
  | onUdpMessageReceived segments sdMessage routed =>
    exact above_onUdpMessageReceived segments sdMessage routed
  | onTcpMessageReceived segments routed =>
    exact (lowest (above_reassembly segments)).append (lowest (above_routed routed))
  | sendRequest app sends => exact lowest (above_sendRequest app sends)
  | sendRequestNoReturn app sends =>
    exact lowest (above_taking (.session app) ((above_sends sends).mono (show 5 ≤ 7 by decide)))
  | subscribeEvent app subscription => exact lowest (above_eventgroup app subscription)
  | sendResponse => exact lowest above_respond
  | sendErrorResponse => exact lowest above_respond
  | offerEvent app eventgroup => exact lowest (above_offerEvent app eventgroup)
  | stopOfferEvent app eventgroup => exact lowest (above_eventgroup app eventgroup)
  | notifyEvent app subscribers => exact lowest (above_notifyEvent app subscribers)
  | offerField app eventgroup =>
    exact lowest (above_taking (.fields app) (above_offerEvent app eventgroup))
  | setFieldValue app subscribers =>
    exact (leaf (.fields app)).append (lowest (above_notifyEvent app subscribers))
  | handleMessage app received => exact lowest (above_handleMessage app received)
  | registerField object =>
    have taken := leaf (.skeleton object)
    exact (taken.append taken).append taken
  | offer app service eventgroups =>
    apply (lowest (above_eventsOf service)).append
    exact Above.flatMap fun eventgroup _ => lowest (above_offerEvent app eventgroup)
  | stopOffer app service eventgroups =>
    apply (lowest (above_eventsOf service)).append
    exact Above.flatMap fun eventgroup _ => lowest (above_eventgroup app eventgroup)
  | proxySubscribeEvent app object subscription =>
    exact ((leaf (.proxy object)).append (leaf (.events app))).append
      (lowest (above_eventgroup app subscription))
  | proxyUnsubscribeEvent object subscription =>
    exact (leaf (.proxy object)).append (lowest (above_eventsOf subscription))
  | lookupSubscribers sent answered => exact lowest (above_lookupSubscribers sent answered)
  | _ => exact leaf _

theorem ordered (operation : Operation) : Ascending rank ∅ (system.events operation) ∅ :=
  above_events operation ∅ (by simp)

end Order

/-- Whatever the threads of the process have called, in whatever order: if the code that the
    library calls back acquires only mutexes that come after all that are held, no deadlock is
    reached, and all that was called can be finished. -/
theorem no_deadlock (config : Sd.Config) {actions : List (Locks.Action Nat Operation)}
    {items : List Item} {state : State}
    (guarded : Runs.Guarded system.step (system.Outranks rank) (create config) actions items
      state) :
    ∃ (schedule : List Nat) (later : List Item) (final : State),
      Runs.Run system.step state (schedule.map .next) later final ∧ final.AtRest :=
  Locks.System.drains_of_run ordered guarded

/-- A method handler notifies an event while another thread sends a request. -/
theorem no_deadlock_in_handler : ∃ state : State, state.owner (.methods 0) = some 0 ∧
    state.owner (.session 0) = some 1 ∧
    ∃ (schedule : List Nat) (later : List Item) (final : State),
      Runs.Run system.step state (schedule.map .next) later final ∧ final.AtRest := by
  have idle : Runs.Guarded system.step (system.Outranks rank) (create {}) [] [] (create {}) := .nil
  have received := idle.snoc ((Locks.System.climbing_run ordered idle).1.outranks rfl _)
    (rfl : system.step _ (.call 0
      (.onUdpMessageReceived .unsegmented none (some (.application 0 .request)))) = _)
  have routed := received.snoc Locks.System.outranks_next (rfl : system.step _ (.next 0) = _)
  have handled := routed.snoc Locks.System.outranks_next (rfl : system.step _ (.next 0) = _)
  have requested := handled.snoc ((Locks.System.climbing_run ordered handled).1.outranks rfl _)
    (rfl : system.step _ (.call 1 (.sendRequest 0 [])) = _)
  have locked := requested.snoc Locks.System.outranks_next (rfl : system.step _ (.next 1) = _)
  have notified := locked.snoc (by
    intro mutex member other held
    have lower : other = .methods 0 ∨ other = .handlers := by
      simp only [Locks.State.mem_held, Locks.State.owned, Locks.State.continues,
        Function.update_apply, create, Locks.State.idle] at held
      grind
    have higher : mutex = .sd (.eventConfigs 0) ∨ mutex = .sd .services := by
      simpa [Locks.acquired, system, Operation.events, Application.notifyEvent,
        ServiceDiscovery.get, Locks.under, Locks.critical, Sd.Callbacks.Work.mutex,
        Locks.Event.embed] using member
    rcases lower with rfl | rfl <;> rcases higher with rfl | rfl <;> decide)
    (rfl : system.step _ (.call 0 (.notifyEvent 0 (some []))) = _)
  exact ⟨_, rfl, rfl, no_deadlock {} notified⟩

end Msomeip.LockOrder
